import DeckPress.Proofs.Preview.Changes
import DeckPress.Proofs.Preview.Local

/-!
# Rebuilds within rebuilds

A program may ask for a rebuild while a rebuild runs it.  Such a request comes to nothing: it can
neither be told from a run without it, nor start a second program, nor leave the preview in the
state of a rebuild that has not ended.

* `Host.hushed` — the host with a program that does not ask; `Act.Hushed` — there another act does
  what the first one does; `hushed_rebuildUpTo`, by way of `hushed_byProgram` and `hushed_build`;
  `rebuildUpTo_succ_eq` — it does not matter how deep requests may nest.
* `Host.StartsAtMost` — how many programs are started; `startsAtMost_rebuildUpTo`.
* `Operated` — the hosts that runs of operations come to; `Operated.isIdle` — in none of them a
  rebuild is under way.
* `rebuilds_never_nest` — the result.
-/

namespace DeckPress

open Act Host

variable {h h' h₁ g : Host} {answer : Act Unit} {root dir contentDir theme : Path} {name : String}
  {n : Nat}

/-! ## A program that does not ask -/

/-- The program, but that it does not ask for a rebuild. -/
def Program.hushed (program : Program) : Program := { program with asksForRebuild := false }

/-- The host with a program that does not ask for a rebuild. -/
def Host.hushed (h : Host) : Host := { h with program := h.program.hushed }

theorem Host.hushed_eq (h : Host) :
    h.hushed = h.among { h.surroundings with program := h.surroundings.program.hushed } := rfl

/-- On the host with a program that does not ask, `a'` does what `a` does on the host itself. -/
def Act.Hushed {α : Type} (a a' : Act α) (h : Host) : Prop :=
  a'.on h.hushed = ((a.on h).1, (a.on h).2.hushed)

theorem Act.IsLocal.hushed {α : Type} {a : Act α} (ha : IsLocal a) (h : Host) : Hushed a a h := by
  rw [Hushed, hushed_eq, hushed_eq, ha.surroundings]
  exact ha h _

theorem Act.hushed_bind {α β : Type} {a a' : Act α} {f f' : α → Act β} (ha : Hushed a a' h)
    (hf : ∀ x h₁, a.on h = (.ok x, h₁) → Hushed (f x) (f' x) h₁) :
    Hushed (a >>= f) (a' >>= f') h := by
  unfold Hushed at ha ⊢
  rw [on_bind, on_bind, ha]
  cases hrun : a.on h with
  | mk r h₁ =>
    cases r with
    | ok x => exact hf x h₁ hrun
    | error e => rfl

theorem Rendering.Unheard.of_surroundings (ha : Unheard answer h)
    (hs : h₁.surroundings = h.surroundings) : Unheard answer h₁ := by
  have hprogram : h₁.program = h.program := congrArg Surroundings.program hs
  have hprogress : h₁.progress = h.progress := congrArg Surroundings.progress hs
  rw [Unheard, hprogram, hprogress]
  exact ha

namespace Rendering

/-- Where requests come to nothing, a run is the same without them. -/
theorem hushed_run (ha : Unheard answer h) (answer' : Act Unit) (command : List String)
    (directory : Path) :
    Hushed (run answer command directory) (run answer' command directory) h := by
  have ha' : Unheard answer' h.hushed := .of_not_asking rfl
  unfold Hushed
  cases hrun : launch h command directory with
  | mk result t =>
    cases result with
    | ok status =>
      rw [on_run_of_ok ha hrun, on_run_of_ok ha' hrun]
      rfl
    | error c =>
      rw [on_run_of_error hrun, on_run_of_error (h := h.hushed) hrun]
      rfl

theorem hushed_byProgram (ha : Unheard answer h) (answer' : Act Unit) :
    Hushed (byProgram answer root name contentDir dir theme)
      (byProgram answer' root name contentDir dir theme) h := by
  refine hushed_bind ((Program.isLocal_find? _ _ _).hushed h) fun found h₁ hfind => ?_
  cases (Program.isQuery_find? _ _ _).eq hfind
  cases found with
  | none => exact (isLocal_throw _).hushed h
  | some path =>
    refine hushed_bind (hushed_run ha answer' _ _) fun result h₁ _ => IsLocal.hushed ?_ h₁
    -- What the run came to is only reported.
    cases result with
    | error c =>
      simp only
      split
      · exact isLocal_throw _
      · exact isLocal_fail _
    | ok status =>
      simp only
      split
      · exact isLocal_throw _
      · exact isLocal_pure _

end Rendering

theorem Site.hushed_build {settings : Settings} (ha : Rendering.Unheard answer h)
    (answer' : Act Unit) : Hushed (build answer root none (some settings) (some dir))
      (build answer' root none (some settings) (some dir)) h := by
  -- The texts of the settings are read on the way.
  have hread : ∀ {key : String} {rest rest' : String → Act Result},
      (∀ text, Hushed (rest text) (rest' text) h) →
        Hushed (Act.lift (settings.text key) >>= rest)
          (Act.lift (settings.text key) >>= rest') h := by
    intro key rest rest' hrest
    refine hushed_bind ((isLocal_lift _).hushed h) fun text h₁ hlift => ?_
    cases (isQuery_lift _).eq hlift
    exact hrest text
  unfold build
  simp only [pure_bind]
  refine hread fun renderer => hread fun contentDir => hread fun theme => ?_
  refine hushed_bind (Rendering.hushed_byProgram ha answer') fun _ h₁ _ => ?_
  exact ((isLocal_lift _).bind fun readme => isLocal_finish dir readme).hushed h₁

namespace Preview

variable {p : Preview}

theorem hushed_build (ha : Rendering.Unheard answer h) (answer' : Act Unit) :
    Hushed (p.build answer) (p.build answer') h := by
  refine hushed_bind ((isLocal_prepare p).hushed h) fun staging h₁ hprepare => ?_
  have hs := (isLocal_prepare p).surroundings h
  rw [hprepare] at hs
  refine hushed_bind (Site.hushed_build (ha.of_surroundings hs) answer') fun _ h₂ _ => ?_
  exact (isLocal_activate p staging).hushed h₂

theorem concluded_hushed (signature? : Option Signature) (r : Except Failure Unit) (g : Host) :
    concluded signature? r g.hushed =
      ((concluded signature? r g).1, (concluded signature? r g).2.hushed) := by
  cases r with
  | ok u => rfl
  | error f =>
    rw [concluded, concluded]
    cases reportOf f <;> rfl

/-- A rebuild whose program asks for rebuilds is the same without the requests, and so it does not
matter how deep they may nest. -/
theorem hushed_rebuildUpTo (p : Preview) (n m : Nat) (h : Host) :
    Hushed (p.rebuildUpTo (n + 1)) (p.rebuildUpTo (m + 1)) h := by
  have hsignature : p.signature.on h.hushed =
      ((p.signature.on h).1, (p.signature.on h).2.hushed) := (isLocal_signature p).hushed h
  have hbuild : (p.build (p.rebuildUpTo m)).on (begun h.hushed) =
      (((p.build (p.rebuildUpTo n)).on (begun h)).1,
        ((p.build (p.rebuildUpTo n)).on (begun h)).2.hushed) :=
    hushed_build (h := begun h) (unheard_rebuildUpTo n rfl) _
  have hprogress : h.hushed.progress = h.progress := rfl
  have hclock : h.hushed.clock = h.clock := rfl
  unfold Hushed
  rw [on_rebuildUpTo_succ, on_rebuildUpTo_succ, hsignature, hbuild, hprogress, hclock]
  by_cases hskip : (h.progress.isRebuilding || isTooSoon h.clock h.progress.rebuiltAt) = true
  · rw [if_pos hskip, if_pos hskip]
  · rw [if_neg hskip, if_neg hskip]
    cases (p.signature.on h).1 with
    | error e => rfl
    | ok signature? =>
      simp only
      split
      · rfl
      · exact concluded_hushed _ _ _

/-- Neither builds nor requests for rebuilds change the program that is installed. -/
theorem program_rebuildUpTo (p : Preview) (n : Nat) (h : Host) :
    ((p.rebuildUpTo n).on h).2.program = h.program := by
  refine preserves_rebuildUpTo_of (P := fun g => g.program = h.program)
    (fun g g' hprogram _ => hprogram.trans)
    (fun answer ha => preserves_build_of_surroundings ?_ fun name contentDir theme => ?_) n h rfl
  · exact fun g g' hs hprogram => (congrArg Surroundings.program hs).trans hprogram
  · exact Rendering.preserves_byProgram_of (fun _ _ => id) (fun _ _ _ => id) (fun _ _ => id) ha

/-- Two levels of requests are enough. -/
theorem rebuildUpTo_succ_eq (p : Preview) (n : Nat) : p.rebuildUpTo (n + 1) = p.rebuild := by
  funext h
  show (p.rebuildUpTo (n + 1)).on h = (p.rebuildUpTo 2).on h
  have hsame := (hushed_rebuildUpTo p n 1 h).symm.trans (hushed_rebuildUpTo p 1 1 h)
  have hprogram := (program_rebuildUpTo p (n + 1) h).trans (program_rebuildUpTo p 2 h).symm
  rw [Prod.mk.injEq] at hsame
  refine Prod.ext hsame.1 ?_
  -- Two hosts with the same program are the same if they are so without its requests.
  have heq := congrArg (fun g : Host => { g with program := ((p.rebuildUpTo 2).on h).2.program })
    hsame.2
  simp only [hushed, ← hprogram] at heq
  exact heq.trans (by rw [hprogram])

end Preview

/-! ## Starts of programs -/

/-- The number of programs that are started. -/
def starts (es : List Event) : Nat := es.countP fun e => e matches .started _ _

/-- Between two states of a host at most `n` programs were started, and no event was forgotten. -/
def Host.StartsAtMost (n : Nat) (h h' : Host) : Prop :=
  ∃ es, h'.events = es ++ h.events ∧ starts es ≤ n

theorem Host.StartsAtMost.refl (n : Nat) (h : Host) : StartsAtMost n h h :=
  ⟨[], rfl, Nat.zero_le n⟩

theorem Host.StartsAtMost.of_surroundings (hstarts : StartsAtMost n h h₁)
    (hs : h'.surroundings = h₁.surroundings) : StartsAtMost n h h' := by
  have hevents : h'.events = h₁.events := congrArg Surroundings.events hs
  rw [StartsAtMost, hevents]
  exact hstarts

/-- An act on files starts no program. -/
theorem Act.IsLocal.startsAtMost {α : Type} {a : Act α} (ha : IsLocal a) :
    Preserves (StartsAtMost n h) a :=
  ha.preserves fun _ _ hs hstarts => hstarts.of_surroundings hs

namespace Rendering

theorem startsAtMost_run (ha : Unheard answer h) (command : List String) (directory : Path) :
    StartsAtMost 1 h ((run answer command directory).on h).2 := by
  cases hrun : launch h command directory with
  | mk result t =>
    cases result with
    | ok status =>
      rw [on_run_of_ok ha hrun]
      exact ⟨[.started command directory], rfl, le_rfl⟩
    | error c =>
      rw [on_run_of_error hrun]
      exact ⟨[.started command directory], rfl, le_rfl⟩

theorem startsAtMost_byProgram (ha : Unheard answer h) :
    StartsAtMost 1 h ((byProgram answer root name contentDir dir theme).on h).2 := by
  have hfind := Program.isQuery_find? name (some root) true
  refine after_bind (hfind.preserves _ h (.refl 1 h)) fun found h₁ hfound _ => ?_
  cases hfind.eq hfound
  cases found with
  | none => exact .refl 1 h
  | some path =>
    refine after_bind (startsAtMost_run ha _ _) fun result h₁ _ h1 => ?_
    cases result with
    | error c =>
      simp only
      split
      · exact h1
      · exact h1
    | ok status =>
      simp only
      split
      · exact h1
      · exact h1

end Rendering

namespace Preview

variable {p : Preview}

theorem startsAtMost_build (ha : Rendering.Unheard answer h) :
    StartsAtMost 1 h ((p.build answer).on h).2 := by
  have hprepare := (isLocal_prepare p).surroundings h
  refine after_bind (StartsAtMost.of_surroundings (.refl 1 h) hprepare) fun staging h₁ hrun _ => ?_
  rw [hrun] at hprepare
  have hevents : h₁.events = h.events := congrArg Surroundings.events hprepare
  have hsite : StartsAtMost 1 h₁
      ((Site.build answer p.root none (some p.settings) (some staging)).on h₁).2 :=
    Site.after_build (.refl 1 h₁)
      (fun _ _ _ => Rendering.startsAtMost_byProgram (ha.of_surroundings hprepare))
      fun readme g _ => (Site.isLocal_finish staging readme).startsAtMost g
  have hbuilt := after_bind hsite fun _ h₂ _ h2 => (isLocal_activate p staging).startsAtMost h₂ h2
  rw [StartsAtMost, ← hevents]
  exact hbuilt

theorem starts_report (r : Except Failure Unit) : starts (report r) = 0 := by
  cases r with
  | ok u => rfl
  | error f =>
    rw [report]
    cases reportOf f <;> rfl

/-- What is printed before and after a build is no start of a program. -/
theorem startsAtMost_concluded (hstarts : StartsAtMost n (begun h) g)
    (signature? : Option Signature) (r : Except Failure Unit) :
    StartsAtMost n h (concluded signature? r g).2 := by
  obtain ⟨es, hes, hn⟩ := hstarts
  refine ⟨report r ++ (es ++ [.printed announcement]), ?_, ?_⟩
  · rw [events_concluded, hes, List.append_assoc, List.append_assoc]
    rfl
  · have hsum : starts (report r ++ (es ++ [.printed announcement])) =
        starts (report r) + (starts es + 0) := by
      simp only [starts, List.countP_append]
      rfl
    rw [hsum, starts_report]
    omega

/-- Whatever comes of it, a rebuild starts one program or none. -/
theorem startsAtMost_rebuildUpTo (p : Preview) (n : Nat) (h : Host) :
    StartsAtMost 1 h ((p.rebuildUpTo n).on h).2 := by
  cases n with
  | zero => exact .refl 1 h
  | succ n =>
    refine after_rebuildUpTo (.refl 1 h) fun signature? => startsAtMost_concluded ?_ _ _
    exact startsAtMost_build (unheard_rebuildUpTo n rfl)

/-! ## Rebuilds that have not ended -/

/-- No rebuild is under way. -/
def IsIdle (h : Host) : Prop := h.progress.isRebuilding = false

theorem IsIdle.of_surroundings (hidle : IsIdle h) (hs : h'.surroundings = h.surroundings) :
    IsIdle h' := by
  have hprogress : h'.progress = h.progress := congrArg Surroundings.progress hs
  rw [IsIdle, hprogress]
  exact hidle

theorem isIdle_concluded (signature? : Option Signature) (r : Except Failure Unit) (g : Host) :
    IsIdle (concluded signature? r g).2 := by
  cases r with
  | ok u => rfl
  | error e => rw [IsIdle, progress_concluded_error]

/-- However a rebuild ends, it has ended. -/
theorem isIdle_rebuildUpTo (p : Preview) (n : Nat) : Preserves IsIdle (p.rebuildUpTo n) := by
  intro h hidle
  cases n with
  | zero => exact hidle
  | succ n => exact after_rebuildUpTo hidle fun signature? => isIdle_concluded _ _ _

/-- A build that the program asks for rebuilds has waited for their ends. -/
theorem isIdle_build (ha : Preserves IsIdle answer) : Preserves IsIdle (p.build answer) := by
  apply preserves_build_of_surroundings
  · exact fun g g' hs hidle => hidle.of_surroundings hs
  · intro name contentDir theme
    exact Rendering.preserves_byProgram_of (fun _ _ hidle => hidle) (fun _ _ _ hidle => hidle)
      (fun _ _ hidle => hidle) ha

/-- A request is not called for, or it is one for a rebuild. -/
theorem act_request (p : Preview) (request : Request) :
    request.act p = pure () ∨ request.act p = p.rebuild := by
  cases request with
  | rebuild => exact .inr rfl
  | change file isDirectory =>
    show p.onChange file isDirectory = _ ∨ p.onChange file isDirectory = _
    rw [onChange]
    split
    · exact .inl rfl
    · exact .inr rfl

/-- What can be done with a preview. -/
inductive Operation where
  | ask (request : Request)
  | build
  | prepare
  | activate (staging : Path)

/-- What is done for an operation. -/
def Operation.act (p : Preview) : Operation → Act Unit
  | ask request => request.act p
  | build => p.build p.rebuild
  | prepare => p.prepare >>= fun _ => pure ()
  | activate staging => p.activate staging

/-- The hosts that are come to by operations, however they end.  Between them anything may change
but how far the preview has come. -/
inductive Operated (p : Preview) : Host → Prop where
  | new {h : Host} (hnew : h.progress = {}) : Operated p h
  | world {h h' : Host} (hbefore : Operated p h) (hkept : h'.progress = h.progress) : Operated p h'
  | call {h h' : Host} {r : Except Failure Unit} (hbefore : Operated p h) (operation : Operation)
      (hrun : (operation.act p).on h = (r, h')) : Operated p h'

theorem isIdle_operation (p : Preview) (operation : Operation) :
    Preserves IsIdle (operation.act p) := by
  have hlocal : ∀ {a : Act Unit}, IsLocal a → Preserves IsIdle a := fun ha =>
    ha.preserves fun g g' hs hidle => hidle.of_surroundings hs
  cases operation with
  | ask request =>
    show Preserves IsIdle (request.act p)
    rcases act_request p request with hnone | hrebuild
    · rw [hnone]
      exact hlocal (isLocal_pure ())
    · rw [hrebuild]
      exact isIdle_rebuildUpTo p 2
  | build => exact isIdle_build (isIdle_rebuildUpTo p 2)
  | prepare => exact hlocal ((isLocal_prepare p).bind fun _ => isLocal_pure _)
  | activate staging => exact hlocal (isLocal_activate p staging)

theorem Operated.isIdle (hoperated : p.Operated h) : IsIdle h := by
  induction hoperated with
  | new hnew => rw [IsIdle, hnew]
  | world _ hkept ih =>
    rw [IsIdle, hkept]
    exact ih
  | call _ operation hrun ih =>
    have hidle := isIdle_operation p operation _ ih
    rwa [hrun] at hidle

/-- **Rebuilds neither nest nor get stuck.**  Whatever was done with the preview, and however it
ended, no rebuild is under way afterwards.  A request starts at most one program.  If the program
asks for a rebuild while a request runs it, the request comes to the same as with a program that
does not, so that it makes no difference how deep requests may nest. -/
theorem rebuilds_never_nest (p : Preview) :
    (∀ h, p.Operated h → h.progress.isRebuilding = false) ∧
    (∀ (request : Request) h, ∃ es, ((request.act p).on h).2.events = es ++ h.events ∧
      starts es ≤ 1) ∧
    (∀ (request : Request) h, (request.act p).on h.hushed =
      (((request.act p).on h).1, ((request.act p).on h).2.hushed)) ∧
    ∀ depth, p.rebuildUpTo (depth + 1) = p.rebuild := by
  refine ⟨fun h hoperated => hoperated.isIdle, fun request h => ?_, fun request h => ?_,
    rebuildUpTo_succ_eq p⟩
  · rcases act_request p request with hnone | hrebuild
    · rw [hnone]
      exact StartsAtMost.refl 1 h
    · rw [hrebuild]
      exact startsAtMost_rebuildUpTo p 2 h
  · rcases act_request p request with hnone | hrebuild
    · rw [hnone]
      rfl
    · rw [hrebuild]
      exact hushed_rebuildUpTo p 1 1 h

/-! ## A project -/

/-- The project with slides, and with a program that asks for a rebuild while it runs. -/
def hostAsking : Host :=
  { hostAuthored with program := { hostAuthored.program with asksForRebuild := true } }

/-- A build that is not part of a rebuild answers the request: the program is started twice, and the
build fails, since its site was put in place in the meantime.  No rebuild is under way afterwards.
A rebuild starts the program once. -/
theorem rebuilds_never_nest_asking : ∃ r h', newPreview.Operated h' ∧
    (newPreview.build newPreview.rebuild).on hostAsking = (r, h') ∧ r.isOk = false ∧
    starts (hostAsking.news h') = 2 ∧ h'.progress.isRebuilding = false ∧
    (newPreview.rebuild.on hostAsking).1.isOk = true ∧
    starts (hostAsking.news (newPreview.rebuild.on hostAsking).2) = 1 ∧
    newPreview.rebuild.on hostAsking.hushed =
      ((newPreview.rebuild.on hostAsking).1, (newPreview.rebuild.on hostAsking).2.hushed) := by
  have hfacts : ∀ result, (newPreview.build newPreview.rebuild).on hostAsking = result →
      result.1.isOk = false ∧ starts (hostAsking.news result.2) = 2 := by
    rintro result rfl
    decide +kernel
  cases hrun : (newPreview.build newPreview.rebuild).on hostAsking with
  | mk r h' =>
    obtain ⟨hfailed, htwice⟩ := hfacts _ hrun
    have hoperated : newPreview.Operated h' := .call (.new (h := hostAsking) rfl) .build hrun
    obtain ⟨hidle, -, hsame, -⟩ := rebuilds_never_nest newPreview
    exact ⟨r, h', hoperated, rfl, hfailed, htwice, hidle h' hoperated, by decide +kernel,
      by decide +kernel, hsame .rebuild hostAsking⟩

end Preview

end DeckPress
