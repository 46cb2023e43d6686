import DeckPress.Proofs.Preview.Rebuild

/-!
# What a preview remembers

A preview remembers the signature of the sources from which it built last.  Over runs of any length,
in which the files, the clock and the failures that wait change in any way between the calls and the
program may change anything while it runs, the signature that is remembered is never ahead of the
site.

* `Log` — what an observer writes down of the calls; `Reached` — the states of the log and the host
  that runs come to.
* `Faithful` — the invariant that relates what is remembered to the log; `Faithful.call` is its
  step.
* `saw_start_of_build` — a build that gets to the program starts it.
* `signature_never_ahead` — what is remembered is the signature from before the last build that
  succeeded, and so a call builds again after a failure, and after a change during a build.
-/

namespace DeckPress

open Act Host

/-- Between two states of a host the event was seen, and none was forgotten. -/
def Host.Saw (e : Event) (h h' : Host) : Prop := ∃ es, h'.events = es ++ h.events ∧ e ∈ es

namespace Host

variable {e : Event} {h h₁ h' : Host} {D : Loc → Prop}

theorem Saw.mem_news (hsaw : Saw e h h') : e ∈ h.news h' := by
  obtain ⟨es, hes, he⟩ := hsaw
  rwa [news_eq hes]

theorem Saw.after_course (hc : Course D h h₁) (hsaw : Saw e h₁ h') : Saw e h h' := by
  obtain ⟨es, hes, -⟩ := hc.events
  obtain ⟨es', hes', he⟩ := hsaw
  exact ⟨es' ++ es, by rw [hes', hes, List.append_assoc], List.mem_append_left _ he⟩

theorem Saw.before_course (hsaw : Saw e h h₁) (hc : Course D h₁ h') : Saw e h h' := by
  obtain ⟨es, hes, he⟩ := hsaw
  obtain ⟨es', hes', -⟩ := hc.events
  exact ⟨es' ++ es, by rw [hes', hes, List.append_assoc], List.mem_append_right _ he⟩

end Host

/-- What was seen of an act has been seen of a sequence that goes on from it quietly. -/
theorem Act.saw_bind {α β : Type} {e : Event} {h : Host} {a : Act α} {f : α → Act β}
    (hsaw : Saw e h (a.on h).2) (hf : ∀ x, IsQuiet (f x)) : Saw e h ((a >>= f).on h).2 := by
  rw [on_bind]
  cases hrun : a.on h with
  | mk r h₁ =>
    rw [hrun] at hsaw
    cases r with
    | ok x => exact hsaw.before_course (hf x h₁)
    | error e => exact hsaw

variable {h h' h₁ g : Host} {answer : Act Unit} {name program : String}
  {root contentDir outputDir theme : Path} {settings : Settings}

/-! ## The start of the program -/

theorem Rendering.saw_start_of_byProgram
    (hfind : (Program.find? name (some root) true).on h = (.ok (some program), h))
    (ha : Unheard answer h) :
    Saw (.started (command program contentDir outputDir theme) root) h
      ((byProgram answer root name contentDir outputDir theme).on h).2 := by
  have hsaw : ∀ t, Saw (.started (command program contentDir outputDir theme) root) h
      (h.ran (command program contentDir outputDir theme) root t) :=
    fun t => ⟨[_], rfl, List.mem_singleton_self _⟩
  unfold byProgram
  rw [on_bind, hfind]
  simp only
  rw [on_bind]
  cases hrun : launch h (command program contentDir outputDir theme) root with
  | mk result t =>
    cases result with
    | ok status =>
      rw [on_run_of_ok ha hrun]
      simp only
      split
      · exact hsaw t
      · exact hsaw t
    | error c =>
      rw [on_run_of_error hrun]
      simp only
      split
      · exact ⟨[_], rfl, List.mem_singleton_self _⟩
      · exact ⟨[_], rfl, List.mem_singleton_self _⟩

theorem Site.saw_start_of_build {c th : String} (hname : settings.text Settings.renderer = .ok name)
    (hcontent : settings.text Settings.contentDir = .ok c)
    (htheme : settings.text Settings.theme = .ok th)
    (hfind : (Program.find? name (some root) true).on h = (.ok (some program), h))
    (ha : Rendering.Unheard answer h) :
    Saw (.started (Rendering.command program (root / c) outputDir (root / th)) root) h
      ((build answer root none (some settings) (some outputDir)).on h).2 := by
  have hbuild : build answer root none (some settings) (some outputDir) =
      (Rendering.byProgram answer root name (root / c) outputDir (root / th) >>= fun _ =>
        Act.lift (settings.text Settings.readme) >>= finish outputDir) := by
    have hread : ∀ {key text : String}, settings.text key = .ok text →
        Act.lift (settings.text key) = pure text := fun htext => by
      rw [htext]
      rfl
    unfold build
    simp only [hread hname, hread hcontent, hread htheme, pure_bind]
  rw [hbuild]
  exact saw_bind (Rendering.saw_start_of_byProgram hfind ha) fun _ =>
    (isQuery_lift _).isQuiet.bind fun readme => isQuiet_finish outputDir readme

namespace Preview

variable {number? : Option Int} {p : Preview} {r result : Except Failure Unit} {x : Path}
  {signature? : Option Signature}

/-- A build that gets to the program starts it. -/
theorem saw_start_of_build (hp : ofSettings root settings number? = .ok p)
    (hname : settings.text Settings.renderer = .ok name)
    (hprepare : p.prepare.on h = (.ok x, h₁))
    (hfind : (Program.find? name (some root) true).on h₁ = (.ok (some program), h₁))
    (ha : Rendering.Unheard answer h) :
    Saw (.started (Rendering.command program p.contentDir p.stagingDir p.theme) root) h
      ((p.build answer).on h).2 := by
  have hcourse := (isQuiet_prepare p).course hprepare
  obtain rfl := eq_of_prepare hprepare
  obtain ⟨o, c, th, stagingDir, n, -, hcontent, htheme, -, rfl⟩ := exists_of_ofSettings hp
  unfold build
  rw [on_bind, hprepare]
  refine Saw.after_course hcourse (saw_bind ?_ fun _ => isQuiet_activate _ _)
  exact Site.saw_start_of_build hname hcontent htheme hfind (ha.of_course hcourse)

/-- What was seen of the build has been seen of the call. -/
theorem saw_of_concluded {e : Event} (hsaw : Saw e (begun h) g)
    (hc : concluded signature? result g = (r, h')) : Saw e h h' := by
  obtain ⟨es, hes, he⟩ := hsaw
  refine ⟨report result ++ (es ++ [.printed announcement]), ?_, by simp [he]⟩
  have hevents := events_concluded signature? result g
  rw [hc, hes] at hevents
  show h'.events = _
  rw [hevents, List.append_assoc, List.append_assoc]
  rfl

/-! ## Calls -/

theorem progress_concluded_error (signature? : Option Signature) (e : Failure) (g : Host) :
    (concluded signature? (.error e) g).2.progress =
      { g.progress with isRebuilding := false, rebuiltAt := g.clock } := by
  rw [concluded]
  cases reportOf e <;> rfl

/-- What an observer of a preview writes down of the calls. -/
structure Log where
  /-- The host when the last call came that was not skipped, and whether the call succeeded. -/
  last? : Option (Host × Bool) := none
  /-- The host when the last call came that succeeded. -/
  built? : Option Host := none

/-- The log after a call. -/
def Log.after (log : Log) (h : Host) (r : Except Failure Unit) (h' : Host) : Log :=
  match outcome h r h' with
  | .skipped => log
  | .failed => { log with last? := some (h, false) }
  | .succeeded => ⟨some (h, true), some h⟩

/-- What a preview is called with. -/
inductive Request where
  | rebuild
  /-- The news that a file or directory has changed. -/
  | change (file : Path) (isDirectory : Bool)

/-- What is done for a request. -/
def Request.act (p : Preview) : Request → Act Unit
  | rebuild => p.rebuild
  | change file isDirectory => p.onChange file isDirectory

/-- The states to which a preview and the log of its observer come.  Between the calls anything may
change but how far the preview has come. -/
inductive Reached (p : Preview) : Log → Host → Prop where
  | new {h : Host} (hnew : h.progress = {}) : Reached p {} h
  | world {log : Log} {h h' : Host} (hbefore : Reached p log h)
      (hkept : h'.progress = h.progress) : Reached p log h'
  | call {log : Log} {h h' : Host} {r : Except Failure Unit} (hbefore : Reached p log h)
      (request : Request) (hrun : (request.act p).on h = (r, h')) :
      Reached p (log.after h r h') h'

/-- A request that is not called for is one for a rebuild that comes to nothing. -/
theorem of_request {request : Request} (hrun : (request.act p).on h = (r, h')) :
    (r = .ok () ∧ h' = h) ∨ p.rebuild.on h = (r, h') := by
  cases request with
  | rebuild => exact .inr hrun
  | change file isDirectory =>
    unfold Request.act onChange at hrun
    simp only at hrun
    split at hrun
    · cases hrun
      exact .inl ⟨rfl, rfl⟩
    · exact .inr hrun

/-- What the preview remembers is what the log says. -/
structure Faithful (p : Preview) (log : Log) (h : Host) : Prop where
  idle : h.progress.isRebuilding = false
  recorded : h.progress.signature? = none ∨
    ∃ g, log.built? = some g ∧ (p.signature.on g).1 = .ok h.progress.signature?
  succeeded : ∀ g, log.last? = some (g, true) → (p.signature.on g).1 = .ok h.progress.signature?
  failed : ∀ g s, log.last? = some (g, false) → (p.signature.on g).1 = .ok (some s) →
    h.progress.signature? ≠ some s

theorem Faithful.of_progress {log : Log} (hf : Faithful p log h)
    (hprogress : h'.progress = h.progress) : Faithful p log h' := by
  obtain ⟨h1, h2, h3, h4⟩ := hf
  rw [← hprogress] at h1 h2 h3 h4
  exact ⟨h1, h2, h3, h4⟩

/-- A call keeps the preview faithful to the log. -/
theorem Faithful.call {log : Log} (hf : Faithful p log h) {request : Request}
    (hrun : (request.act p).on h = (r, h')) : Faithful p (log.after h r h') h' := by
  have hskip : ∀ h, Faithful p log h → Faithful p (log.after h (.ok ()) h) h := fun h hf => by
    rw [Log.after, outcome_self]
    exact hf
  rcases of_request hrun with ⟨rfl, rfl⟩ | hrun
  · exact hskip _ hf
  rcases of_rebuild hrun with ⟨rfl, rfl, -⟩ | ⟨rfl, e, rfl, he⟩ |
    ⟨signature?, result, g, hs, hchanged, -, hcourse, hc⟩
  · exact hskip _ hf
  · -- The signature could not be taken.
    rw [Log.after, outcome_error]
    refine ⟨hf.idle, hf.recorded, fun g hg => ?_, fun g s hg hs => ?_⟩
    · cases hg
    · cases hg
      rw [he] at hs
      cases hs
  · rw [Log.after, outcome_concluded hcourse hc]
    cases result with
    | ok u =>
      cases hc
      refine ⟨rfl, .inr ⟨h, rfl, hs⟩, fun g hg => ?_, fun g s hg => ?_⟩
      · cases hg
        exact hs
      · cases hg
    | error e =>
      have hprogress := progress_concluded_error signature? e g
      rw [hc, hcourse.progress] at hprogress
      have hkept : h'.progress.signature? = h.progress.signature? := by
        rw [hprogress]
        rfl
      refine ⟨by rw [hprogress], ?_, fun g hg => ?_, fun g s hg hs' => ?_⟩
      · rw [hkept]
        exact hf.recorded
      · cases hg
      · cases hg
        rw [hs] at hs'
        cases hs'
        rw [hkept]
        exact hchanged rfl

theorem Reached.faithful {log : Log} (hr : Reached p log h) : Faithful p log h := by
  induction hr with
  | new hnew =>
    refine ⟨by rw [hnew], .inl (by rw [hnew]), fun g hg => ?_, fun g s hg => ?_⟩
    · cases hg
    · cases hg
  | world _ hkept ih => exact ih.of_progress hkept
  | call _ request hrun ih => exact ih.call hrun

/-! ## What is remembered -/

/-- Calls that are skipped or fail change nothing of what is remembered. -/
theorem signature_kept {request : Request} (hrun : (request.act p).on h = (r, h'))
    (hnot : outcome h r h' ≠ .succeeded) : h'.progress.signature? = h.progress.signature? := by
  rcases of_request hrun with ⟨-, rfl⟩ | hrun
  · rfl
  rcases of_rebuild hrun with ⟨-, rfl, -⟩ | ⟨rfl, -⟩ |
    ⟨signature?, result, g, -, -, -, hcourse, hc⟩
  · rfl
  · rfl
  · rw [outcome_concluded hcourse hc] at hnot
    cases result with
    | ok u => exact absurd rfl hnot
    | error e =>
      have hprogress := progress_concluded_error signature? e g
      rw [hc, hcourse.progress] at hprogress
      rw [hprogress]
      rfl

/-- A call that does not come too soon builds if the last one failed and the sources are as then,
and if the last one succeeded and the sources are not as then. -/
theorem Faithful.builds {log : Log} (hf : Faithful p log h) {succeeded : Bool}
    {s s' : Option Signature} (hlast : log.last? = some (g, succeeded))
    (hs : (p.signature.on g).1 = .ok s) (hs' : (p.signature.on h).1 = .ok s')
    (hchanged : succeeded = false ∧ s' = s ∨ succeeded = true ∧ s' ≠ s)
    (hdue : isTooSoon h.clock h.progress.rebuiltAt = false) (hrun : p.rebuild.on h = (r, h')) :
    ∃ result k, (p.build (p.rebuildUpTo 1)).on (begun h) = (result, k) ∧
      Course (fun _ => True) (begun h) k ∧ concluded s' result k = (r, h') := by
  rcases of_rebuild hrun with ⟨-, -, hskip⟩ | ⟨-, e, -, he⟩ |
    ⟨signature?, result, k, hsig, -, hbuild, hcourse, hc⟩
  · exfalso
    rcases hskip with hbusy | hsoon | ⟨now, hnow, hrecorded⟩
    · exact absurd hf.idle (by simp [hbusy])
    · exact absurd hdue (by simp [hsoon])
    · -- The sources have the signature that is remembered.
      have hs'now : s' = some now := by
        rw [hs'] at hnow
        exact Except.ok.inj hnow
      rcases hchanged with ⟨rfl, rfl⟩ | ⟨rfl, hne⟩
      · exact hf.failed g now hlast (hs'now ▸ hs) hrecorded
      · have hsucceeded := hf.succeeded g hlast
        rw [hs, hrecorded] at hsucceeded
        exact hne (hs'now.trans (Except.ok.inj hsucceeded).symm)
  · rw [hs'] at he
    cases he
  · rw [hs'] at hsig
    cases hsig
    exact ⟨result, k, hbuild, hcourse, hc⟩

/-- **What a preview remembers is never ahead of its site.**  In every state that calls and changes
of the world come to, nothing is remembered, or the signature that the sources had when the last
call came that succeeded; a call that is skipped or fails does not change that.  Therefore a call
that does not come too soon starts the program, if it can be found once the place of the next site
is cleared, in two cases: the last call failed and the sources are as when it came, or the last call
succeeded and the sources are not as when it came. -/
theorem signature_never_ahead {log : Log} (hp : ofSettings root settings number? = .ok p)
    (hreached : p.Reached log h) :
    (h.progress.signature? = none ∨
      ∃ g, log.built? = some g ∧ p.signature.on g = (.ok h.progress.signature?, g)) ∧
    (∀ (request : Request) r h', (request.act p).on h = (r, h') → outcome h r h' ≠ .succeeded →
      h'.progress.signature? = h.progress.signature?) ∧
    ∀ g succeeded s s', log.last? = some (g, succeeded) → p.signature.on g = (.ok s, g) →
      p.signature.on h = (.ok s', h) → (succeeded = false ∧ s' = s ∨ succeeded = true ∧ s' ≠ s) →
      isTooSoon h.clock h.progress.rebuiltAt = false →
      ∀ name program x h₁ r h', settings.text Settings.renderer = .ok name →
        p.prepare.on (begun h) = (.ok x, h₁) →
        (Program.find? name (some root) true).on h₁ = (.ok (some program), h₁) →
        p.rebuild.on h = (r, h') →
        .started (Rendering.command program p.contentDir p.stagingDir p.theme) root ∈
          h.news h' := by
  have hfaithful := hreached.faithful
  refine ⟨hfaithful.recorded.imp_right ?_, fun request r h' hrun => signature_kept hrun, ?_⟩
  · rintro ⟨g, hg, hs⟩
    exact ⟨g, hg, Prod.ext hs (isQuery_signature p g)⟩
  · intro g succeeded s s' hlast hs hs' hchanged hdue name program x h₁ r h' hname hprepare hfind
      hrun
    obtain ⟨result, k, hbuild, hcourse, hc⟩ := hfaithful.builds hlast (by rw [hs]) (by rw [hs'])
      hchanged hdue hrun
    have hunheard : Rendering.Unheard (p.rebuildUpTo 1) (begun h) := unheard_rebuildUpTo 1 rfl
    have hsaw := saw_start_of_build hp hname hprepare hfind hunheard
    rw [hbuild] at hsaw
    exact (saw_of_concluded hsaw hc).mem_news

/-! ## A project -/

/-- The place of the only slides of a project. -/
def slidesPlace : Loc := ["project", "markdown", "workshop", "a.md"]

/-- The project that was built before, with slides. -/
def authoredProject : Tree :=
  ((usedProject.set ["project", "markdown"] .directory).set
    ["project", "markdown", "workshop"] .directory).set slidesPlace (.file ⟨[], 0, false⟩)

/-- A new preview of the project, on a host where a failure waits for the move of the readme
page. -/
def hostAuthoring : Host := { hostRenaming with tree := authoredProject }

/-- The host one second after the first rebuild, which failed. -/
def hostRetrying : Host := { (newPreview.rebuild.on hostAuthoring).2 with clock := 2000 }

theorem eq_ok_of_toOption {α : Type} {act : Act α} (hquery : IsQuery act) {y : α}
    (hok : (act.on h).1.toOption = some y) : act.on h = (.ok y, h) := by
  cases hrun : act.on h with
  | mk result k =>
    cases hquery.eq hrun
    rw [hrun] at hok
    cases result with
    | ok z =>
      cases hok
      rfl
    | error e => cases hok

/-- After a rebuild that failed, the next one starts the program again, although the slides are as
they were. -/
theorem signature_never_ahead_retrying : ∃ log,
    newPreview.Reached log hostRetrying ∧ log.last? = some (hostAuthoring, false) ∧
    (newPreview.signature.on hostRetrying).1.toOption =
      (newPreview.signature.on hostAuthoring).1.toOption ∧
    .started (Rendering.command "/project/bin/reveal-md" newPreview.contentDir
      newPreview.stagingDir newPreview.theme) project ∈
        hostRetrying.news (newPreview.rebuild.on hostRetrying).2 := by
  -- All that is known of the two hosts comes from one run of the first call.
  have hfacts : ∀ result g, newPreview.rebuild.on hostAuthoring = result →
      { result.2 with clock := 2000 } = g →
      outcome hostAuthoring result.1 result.2 = .failed ∧
      isTooSoon g.clock g.progress.rebuiltAt = false ∧
      (newPreview.signature.on hostAuthoring).1.toOption =
        some (some [⟨"markdown/workshop/a.md", 0, 0⟩]) ∧
      (newPreview.signature.on g).1.toOption = some (some [⟨"markdown/workshop/a.md", 0, 0⟩]) ∧
      (newPreview.prepare.on (begun g)).1.isOk = true ∧
      ((Program.find? "reveal-md" (some project) true).on
        (newPreview.prepare.on (begun g)).2).1.toOption = some (some "/project/bin/reveal-md") := by
    rintro result g rfl rfl
    decide +kernel
  obtain ⟨hfailed, hdue, hs, hs', hok, hfind⟩ := hfacts _ hostRetrying rfl rfl
  obtain ⟨x, h₁, hprepare⟩ := exists_of_isOk hok
  rw [hprepare] at hfind
  have hreached : newPreview.Reached (({} : Log).after hostAuthoring
      (newPreview.rebuild.on hostAuthoring).1 (newPreview.rebuild.on hostAuthoring).2)
      hostRetrying := by
    refine .world (.call (.new rfl) .rebuild Prod.mk.eta.symm) ?_
    rw [hostRetrying]
  have hlast : (({} : Log).after hostAuthoring (newPreview.rebuild.on hostAuthoring).1
      (newPreview.rebuild.on hostAuthoring).2).last? = some (hostAuthoring, false) := by
    rw [Log.after, hfailed]
  obtain ⟨-, -, hbuilds⟩ := signature_never_ahead ofSettings_newSettings hreached
  refine ⟨_, hreached, hlast, hs'.trans hs.symm, ?_⟩
  exact hbuilds hostAuthoring false _ _ hlast (eq_ok_of_toOption (isQuery_signature _) hs)
    (eq_ok_of_toOption (isQuery_signature _) hs') (.inl ⟨rfl, rfl⟩) hdue _ _ x h₁ _ _ rfl hprepare
    (eq_ok_of_toOption (Program.isQuery_find? _ _ _) hfind) Prod.mk.eta.symm

end Preview

end DeckPress
