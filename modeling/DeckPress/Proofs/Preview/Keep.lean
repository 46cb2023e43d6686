import DeckPress.Proofs.Host.Keep
import DeckPress.Proofs.Preview.Rebuild

/-!
# What a build preserves

A build preserves what each of its operations does, whatever comes of them.  A program that asks for
a rebuild while it runs makes the build of a build, so that what is preserved has to be shown of a
build under the assumption that the answer preserves it, and follows for requests however deep they
nest.

* `Rendering.preserves_run_of`, `Rendering.preserves_byProgram_of` — running the program.
* `Site.preserves_finish_of`, `Site.preserves_build_of` — finishing a site, and all of it.
* `Preview.preserves_prepare_of`, `Preview.preserves_activate_of`, `Preview.preserves_build_of` — a
  build of a preview.
* `Preview.after_rebuildUpTo` — a call; `Preview.preserves_rebuildUpTo_of` — requests for rebuilds,
  by induction on how deep they nest.
-/

namespace DeckPress

open Act Host

variable {P : Host → Prop} {root dir : Path} {answer : Act Unit}

namespace Rendering

/-- A run is the start of the program, what it leaves, what it asks for, and the clock. -/
theorem preserves_run_of {command : List String} {directory : Path}
    (hstart : ∀ h, P h → P { h with events := .started command directory :: h.events })
    (hlaunch : ∀ h, P h → P (h.commit (launch h command directory).2))
    (hclock : ∀ h time, P h → P { h with clock := time }) (ha : Preserves P answer) :
    Preserves P (run answer command directory) := by
  intro h h0
  unfold run
  refine after_bind (a := record _) (hstart h h0) fun _ h₁ _ h1 => ?_
  rw [on_get_bind]
  have hleft := hlaunch h₁ h1
  cases hrun : launch h₁ command directory with
  | mk result t =>
    rw [hrun] at hleft
    refine after_bind (a := commit t) hleft fun _ h₂ _ h2 => ?_
    cases result with
    | error c => exact h2
    | ok status =>
      -- At the end the clock may be set.
      cases h₁.program.asksForRebuild with
      | false =>
        cases h₁.program.clockAfter? with
        | none => exact h2
        | some time => exact hclock h₂ time h2
      | true =>
        simp only [if_true]
        rw [on_attempt_bind]
        have h3 := ha h₂ h2
        cases hanswer : answer.on h₂ with
        | mk r g =>
          rw [hanswer] at h3
          cases r with
          | error e => cases e <;> exact h3
          | ok u =>
            cases h₁.program.clockAfter? with
            | none => exact h3
            | some time => exact hclock g time h3

theorem preserves_byProgram_of {name : String} {contentDir theme : Path}
    (hstart : ∀ h command, P h → P { h with events := .started command root :: h.events })
    (hlaunch : ∀ h command, command[3]? = some dir.toString → P h →
      P (h.commit (launch h command root).2))
    (hclock : ∀ h time, P h → P { h with clock := time }) (ha : Preserves P answer) :
    Preserves P (byProgram answer root name contentDir dir theme) := by
  unfold byProgram
  refine ((Program.isQuery_find? _ _ _).preserves _).bind fun found => ?_
  cases found with
  | none => exact fun _ h0 => h0
  | some path =>
    have hrun := preserves_run_of (fun h => hstart h _)
      (fun h => hlaunch h (Rendering.command path contentDir dir theme) rfl) hclock ha
    refine hrun.bind fun result h h0 => ?_
    -- What the run came to is only reported.
    cases result with
    | error c =>
      simp only
      split
      · exact h0
      · exact h0
    | ok status =>
      simp only
      split
      · exact h0
      · exact h0

end Rendering

namespace Site

theorem preserves_onFile {α : Type} {p : Path} {expected : Cause → Bool} {a : Act α}
    (ha : Preserves P a) : Preserves P (onFile p expected a) := by
  intro h h0
  rw [host_onFile]
  exact ha h h0

/-- A page that was read is a file. -/
theorem exists_of_readPage {h h' : Host} {page : Path} {bytes : List UInt8}
    (hrun : (readPage page).on h = (.ok bytes, h')) :
    ∃ k f, h.locate page = .ok k ∧ h.tree.get? k = some (.file f) := by
  unfold readPage at hrun
  obtain ⟨_, h₁, hheed, hrun⟩ := on_bind_eq_ok.mp hrun
  cases (isQuery_heed _ page).eq hheed
  obtain ⟨f, h₂, hopen, -⟩ := on_bind_eq_ok.mp hrun
  obtain ⟨-, -, k, hl, hread⟩ := on_lookUp_eq_ok.mp hopen
  exact ⟨k, f, hl, Tree.readFile_eq_ok.mp hread⟩

/-- The links of a page are replaced by writing the page, which is a file. -/
theorem preserves_relinkPage_of {rules : List Links.Rule} {page : Path}
    (hwrite : ∀ h k f bytes, P h → h.locate page = .ok k → h.tree.get? k = some (.file f) →
      P ((writePage page bytes).on h).2) : Preserves P (relinkPage rules page) := by
  apply preserves_onFile
  intro h h0
  refine after_bind ((isQuery_readPage page).preserves P h h0) fun bytes h₁ hread _ => ?_
  obtain ⟨k, f, hl, hfile⟩ := exists_of_readPage hread
  cases (isQuery_readPage page).eq hread
  refine after_bind ((isQuery_lift _).preserves P h h0) fun text h₁ hlift _ => ?_
  cases (isQuery_lift _).eq hlift
  exact after_bind (hwrite h k f _ h0 hl hfile) fun _ _ _ h1 => h1

/-- A site is finished by making the index and replacing the links of pages of the directory. -/
theorem preserves_finish_of {readme : String} (hpromote : Preserves P (promote dir readme))
    (hrelink : ∀ rules name, isPageName name = true →
      Preserves P (relinkPage rules (dir.child name))) :
    Preserves P (finish dir readme) := by
  have hpages : ∀ (rules : List Links.Rule) (ps : List Path),
      (∀ p ∈ ps, ∃ name, isPageName name = true ∧ p = dir.child name) →
        Preserves P (relinkPages rules ps) := by
    intro rules ps hps
    induction ps with
    | nil => exact (isQuery_pure _).preserves P
    | cons p ps ih =>
      obtain ⟨⟨name, hname, rfl⟩, hrest⟩ := List.forall_mem_cons.mp hps
      exact (hrelink rules name hname).bind fun _ => ih hrest
  refine hpromote.bind fun index h h0 => ?_
  refine after_bind ((isQuery_pages dir).preserves P h h0) fun ps h₁ hlisted h1 => ?_
  have hrest := hpages (Links.Rule.forReadme readme.toList) ps fun p hp =>
    child_of_mem_pages hlisted hp
  exact hrest.bind (fun _ => (isQuery_pure _).preserves P) h₁ h1

theorem preserves_build_of {settings : Settings}
    (hrender : ∀ name contentDir theme,
      Preserves P (Rendering.byProgram answer root name contentDir dir theme))
    (hfinish : ∀ readme, settings.text Settings.readme = .ok readme →
      Preserves P (finish dir readme)) :
    Preserves P (build answer root none (some settings) (some dir)) := by
  intro h h0
  apply after_build h0
  · intro name contentDir theme
    exact hrender name contentDir theme h h0
  · intro readme g hreadme hg
    exact hfinish readme hreadme g hg

end Site

namespace Preview

variable {p : Preview}

theorem preserves_prepare_of (hremove : Preserves P (removeTree p.stagingDir))
    (hmake : Preserves P (makeDirectories p.stagingDir.parent)) : Preserves P p.prepare := by
  have hrest : Preserves P
      (makeDirectories p.stagingDir.parent >>= fun _ => pure p.stagingDir) :=
    hmake.bind fun _ => (isQuery_pure _).preserves P
  unfold prepare
  refine ((isQuery_isThere _).preserves P).bind fun seen => ?_
  split
  · exact hremove.bind fun _ => hrest
  · exact hrest

theorem preserves_activate_of {staging : Path} (hremove : Preserves P (removeTree p.outputDir))
    (hreplace : Preserves P (replace staging p.outputDir)) : Preserves P (p.activate staging) := by
  unfold activate
  refine ((isQuery_isThere _).preserves P).bind fun seen => ?_
  split
  · exact hremove.bind fun _ => hreplace
  · exact hreplace

theorem preserves_build_of (hprepare : Preserves P p.prepare)
    (hsite : Preserves P (Site.build answer p.root none (some p.settings) (some p.stagingDir)))
    (hactivate : Preserves P (p.activate p.stagingDir)) : Preserves P (p.build answer) := by
  intro h h0
  unfold build
  refine after_bind (hprepare h h0) fun staging h₁ hrun h1 => ?_
  obtain rfl := eq_of_prepare hrun
  exact hsite.bind (fun _ => hactivate) h₁ h1

theorem program_concluded (signature? : Option Signature) (r : Except Failure Unit) (g : Host) :
    (concluded signature? r g).2.program = g.program := by
  cases r with
  | ok u => rfl
  | error e =>
    rw [concluded]
    cases reportOf e <;> rfl

/-- What holds before a call, and after the conclusion of its build, holds after the call. -/
theorem after_rebuildUpTo {h : Host} {depth : Nat} (h0 : P h)
    (hconcluded : ∀ signature?, P (concluded signature?
      ((p.build (p.rebuildUpTo depth)).on (begun h)).1
      ((p.build (p.rebuildUpTo depth)).on (begun h)).2).2) :
    P ((p.rebuildUpTo (depth + 1)).on h).2 := by
  rw [on_rebuildUpTo_succ]
  split
  · exact h0
  · split
    · exact h0
    · split
      · exact h0
      · exact hconcluded _

/-- Requests for rebuilds preserve what builds do if their answers do, however deep they nest, if it
is a property of the program and the tree. -/
theorem preserves_rebuildUpTo_of
    (hfiles : ∀ h h' : Host, h'.program = h.program → h'.tree = h.tree → P h → P h')
    (hbuild : ∀ answer, Preserves P answer → Preserves P (p.build answer)) (depth : Nat) :
    Preserves P (p.rebuildUpTo depth) := by
  induction depth with
  | zero => exact (isQuery_pure _).preserves P
  | succ depth ih =>
    intro h h0
    refine after_rebuildUpTo h0 fun signature? => ?_
    have hbegun : P (begun h) := hfiles h _ rfl rfl h0
    exact hfiles _ _ (program_concluded _ _ _) (tree_concluded _ _ _) (hbuild _ ih _ hbegun)

end Preview

end DeckPress
