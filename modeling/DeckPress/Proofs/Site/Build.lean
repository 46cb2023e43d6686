import DeckPress.Program.Writing
import DeckPress.Proofs.Program.Launch
import DeckPress.Proofs.Site.Stages

/-!
# When a site is built

* `writeFiles_eq_ok` — what a program that writes fixed files does.
* `byProgram_eq_ok` — the renderer is found, started, and ends with success; what it asks for while
  it runs has to come to nothing (`Unheard`).
* `jobOf` — what the arguments of a build and its settings come to; `build_eq_ok_of_job` — a build
  has its settings and does its job.
* `build_eq_ok` — a site is built by its renderer and then finished; `build_eq_ok_of_rendered` —
  where it is known what the renderer leaves.
-/

namespace DeckPress

open Act

variable {h h' : Host} {p root contentDir outputDir theme : Path} {name : String} {t t' : Tree}
  {cwd : Loc} {command : List String} {files : List (String × Node)} {answer : Act Unit}

namespace Program

/-- A command line that names a path from the top names that place. -/
theorem outputOf_eq (ha : p.isAbsolute = true) (hp : p.IsProper)
    (hc : command[3]? = some p.toString) :
    outputOf command cwd = p := by
  rw [outputOf, hc, Option.getD_some, Path.ofString_toString hp, Path.append, if_pos ha]

/-- Of its command line the program reads only where the site is to be made. -/
theorem writeFiles_congr {command' : List String} {status : Int}
    (hc : command[3]? = command'[3]?) :
    writeFiles files status command cwd t = writeFiles files status command' cwd t := by
  rw [writeFiles, writeFiles, outputOf, outputOf, hc]

/-- A program that writes fixed files makes the directory for the site and puts them there. -/
theorem writeFiles_eq_ok (ha : p.isAbsolute = true) (hp : p.IsProper)
    (hc : command[3]? = some p.toString) {status result : Int} :
    writeFiles files status command cwd t = (.ok result, t') ↔ p.hasNul = false ∧ result = status ∧
      ∃ v, t.makeDirectories cwd (fun _ => true) p = .ok v ∧
        Tree.installAll cwd p files v = .ok t' := by
  rw [writeFiles]
  simp only [outputOf_eq ha hp hc]
  cases hn : p.hasNul with
  | true => simp
  | false =>
    cases hv : t.makeDirectories cwd (fun _ => true) p with
    | error e => simp [bind, Except.bind, Except.mapError]
    | ok v =>
      cases hw : Tree.installAll cwd p files v with
      | error e => simp [bind, Except.bind, Except.mapError, hw]
      | ok w => simp [bind, Except.bind, Except.mapError, hw, eq_comm]

theorem host_of_find? {found : Option String} {preferLocal : Bool}
    (hfind : (find? name (some root) preferLocal).on h = (.ok found, h')) : h' = h := by
  unfold find? at hfind
  simp only [on_bind_eq_ok, on_isThere_eq_ok, on_get_bind, on_pure_eq_ok] at hfind
  obtain ⟨_, _, ⟨rfl, -⟩, _, _, ⟨-, rfl⟩, -, rfl⟩ := hfind
  rfl

end Program

/-- The host after a run of the renderer that left the tree `t`. -/
def Host.ran (h : Host) (command : List String) (directory : Path) (t : Tree) : Host :=
  let g := { h with events := .started command directory :: h.events }.commit t
  { g with clock := h.program.clockAfter?.getD g.clock }

theorem Host.tree_ran (h : Host) (command : List String) (directory : Path) (t : Tree) :
    (h.ran command directory t).tree = t := rfl

theorem Host.locate_ran (h : Host) (command : List String) (directory : Path) (t : Tree)
    (p : Path) : (h.ran command directory t).locate p = t.locate h.cwd.names p := rfl

namespace Rendering

/-- What the program of the host asks for while it runs comes to nothing. -/
def Unheard (answer : Act Unit) (h : Host) : Prop :=
  h.program.asksForRebuild = true → ∀ g, g.progress = h.progress → answer.on g = (.ok (), g)

theorem Unheard.of_not_asking (hask : h.program.asksForRebuild = false) : Unheard answer h :=
  fun hasks => absurd (hasks.symm.trans hask) (by simp)

theorem launch_record (e : Event) (command : List String) (directory : Path) :
    launch { h with events := e :: h.events } command directory = launch h command directory := rfl

theorem on_run_of_ok (ha : Unheard answer h) {directory : Path} {status : Int}
    (hrun : launch h command directory = (.ok status, t)) :
    (run answer command directory).on h = (.ok (.ok status), h.ran command directory t) := by
  unfold run
  refine on_bind_eq_ok.mpr
    ⟨(), { h with events := .started command directory :: h.events }, rfl, ?_⟩
  rw [on_get_bind, launch_record, hrun]
  refine on_bind_eq_ok.mpr ⟨(), _, rfl, ?_⟩
  rw [Host.ran]
  cases hask : h.program.asksForRebuild with
  | false => cases h.program.clockAfter? <;> rfl
  | true =>
    simp only [if_true]
    have hattempt : ∀ g : Host, g.progress = h.progress →
        (attempt answer).on g = (.ok (.ok ()), g) := fun g hg => by
      rw [on_attempt, ha hask g hg]
    refine on_bind_eq_ok.mpr ⟨_, _, hattempt _ rfl, ?_⟩
    cases h.program.clockAfter? <;> rfl

theorem on_run_of_error {directory : Path} {c : Cause}
    (hrun : launch h command directory = (.error c, t)) :
    (run answer command directory).on h =
      (.ok (.error c), { h with events := .started command directory :: h.events }.commit t) := by
  unfold run
  refine on_bind_eq_ok.mpr
    ⟨(), { h with events := .started command directory :: h.events }, rfl, ?_⟩
  rw [on_get_bind, launch_record, hrun]
  exact on_bind_eq_ok.mpr ⟨(), _, rfl, rfl⟩

/-- A program renders a site if it is found, is started, and ends with success. -/
theorem byProgram_eq_ok (ha : Unheard answer h) {u : Unit} :
    (byProgram answer root name contentDir outputDir theme).on h = (.ok u, h') ↔
      ∃ program t, (Program.find? name (some root) true).on h = (.ok (some program), h) ∧
        launch h (Rendering.command program contentDir outputDir theme) root = (.ok 0, t) ∧
        h' = h.ran (Rendering.command program contentDir outputDir theme) root t := by
  unfold byProgram
  rw [on_bind_eq_ok]
  constructor
  · rintro ⟨found, h₁, hfind, hrest⟩
    cases Program.host_of_find? hfind
    cases found with
    | none => cases on_throw_eq_ok.mp hrest
    | some program =>
      cases hrun : launch h (Rendering.command program contentDir outputDir theme) root with
      | mk result t =>
        obtain ⟨x, h₂, hstep, hend⟩ := on_bind_eq_ok.mp hrest
        cases result with
        | error c =>
          rw [on_run_of_error hrun] at hstep
          cases hstep
          simp only at hend
          split at hend
          · cases on_throw_eq_ok.mp hend
          · cases on_fail_eq_ok.mp hend
        | ok status =>
          rw [on_run_of_ok ha hrun] at hstep
          cases hstep
          simp only at hend
          split at hend
          · cases on_throw_eq_ok.mp hend
          · rename_i hzero
            obtain ⟨-, rfl⟩ := on_pure_eq_ok.mp hend
            exact ⟨program, t, hfind, by rw [hrun, not_not.mp hzero], rfl⟩
  · rintro ⟨program, t, hfind, hrun, rfl⟩
    exact ⟨some program, h, hfind,
      on_bind_eq_ok.mpr ⟨.ok 0, _, on_run_of_ok ha hrun, on_pure_eq_ok.mpr ⟨rfl, rfl⟩⟩⟩

end Rendering

namespace Site

/-- Where a site is made: at the given place, or where the settings say. -/
def outputDirOf (root : Path) (settings : Settings) (outputDir? : Option Path) :
    Except Cause Path :=
  match outputDir? with
  | some p => .ok p
  | none => do return root / (← settings.text Settings.outputDir)

variable {settings : Settings} {settings? : Option Settings} {renderer? : Option Renderer}
  {outputDir? : Option Path} {r : Result}

theorem outputDirOf_none_eq_ok : outputDirOf root settings none = .ok outputDir ↔
    ∃ o, settings.text Settings.outputDir = .ok o ∧ outputDir = root / o := by
  rw [outputDirOf, Tree.bind_eq_ok]
  simp [pure, Except.pure, eq_comm]

/-- The settings of a build: those that are given, or those of the project. -/
def settingsOf (root : Path) : Option Settings → Act Settings
  | some s => pure s
  | none => Settings.load root

/-- The renderer of a build: the one that is given, or the program that the settings name. -/
def rendererOf (answer : Act Unit) (root : Path) (settings : Settings) :
    Option Renderer → Except Cause Renderer
  | some r => .ok r
  | none => return Rendering.byProgram answer root (← settings.text Settings.renderer)

/-- What a build does once it has its settings. -/
structure Job where
  /-- The call of the renderer. -/
  render : Act Unit
  outputDir : Path
  readme : String

/-- The job that the arguments of a build and its settings name. -/
def jobOf (answer : Act Unit) (root : Path) (renderer? : Option Renderer) (settings : Settings)
    (outputDir? : Option Path) : Except Cause Job := do
  let render ← rendererOf answer root settings renderer?
  let contentDir ← settings.text Settings.contentDir
  let theme ← settings.text Settings.theme
  let outputDir ← outputDirOf root settings outputDir?
  let readme ← settings.text Settings.readme
  return ⟨render (root / contentDir) outputDir (root / theme), outputDir, readme⟩

theorem on_build_some (answer : Act Unit) (root : Path) (renderer? : Option Renderer)
    (settings : Settings) (outputDir? : Option Path) (h : Host) :
    (build answer root renderer? (some settings) outputDir?).on h = (do
      let render ← lift (rendererOf answer root settings renderer?)
      let contentDir ← lift (settings.text Settings.contentDir)
      let theme ← lift (settings.text Settings.theme)
      let outputDir ← lift (outputDirOf root settings outputDir?)
      render (root / contentDir) outputDir (root / theme)
      finish outputDir (← lift (settings.text Settings.readme)) : Act Result).on h := by
  have houtput : ∀ given : Option Path, (match given with
      | some p => pure p
      | none => return root / (← lift (settings.text Settings.outputDir)) : Act Path) =
        lift (outputDirOf root settings given) := by
    intro given
    cases given with
    | some p => rfl
    | none =>
      rw [outputDirOf]
      cases settings.text Settings.outputDir <;> rfl
  have hrender : ∀ given : Option Renderer, (match given with
      | some r => pure r
      | none =>
        return Rendering.byProgram answer root (← lift (settings.text Settings.renderer)) :
          Act Renderer) = lift (rendererOf answer root settings given) := by
    intro given
    cases given with
    | some r => rfl
    | none =>
      rw [rendererOf]
      cases settings.text Settings.renderer <;> rfl
  rw [← houtput, ← hrender]
  cases renderer? <;> cases outputDir? <;> simp only [build, pure_bind, bind_assoc]

/-- A build that succeeds has its settings and does its job. -/
theorem build_eq_ok_of_job :
    (build answer root renderer? settings? outputDir?).on h = (.ok r, h') ↔
      ∃ settings h₀ job h₁, (settingsOf root settings?).on h = (.ok settings, h₀) ∧
        jobOf answer root renderer? settings outputDir? = .ok job ∧
        job.render.on h₀ = (.ok (), h₁) ∧
        (finish job.outputDir job.readme).on h₁ = (.ok r, h') := by
  have hrest : (build answer root renderer? settings? outputDir?).on h = (.ok r, h') ↔
      ∃ settings h₀, (settingsOf root settings?).on h = (.ok settings, h₀) ∧
      (build answer root renderer? (some settings) outputDir?).on h₀ = (.ok r, h') := by
    cases settings? <;> exact on_bind_eq_ok
  rw [hrest]
  refine exists_congr fun settings => exists_congr fun h₀ => ?_
  simp only [on_build_some, on_bind_eq_ok, on_lift_eq_ok, jobOf, Tree.bind_eq_ok]
  constructor
  · rintro ⟨hs, render, _, ⟨h1, rfl⟩, c, _, ⟨h2, rfl⟩, t, _, ⟨h3, rfl⟩, o, _, ⟨h4, rfl⟩, _, h₁, h5,
      rd, _, ⟨h6, rfl⟩, h7⟩
    exact ⟨_, _, hs, ⟨render, h1, c, h2, t, h3, o, h4, rd, h6, rfl⟩, h5, h7⟩
  · rintro ⟨_, h₁, hs, ⟨render, h1, c, h2, t, h3, o, h4, rd, h6, ⟨⟩⟩, h5, h7⟩
    exact ⟨hs, render, _, ⟨h1, rfl⟩, c, _, ⟨h2, rfl⟩, t, _, ⟨h3, rfl⟩, o, _, ⟨h4, rfl⟩, _, h₁, h5,
      rd, _, ⟨h6, rfl⟩, h7⟩

/-- The texts that a build takes from the settings, but for the place of the site. -/
structure Texts where
  renderer : String
  contentDir : String
  theme : String
  readme : String

/-- The settings hold the texts. -/
structure Texts.In (i : Texts) (settings : Settings) : Prop where
  renderer : settings.text Settings.renderer = .ok i.renderer
  contentDir : settings.text Settings.contentDir = .ok i.contentDir
  theme : settings.text Settings.theme = .ok i.theme
  readme : settings.text Settings.readme = .ok i.readme

variable {i j : Texts}

theorem Texts.In.unique (hi : i.In settings) (hj : j.In settings) : j = i := by
  have h1 := hi.renderer.symm.trans hj.renderer
  have h2 := hi.contentDir.symm.trans hj.contentDir
  have h3 := hi.theme.symm.trans hj.theme
  have h4 := hi.readme.symm.trans hj.readme
  rw [Except.ok.injEq] at h1 h2 h3 h4
  cases i
  cases j
  simp_all

/-- The renderer that the settings name. -/
def Texts.render (i : Texts) (answer : Act Unit) (root outputDir : Path) : Act Unit :=
  Rendering.byProgram answer root i.renderer (root / i.contentDir) outputDir (root / i.theme)

/-- The command line of the renderer, if it is the program at the given place. -/
def Texts.commandLine (i : Texts) (root outputDir : Path) (program : String) : List String :=
  Rendering.command program (root / i.contentDir) outputDir (root / i.theme)

theorem jobOf_none_eq_ok {job : Job} :
    jobOf answer root none settings outputDir? = .ok job ↔ ∃ (i : Texts) (outputDir : Path),
      i.In settings ∧ outputDirOf root settings outputDir? = .ok outputDir ∧
        job = ⟨i.render answer root outputDir, outputDir, i.readme⟩ := by
  simp only [jobOf, rendererOf, Tree.bind_eq_ok]
  constructor
  · rintro ⟨_, ⟨name, h1, ⟨⟩⟩, c, h2, th, h3, o, h4, rd, h5, ⟨⟩⟩
    exact ⟨⟨name, c, th, rd⟩, o, ⟨h1, h2, h3, h5⟩, h4, rfl⟩
  · rintro ⟨i, o, ⟨h1, h2, h3, h5⟩, h4, rfl⟩
    exact ⟨_, ⟨_, h1, rfl⟩, _, h2, _, h3, o, h4, _, h5, rfl⟩

/-- A site is built by its renderer and then finished. -/
theorem build_eq_ok : (build answer root none (some settings) outputDir?).on h = (.ok r, h') ↔
    ∃ (i : Texts) (outputDir : Path) (h₁ : Host), i.In settings ∧
      outputDirOf root settings outputDir? = .ok outputDir ∧
      (i.render answer root outputDir).on h = (.ok (), h₁) ∧
      (finish outputDir i.readme).on h₁ = (.ok r, h') := by
  rw [build_eq_ok_of_job]
  simp only [jobOf_none_eq_ok]
  constructor
  · rintro ⟨_, _, _, h₁, ⟨⟩, ⟨i, o, hi, ho, rfl⟩, hrender, hfinish⟩
    exact ⟨i, o, h₁, hi, ho, hrender, hfinish⟩
  · rintro ⟨i, o, h₁, hi, ho, hrender, hfinish⟩
    exact ⟨settings, h, _, h₁, rfl, ⟨i, o, hi, ho, rfl⟩, hrender, hfinish⟩

/-- If the renderer leaves the tree `t` however it is called for the site, a build succeeds if the
renderer is found and started and the site can then be finished. -/
theorem build_eq_ok_of_rendered (hask : h.program.asksForRebuild = false) (hi : i.In settings)
    (houtput : outputDirOf root settings outputDir? = .ok outputDir)
    (hrendered : ∀ command : List String, command[3]? = some outputDir.toString →
      h.program.run command root.names h.tree = (.ok 0, t)) :
    (build answer root none (some settings) outputDir?).on h = (.ok r, h') ↔
      ∃ program, (Program.find? i.renderer (some root) true).on h = (.ok (some program), h) ∧
        Rendering.Starts h (i.commandLine root outputDir program) root ∧
        (finish outputDir i.readme).on (h.ran (i.commandLine root outputDir program) root t) =
          (.ok r, h') := by
  rw [build_eq_ok]
  constructor
  · rintro ⟨j, _, _, hj, houtput', hrender, hfinish⟩
    cases hi.unique hj
    rw [houtput] at houtput'
    cases houtput'
    obtain ⟨program, _, hfind, hlaunch, rfl⟩ :=
      (Rendering.byProgram_eq_ok (.of_not_asking hask)).mp hrender
    obtain ⟨hstarts, hrun⟩ := Rendering.launch_eq_ok.mp hlaunch
    rw [hrendered _ rfl] at hrun
    cases hrun
    exact ⟨program, hfind, hstarts, hfinish⟩
  · rintro ⟨program, hfind, hstarts, hfinish⟩
    exact ⟨i, outputDir, _, hi, houtput,
      (Rendering.byProgram_eq_ok (.of_not_asking hask)).mpr ⟨program, t, hfind,
        Rendering.launch_eq_ok.mpr ⟨hstarts, hrendered _ rfl⟩, rfl⟩, hfinish⟩

end Site

end DeckPress
