import DeckPress.Proofs.Preview.Local
import DeckPress.Proofs.Settings.Lookup
import DeckPress.Proofs.Site.Failures

/-!
# How rendering ends a build

The renderer of a project is a program.  It may be missing, it may not start, and it may end with
any status; a build goes on only after the status zero.  What is left otherwise is what the program
left, however far it came.

* `Program.installed?` — the program that is run; `Program.on_find?` is the search for it.
* `Rendering.on_byProgram` — what comes of a program that is found; `on_byProgram_unsearchable` and
  `on_byProgram_missing` are the other cases.
* `Order` — what a build is told before it renders; `on_build_of_order` — a build renders as it is
  told and then finishes the site.
* `rendering_endings` — all the ways in which a build ends, up to the finishing of the site;
  `rendering_blames_nothing` — one of them is no failure of the renderer.
-/

namespace DeckPress

open Act

variable {h h' : Host} {root contentDir outputDir theme : Path} {name program : String} {t : Tree}
  {answer : Act Unit} {c : Cause} {status : Int}

/-! ## The program -/

/-- The program `name` of the project at `root`: what is installed with the project, or else what is
found on the host. -/
def Program.installed? (h : Host) (root : Path) (name : String) : Except Cause (Option String) := do
  let local? ← h.look (localPath root name)
  return if local?.isSome then some (localPath root name).toString else onHost? h name

theorem Program.on_find? (h : Host) (root : Path) (name : String) :
    (find? name (some root) true).on h =
      match installed? h root name with
      | .ok program? => (.ok program?, h)
      | .error c => (.error (.cause c), h) := by
  rw [find?, installed?]
  simp only [isThere, bind_assoc, pure_bind]
  rw [on_bind, on_probe]
  cases h.look (localPath root name) with
  | error e => rfl
  | ok n? => cases n? <;> rfl

/-- The search comes to an end unless the place in the project is asked about in vain. -/
theorem Program.unseen_of_installed? (hc : installed? h root name = .error c) :
    h.Unseen (localPath root name) c := by
  rw [installed?] at hc
  cases hlook : h.look (localPath root name) with
  | ok n? =>
    rw [hlook] at hc
    cases hc
  | error c' =>
    rw [hlook] at hc
    cases hc
    exact unseen_of_look hlook

theorem Program.isWord_of_installed? (hfound : installed? h root name = .ok (some program)) :
    Rendering.isWord program = true :=
  Rendering.isWord_of_find? (by rw [on_find?, hfound])

/-- The host after a run of the renderer that came to no end; it left the tree `t`. -/
def Host.stalled (h : Host) (command : List String) (directory : Path) (t : Tree) : Host :=
  { h with events := .started command directory :: h.events }.commit t

namespace Rendering

variable {command : List String}

theorem on_byProgram_unsearchable (hfound : Program.installed? h root name = .error c) :
    (byProgram answer root name contentDir outputDir theme).on h = (.error (.cause c), h) := by
  have hfind := Program.on_find? h root name
  rw [hfound] at hfind
  exact on_bind_of_error hfind

theorem on_byProgram_missing (hfound : Program.installed? h root name = .ok none) :
    (byProgram answer root name contentDir outputDir theme).on h =
      (.error (.site ⟨contentDir, .notInstalled name, some {}⟩), h) := by
  have hfind := Program.on_find? h root name
  rw [hfound] at hfind
  exact on_bind_of_ok hfind

/-- What comes of a program that is found is decided by the call of it. -/
theorem on_byProgram (ha : Unheard answer h)
    (hfound : Program.installed? h root name = .ok (some program))
    (hcommand : command = Rendering.command program contentDir outputDir theme) :
    (byProgram answer root name contentDir outputDir theme).on h =
      match launch h command root with
      | (.error c, t) =>
        (.error (if c.isOs then .site ⟨contentDir, .notStarted name c, some ⟨command, none⟩⟩
          else .cause c), h.stalled command root t)
      | (.ok status, t) =>
        (if status = 0 then .ok ()
          else .error (.site ⟨contentDir, .exited name status, some ⟨command, some status⟩⟩),
          h.ran command root t) := by
  subst hcommand
  have hfind := Program.on_find? h root name
  rw [hfound] at hfind
  rw [byProgram, on_bind_of_ok hfind]
  cases hrun : launch h (Rendering.command program contentDir outputDir theme) root with
  | mk result t =>
    cases result with
    | error c =>
      dsimp only
      rw [on_bind_of_ok (on_run_of_error hrun)]
      cases hos : c.isOs <;> simp only [hos] <;> rfl
    | ok status =>
      dsimp only
      rw [on_bind_of_ok (on_run_of_ok ha hrun)]
      dsimp only
      by_cases hzero : status = 0
      · rw [if_pos hzero, if_neg (not_not.mpr hzero)]
        rfl
      · rw [if_neg hzero, if_pos hzero]
        rfl

end Rendering

/-! ## What a build is told -/

namespace Site

variable {settings : Settings} {settings? : Option Settings} {outputDir? : Option Path}
  {r : Except Failure Result}

/-- What a build is told before it renders. -/
structure Order where
  renderer : String
  contentDir : Path
  outputDir : Path
  theme : Path

/-- The command line of the renderer. -/
def Order.command (o : Order) (program : String) : List String :=
  Rendering.command program o.contentDir o.outputDir o.theme

/-- What the settings and the arguments tell a build. -/
def orderOf (root : Path) (settings : Settings) (outputDir? : Option Path) :
    Except Cause Order := do
  let renderer ← settings.text Settings.renderer
  let contentDir ← settings.text Settings.contentDir
  let theme ← settings.text Settings.theme
  let outputDir ← outputDirOf root settings outputDir?
  return ⟨renderer, root / contentDir, outputDir, root / theme⟩

theorem bind_eq_error {ε α β : Type} {x : Except ε α} {f : α → Except ε β} {e : ε} :
    (x >>= f) = .error e ↔ x = .error e ∨ ∃ a, x = .ok a ∧ f a = .error e := by
  cases x <;> simp [bind, Except.bind]

theorem on_lift_bind {α β : Type} {x : Except Cause α} {f : α → Act β} :
    (lift x >>= f).on h =
      match x with
      | .ok a => (f a).on h
      | .error c => (.error (.cause c), h) := by
  cases x <;> rfl

/-- A build renders as it is told, and then finishes the site. -/
theorem on_build_of_order (answer : Act Unit) (root : Path) (settings : Settings)
    (outputDir? : Option Path) (h : Host) :
    (build answer root none (some settings) outputDir?).on h =
      match orderOf root settings outputDir? with
      | .ok o => (do
          Rendering.byProgram answer root o.renderer o.contentDir o.outputDir o.theme
          finish o.outputDir (← lift (settings.text Settings.readme)) : Act Result).on h
      | .error c => (.error (.cause c), h) := by
  rw [on_build_some]
  simp only [on_lift_bind, rendererOf, orderOf]
  cases settings.text Settings.renderer with
  | error c => rfl
  | ok renderer =>
    cases settings.text Settings.contentDir with
    | error c => rfl
    | ok contentDir =>
      cases settings.text Settings.theme with
      | error c => rfl
      | ok theme => cases outputDirOf root settings outputDir? <;> rfl

/-! ## The whole -/

/-- A failure of the renderer: it names the slides, and it says what was wrong, how far the renderer
came and what was behind it. -/
structure BlamesRenderer (e : SiteError) (contentDir : Path) (problem : Problem)
    (command : List String) (status? : Option Int) (cause? : Option Cause) : Prop where
  path : e.path = contentDir
  problem : e.problem = problem
  run : e.run? = some ⟨command, status?⟩
  cause : e.cause? = cause?
  chained : e.isChained = cause?.isSome

/-- The renderer is found, and the call of it has the given result and leaves the tree `t`. -/
structure Runs (h : Host) (root : Path) (o : Order) (program : String) (result : Except Cause Int)
    (t : Tree) : Prop where
  found : Program.installed? h root o.renderer = .ok (some program)
  run : Rendering.launch h (o.command program) root = (result, t)

/-- The ways in which a build ends that is told `told`: what it gives or fails with, and the host
that is left. -/
inductive BuildEnding (h : Host) (root : Path) (settings : Settings) (told : Except Cause Order) :
    Except Failure Result → Host → Prop where
  /-- A setting that is needed for rendering has no text. -/
  | untold (key : String) (e : NumberError) (hneeded : key ∈ Settings.needed)
    (hkey : settings.Unwritable key e) (ho : told = .error (.number e)) :
    BuildEnding h root settings told (.error (.cause (.number e))) h
  /-- The place where the renderer would be installed has a path that is too long, or a failure waits
  for the look at it. -/
  | unsearchable (o : Order) (c : Cause) (ho : told = .ok o)
    (hunseen : h.Unseen (Program.localPath root o.renderer) c) :
    BuildEnding h root settings told (.error (.cause c)) h
  /-- The renderer is not found, and nothing is touched. -/
  | missing (o : Order) (e : SiteError) (ho : told = .ok o)
    (hnone : Program.installed? h root o.renderer = .ok none)
    (he : BlamesRenderer e o.contentDir (.notInstalled o.renderer) [] none none) :
    BuildEnding h root settings told (.error (.site e)) h
  /-- The renderer cannot be started. -/
  | notStarted (o : Order) (program : String) (c : Cause) (t : Tree) (e : SiteError)
    (ho : told = .ok o) (hrun : Runs h root o program (.error c) t) (hc : c.isOs = true)
    (he : BlamesRenderer e o.contentDir (.notStarted o.renderer c) (o.command program) none
      (some c)) :
    BuildEnding h root settings told (.error (.site e)) (h.stalled (o.command program) root t)
  /-- The renderer cannot be started, and the file system is not the cause.  So it is if a word of
  the command line holds the character NUL. -/
  | refused (o : Order) (program : String) (c : Cause) (t : Tree) (ho : told = .ok o)
    (hrun : Runs h root o program (.error c) t) (hc : c.isOs = false) :
    BuildEnding h root settings told (.error (.cause c)) (h.stalled (o.command program) root t)
  /-- The renderer ends with a status other than zero. -/
  | exited (o : Order) (program : String) (status : Int) (t : Tree) (e : SiteError)
    (ho : told = .ok o) (hrun : Runs h root o program (.ok status) t) (hstatus : status ≠ 0)
    (he : BlamesRenderer e o.contentDir (.exited o.renderer status) (o.command program)
      (some status) none) :
    BuildEnding h root settings told (.error (.site e)) (h.ran (o.command program) root t)
  /-- The renderer ends with success, and the name of the readme document has no text. -/
  | unnamed (o : Order) (program : String) (t : Tree) (e : NumberError) (ho : told = .ok o)
    (hrun : Runs h root o program (.ok 0) t) (hreadme : settings.Unwritable Settings.readme e) :
    BuildEnding h root settings told (.error (.cause (.number e)))
      (h.ran (o.command program) root t)
  /-- The renderer ends with success, and the build as the finishing of the site does. -/
  | rendered (o : Order) (program : String) (t : Tree) (readme : String)
    (r : Except Failure Result) (h' : Host) (ho : told = .ok o)
    (hrun : Runs h root o program (.ok 0) t)
    (hreadme : settings.text Settings.readme = .ok readme)
    (hfinish : (finish o.outputDir readme).on (h.ran (o.command program) root t) = (r, h')) :
    BuildEnding h root settings told r h'

/-- Settings that are given and those that are loaded come to the same. -/
theorem on_build_of_settings (hs : (settingsOf root settings?).on h = (.ok settings, h)) :
    (build answer root none settings? outputDir?).on h =
      (build answer root none (some settings) outputDir?).on h := by
  cases settings? <;> exact on_bind_of_ok hs

/-- If a build that has its settings cannot be told what to do, one of them has no text. -/
theorem unwritable_of_orderOf (hkeys : settings.IsComplete)
    (ho : orderOf root settings outputDir? = .error c) :
    ∃ key ∈ Settings.needed, ∃ e, c = .number e ∧ settings.Unwritable key e := by
  have hunwritable : ∀ key ∈ Settings.needed, settings.text key = .error c →
      ∃ key ∈ Settings.needed, ∃ e, c = .number e ∧ settings.Unwritable key e := by
    intro key hkey htext
    exact ⟨key, hkey, Settings.unwritable_of_text (hkeys key hkey) htext⟩
  simp only [orderOf, bind_eq_error] at ho
  rcases ho with ho | ⟨renderer, -, ho | ⟨contentDir, -, ho | ⟨theme, -, ho | ⟨p, -, ho⟩⟩⟩⟩
  · exact hunwritable _ (by decide) ho
  · exact hunwritable _ (by decide) ho
  · exact hunwritable _ (by decide) ho
  · cases outputDir? with
    | some p => cases ho
    | none =>
      rcases bind_eq_error.mp ho with ho | ⟨output, -, ho⟩
      · exact hunwritable _ (by decide) ho
      · cases ho
  · cases ho

/-- Where the renderer is found, its run decides how the build ends. -/
theorem ending_of_found {o : Order} (ha : Rendering.Unheard answer h) (hkeys : settings.IsComplete)
    (hfound : Program.installed? h root o.renderer = .ok (some program))
    (hrun : (do
      Rendering.byProgram answer root o.renderer o.contentDir o.outputDir o.theme
      finish o.outputDir (← lift (settings.text Settings.readme)) : Act Result).on h = (r, h')) :
    BuildEnding h root settings (.ok o) r h' ∧
      h'.events = .started (o.command program) root :: h.events := by
  have hcommand : o.command program =
      Rendering.command program o.contentDir o.outputDir o.theme := rfl
  have hrender := Rendering.on_byProgram ha hfound hcommand
  cases hresult : Rendering.launch h (o.command program) root with
  | mk result t =>
    have hruns : Runs h root o program result t := ⟨hfound, hresult⟩
    rw [hresult] at hrender
    cases result with
    | error c =>
      rw [on_bind_of_error hrender] at hrun
      cases hos : c.isOs with
      | true =>
        rw [hos] at hrun
        cases hrun
        exact ⟨.notStarted o program c t _ rfl hruns hos ⟨rfl, rfl, rfl, rfl, rfl⟩, rfl⟩
      | false =>
        rw [hos] at hrun
        cases hrun
        exact ⟨.refused o program c t rfl hruns hos, rfl⟩
    | ok status =>
      dsimp only at hrender
      by_cases hzero : status = 0
      · subst hzero
        rw [if_pos rfl] at hrender
        rw [on_bind_of_ok hrender, on_lift_bind] at hrun
        cases hreadme : settings.text Settings.readme with
        | error c =>
          rw [hreadme] at hrun
          cases hrun
          obtain ⟨e, rfl, hvalue⟩ := Settings.unwritable_of_text (hkeys _ (by decide)) hreadme
          exact ⟨.unnamed o program t e rfl hruns hvalue, rfl⟩
        | ok readme =>
          rw [hreadme] at hrun
          dsimp only at hrun
          -- Finishing a site starts no program.
          have hkept := congrArg Host.Surroundings.events
            ((isLocal_finish o.outputDir readme).surroundings (h.ran (o.command program) root t))
          rw [hrun] at hkept
          exact ⟨.rendered o program t readme r h' rfl hruns hreadme hrun, hkept⟩
      · rw [if_neg hzero] at hrender
        rw [on_bind_of_error hrender] at hrun
        cases hrun
        exact ⟨.exited o program status t _ rfl hruns hzero ⟨rfl, rfl, rfl, rfl, rfl⟩, rfl⟩

/-- How a build with given settings ends, and which program it starts. -/
theorem ending_of_build (ha : Rendering.Unheard answer h) (hkeys : settings.IsComplete)
    (hrun : (build answer root none (some settings) outputDir?).on h = (r, h')) :
    BuildEnding h root settings (orderOf root settings outputDir?) r h' ∧
      (h'.events = h.events ∨ ∃ o program, orderOf root settings outputDir? = .ok o ∧
        Program.installed? h root o.renderer = .ok (some program) ∧
        h'.events = .started (o.command program) root :: h.events) := by
  rw [on_build_of_order] at hrun
  cases ho : orderOf root settings outputDir? with
  | error c =>
    rw [ho] at hrun
    cases hrun
    obtain ⟨key, hneeded, e, rfl, hkey⟩ := unwritable_of_orderOf hkeys ho
    exact ⟨.untold key e hneeded hkey rfl, .inl rfl⟩
  | ok o =>
    rw [ho] at hrun
    dsimp only at hrun
    cases hfound : Program.installed? h root o.renderer with
    | error c =>
      rw [on_bind_of_error (Rendering.on_byProgram_unsearchable hfound)] at hrun
      cases hrun
      exact ⟨.unsearchable o c rfl (Program.unseen_of_installed? hfound), .inl rfl⟩
    | ok program? =>
      cases program? with
      | none =>
        rw [on_bind_of_error (Rendering.on_byProgram_missing hfound)] at hrun
        cases hrun
        exact ⟨.missing o _ rfl hfound ⟨rfl, rfl, rfl, rfl, rfl⟩, .inl rfl⟩
      | some program =>
        obtain ⟨hending, hevents⟩ := ending_of_found ha hkeys hfound hrun
        exact ⟨hending, .inr ⟨o, program, rfl, hfound, hevents⟩⟩

/-- **How rendering ends a build.**  Whatever becomes of the renderer, a build goes on only if the
program is found, is started, and ends with the status zero; it then ends as the finishing of the
site does.  Otherwise the failure names the slides and says how far the program came, and the tree
is as the program left it.  At most one program is started, in the directory of the project.  There
are exceptions: a place that is asked about in vain, and a setting whose value cannot be written as a
text, are no failures of the renderer. -/
theorem rendering_endings (ha : Rendering.Unheard answer h)
    (hs : (settingsOf root settings?).on h = (.ok settings, h)) (hkeys : settings.IsComplete)
    (hrun : (build answer root none settings? outputDir?).on h = (r, h')) :
    BuildEnding h root settings (orderOf root settings outputDir?) r h' ∧
      (h'.events = h.events ∨ ∃ o program, orderOf root settings outputDir? = .ok o ∧
        Program.installed? h root o.renderer = .ok (some program) ∧
        h'.events = .started (o.command program) root :: h.events) := by
  rw [on_build_of_settings hs] at hrun
  exact ending_of_build ha hkeys hrun

/-! ## A project -/

/-- A project in which the renderer is installed. -/
def installed : Tree :=
  ((((∅ : Tree).set ["project"] .directory).set ["project", "node_modules"] .directory).set
    ["project", "node_modules", ".bin"] .directory).set
    ["project", "node_modules", ".bin", "reveal-md"] (.file ⟨[], 0, true⟩)

/-- A program that is killed when it has made a directory. -/
def killed : Program where
  run _ cwd t := (.ok (-9), t.set (cwd ++ ["_static"]) .directory)

/-- The project, on a host with such a program. -/
def hostKilling : Host where
  tree := installed
  cwd := ⟨.top, ["project"]⟩
  program := killed

/-- The failure of a build whose renderer was killed. -/
def killing : SiteError where
  path := ⟨.top, ["project", "markdown", "workshop"]⟩
  problem := .exited "reveal-md" (-9)
  run? := some ⟨["/project/node_modules/.bin/reveal-md", "/project/markdown/workshop", "--static",
    "/project/_static", "--theme", "/project/themes/simplabs.css"], some (-9)⟩

/-- If the renderer is killed, what it made is left, and the failure tells the status. -/
theorem rendering_endings_killed : Rendering.Unheard (pure ()) hostKilling ∧
    (settingsOf hostKilling.cwd (some .default)).on hostKilling = (.ok .default, hostKilling) ∧
    Settings.default.IsComplete ∧ ∃ h',
      (build (pure ()) hostKilling.cwd none (some .default)).on hostKilling =
        (.error (.site killing), h') ∧
      BuildEnding hostKilling hostKilling.cwd .default (orderOf hostKilling.cwd .default none)
        (.error (.site killing)) h' ∧
      h'.tree.get? ["project", "_static"] = some .directory := by
  have hs : (settingsOf hostKilling.cwd (some .default)).on hostKilling =
      (.ok .default, hostKilling) := rfl
  have hkeys : Settings.default.IsComplete := Settings.isComplete_ofDocument? none
  have hfacts : ∀ result,
      (build (pure ()) hostKilling.cwd none (some .default)).on hostKilling = result →
      result.1 = .error (.site killing) ∧
        result.2.tree.get? ["project", "_static"] = some .directory := by
    rintro result rfl
    decide +kernel
  cases hrun : (build (pure ()) hostKilling.cwd none (some .default)).on hostKilling with
  | mk r h' =>
    obtain ⟨he, hmade⟩ := hfacts _ hrun
    cases he
    obtain ⟨hending, -⟩ := rendering_endings (.of_not_asking rfl) hs hkeys hrun
    exact ⟨.of_not_asking rfl, hs, hkeys, h', rfl, hending, hmade⟩

/-- A name that no file can have. -/
def overlong : String := String.ofList (List.replicate 256 'r')

theorem isEntryName_overlong : Tree.IsEntryName overlong := by
  have hlist : overlong.toList = List.replicate 256 'r' := String.toList_ofList
  have hne : ∀ other : String, other.toList.length ≠ 256 → overlong ≠ other := by
    rintro _ hlength rfl
    exact hlength (by rw [hlist, List.length_replicate])
  refine ⟨hne _ (by decide), hne _ (by decide), hne _ (by decide), ?_, ?_⟩
  · rw [hlist, List.mem_replicate]
    decide
  · rw [hlist, List.mem_replicate]
    decide

/-- **The failure of a build without a renderer may blame nothing.**  The name of the renderer is
too long for a file, and looking for it fails. -/
theorem rendering_blames_nothing :
    (build (pure ()) hostKilling.cwd none
        (some (Settings.default.set Settings.renderer (.str overlong)))).on hostKilling =
      (.error (.cause (Errno.nameTooLong.on (Program.localPath hostKilling.cwd overlong))),
        hostKilling) := by
  have ho : orderOf hostKilling.cwd (Settings.default.set Settings.renderer (.str overlong)) none =
      .ok ⟨overlong, ⟨.top, ["project", "markdown", "workshop"]⟩, ⟨.top, ["project", "_static"]⟩,
        ⟨.top, ["project", "themes", "simplabs.css"]⟩⟩ := rfl
  have hname := isEntryName_overlong
  have hlocal : Program.localPath hostKilling.cwd overlong =
      Path.child ⟨.top, ["project", "node_modules", ".bin"]⟩ overlong :=
    Path.div_name _ ⟨hname.1, hname.2.1, hname.2.2.2.1⟩
  have hw : installed.WellFormed := by decide +kernel
  have hd : Directory hostKilling ⟨.top, ["project", "node_modules", ".bin"]⟩
      ["project", "node_modules", ".bin"] :=
    ⟨by decide, by decide +kernel, by decide +kernel, fun other => hw.entryName _ other⟩
  have hlong : ¬ (Path.child ⟨.top, ["project", "node_modules", ".bin"]⟩ overlong).Fits := by
    rintro ⟨-, hnames⟩
    exact absurd (hnames overlong (by simp)) (by decide +kernel)
  have hfound : Program.installed? hostKilling hostKilling.cwd overlong =
      .error (Errno.nameTooLong.on (Program.localPath hostKilling.cwd overlong)) := by
    rw [Program.installed?, hlocal, hd.look_of_not_fits (by decide) hname hlong]
    rfl
  rw [on_build_of_order, ho]
  exact on_bind_of_error (Rendering.on_byProgram_unsearchable hfound)

end Site

end DeckPress
