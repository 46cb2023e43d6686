import DeckPress.Proofs.Command.Precedence
import DeckPress.Proofs.Site.Blame
import DeckPress.Proofs.Text.Styled

/-!
# What people are told of a build

The command for a build prints one line about a site that was built, or a few lines about what is to
blame if it was not.  What it says is true: the pages that it counts are there, and the file that it
names is the one at which the build failed.

* `Prints` — the lines that are printed; `ShownFrom` — how a path is written for people.
* `failureLines` — the lines about a failed build; `plain_report` — the report, without its colours.
* `Culprit` — what a failed build is blamed on, and the command that is told of.
* `IsOrdinary`, `WithinLimits` — the hosts and the lengths of paths that are spoken of.
* `BuildReport` — the ways in which the command ends; `build_reports` — there are no others.
* `report_compares_names` — how paths are compared.
-/

namespace DeckPress

open Act Host Command

/-- The line that an event prints. -/
def Event.line? : Event → Option String
  | .printed line => some line
  | _ => none

namespace Command

variable {h h' g : Host} {root p dir : Path} {answer : Act Unit} {s c : Settings}
  {isColoured : Bool} {words lines : List String} {o : Overrides} {r : Except Failure Ending}
  {line : String}

/-! ## What is shown -/

/-- Since `h`, just the given lines were printed. -/
def Prints (h h' : Host) (lines : List String) : Prop :=
  ∃ es, h'.events = es ++ h.events ∧ es.reverse.filterMap Event.line? = lines

/-- A build prints nothing while it renders. -/
theorem prints_nil_of_started (hevents : h'.events = h.events ∨ ∃ command directory,
    h'.events = .started command directory :: h.events) : Prints h h' [] := by
  rcases hevents with hevents | ⟨command, directory, hevents⟩
  · exact ⟨[], hevents, rfl⟩
  · exact ⟨[.started command directory], hevents, rfl⟩

theorem Prints.printed (hg : Prints h g lines) (line : String) :
    Prints h { g with events := .printed line :: g.events } (lines ++ [line]) := by
  obtain ⟨es, hes, hlines⟩ := hg
  refine ⟨.printed line :: es, congrArg (List.cons _) hes, ?_⟩
  rw [List.reverse_cons, List.filterMap_append, hlines]
  rfl

/-- A path that goes on from the path of the project is shown without it, and any other path as it
is.  Paths are compared as they are written, name by name. -/
def ShownFrom (root p shown : Path) : Prop :=
  if p.IsBelow root then shown.root = .here ∧ root.append shown = p else shown = p

theorem shownFrom_shownPath (root p : Path) : ShownFrom root p (shownPath root p) := by
  rw [ShownFrom, shownPath, Path.relativeTo?]
  split_ifs with hp
  · obtain ⟨hroot, rest, hnames⟩ := hp
    refine ⟨rfl, ?_⟩
    cases p with
    | mk _ names =>
      cases hroot
      cases hnames
      simp [Path.append, Path.isAbsolute]
  · rfl

/-- The text holds no escape, with which a code for colours would begin. -/
def IsUnstyled (line : String) : Prop := '\x1b' ∉ line.toList

theorem shown_of_unstyled (hline : IsUnstyled line) : shown isColoured line = line := by
  cases isColoured with
  | true => rfl
  | false => exact Styled.plain_of_free hline

/-- In colours or not, what is shown is the same without them. -/
theorem plain_shown_coloured (colour : Styled.Colour) (isBold : Bool) (hline : IsUnstyled line) :
    Styled.plain (shown isColoured (Styled.coloured colour isBold line)) = line := by
  cases isColoured with
  | true => exact Styled.plain_coloured colour isBold hline
  | false =>
    show Styled.plain (Styled.plain _) = line
    rw [Styled.plain_coloured colour isBold hline, Styled.plain_of_free hline]

/-- The line that tells of a site that was built. -/
def builtLine (count : Nat) (dir : Path) : String := s!"Rewrote {count} HTML files in {dir}"

/-- The lines that tell of a failed build; the last one is only there if a command was run. -/
def failureLines (shown : Path) (message : String) (command : List String) : List String :=
  ["Build failed:", s!"  File: {shown}", "  Error: " ++ message] ++
    if command = [] then [] else ["  Command: " ++ " ".intercalate command]

/-- The report of a failure, without its colours. -/
theorem plain_report {e : SiteError} {command : List String}
    (hcommand : (e.run?.getD {}).command = command)
    (hlines : ∀ line ∈ failureLines (shownPath root e.path) e.message command, IsUnstyled line) :
    ((report root e).map (shown isColoured)).map Styled.plain =
      failureLines (shownPath root e.path) e.message command := by
  subst hcommand
  rw [failureLines] at hlines ⊢
  rw [report]
  by_cases hnone : (e.run?.getD {}).command = []
  · simp only [hnone, if_true, List.isEmpty_nil, List.append_nil, List.forall_mem_cons] at hlines ⊢
    obtain ⟨h1, h2, h3, -⟩ := hlines
    simp [plain_shown_coloured _ _ h1, plain_shown_coloured _ _ h2, plain_shown_coloured _ _ h3]
  · simp only [hnone, if_false, List.isEmpty_iff, List.cons_append, List.nil_append,
      List.forall_mem_cons] at hlines ⊢
    obtain ⟨h1, h2, h3, h4, -⟩ := hlines
    simp [plain_shown_coloured _ _ h1, plain_shown_coloured _ _ h2, plain_shown_coloured _ _ h3,
      plain_shown_coloured _ _ h4]

/-! ## What is to blame -/

/-- What a failed build is blamed on, and the command that is told of: that of the renderer if it
was run and failed, and none otherwise.  `h'` is the host that is left. -/
inductive Culprit (h h' : Host) (c : Settings) : SiteError → List String → Prop where
  /-- There is no renderer to be run. -/
  | notInstalled (o : Site.Order) (e : SiteError) (ho : Site.orderOf h.cwd c none = .ok o)
    (hnone : Program.installed? h h.cwd o.renderer = .ok none)
    (he : Site.BlamesRenderer e o.contentDir (.notInstalled o.renderer) [] none none) :
    Culprit h h' c e []
  /-- The renderer cannot be started. -/
  | notStarted (o : Site.Order) (program : String) (cause : Cause) (t : Tree) (e : SiteError)
    (ho : Site.orderOf h.cwd c none = .ok o)
    (hrun : Site.Runs h h.cwd o program (.error cause) t)
    (he : Site.BlamesRenderer e o.contentDir (.notStarted o.renderer cause) (o.command program)
      none (some cause)) :
    Culprit h h' c e (o.command program)
  /-- The renderer ends with a status other than zero. -/
  | exited (o : Site.Order) (program : String) (status : Int) (t : Tree) (e : SiteError)
    (ho : Site.orderOf h.cwd c none = .ok o)
    (hrun : Site.Runs h h.cwd o program (.ok status) t) (hstatus : status ≠ 0)
    (he : Site.BlamesRenderer e o.contentDir (.exited o.renderer status) (o.command program)
      (some status) none) :
    Culprit h h' c e (o.command program)
  /-- The renderer ends with success, and the site cannot be finished. -/
  | site (o : Site.Order) (program readme : String) (t : Tree) (e : SiteError)
    (ho : Site.orderOf h.cwd c none = .ok o) (hrun : Site.Runs h h.cwd o program (.ok 0) t)
    (hreadme : c.text Settings.readme = .ok readme)
    (he : Site.Offence o.outputDir readme (h.ran (o.command program) h.cwd t) h' e) :
    Culprit h h' c e []

theorem run?_of_offence {readme : String} {e : SiteError} (he : Site.Offence dir readme h h' e) :
    e.run? = none := by
  cases he <;> rfl

/-- The command that a report tells of is that of the culprit. -/
theorem Culprit.command {e : SiteError} {command : List String} (he : Culprit h h' c e command) :
    (e.run?.getD {}).command = command := by
  cases he with
  | notInstalled o e ho hnone he => rw [he.run]; rfl
  | notStarted o program cause t e ho hrun he => rw [he.run]; rfl
  | exited o program status t e ho hrun hstatus he => rw [he.run]; rfl
  | site o program readme t e ho hrun hreadme he => rw [run?_of_offence he]; rfl

/-! ## The hosts that are spoken of -/

/-- The files lie well, and the program leaves them so if it is started for the build; it fails for
causes of the file system only; and the failures that wait are of the file system, or for a page of
texts.  What the program asks for while it runs comes to nothing. -/
structure IsOrdinary (answer : Act Unit) (h : Host) (c : Settings) : Prop where
  tree : h.tree.WellFormed
  leaves : ∀ o program, Site.orderOf h.cwd c none = .ok o →
    Rendering.Starts h (o.command program) h.cwd →
      (h.program.run (o.command program) h.cwd.names h.tree).2.WellFormed
  fails : ∀ o program, Site.orderOf h.cwd c none = .ok o →
    Rendering.FailsPlainly h.program (o.command program) h.cwd
  faults : Site.OrdinaryFaults h
  unheard : Rendering.Unheard answer h

/-- No path that a build with the settings asks about is too long. -/
structure WithinLimits (h : Host) (c : Settings) : Prop where
  renderer : ∀ o, Site.orderOf h.cwd c none = .ok o →
    (Program.localPath h.cwd o.renderer).Fits
  site : ∀ o program t readme, Site.orderOf h.cwd c none = .ok o →
    Site.Runs h h.cwd o program (.ok 0) t → c.text Settings.readme = .ok readme →
      Site.WithinLimits (h.ran (o.command program) h.cwd t) o.outputDir readme

/-! ## The whole -/

/-- All pages of the directory hold texts that were relinked. -/
structure IsFinished (h : Host) (dir : Path) (readme : String) (k : Loc) : Prop where
  place : h.locate dir = .ok k
  page : ∀ name ∈ Site.pageNames h.tree k, ∃ g, h.tree.get? (k ++ [name]) = some (.file g) ∧
    Site.HoldsRelinked readme g

/-- The ways in which the command for a build ends. -/
inductive BuildReport (h : Host) (c : Settings) : Except Failure Ending → Host → Prop where
  /-- The site is built.  One line is printed, which tells how many pages there are now, and
  where. -/
  | built (o : Site.Order) (output readme line : String) (k : Loc) (h' : Host)
    (ho : Site.orderOf h.cwd c none = .ok o) (houtput : c.text Settings.outputDir = .ok output)
    (hreadme : c.text Settings.readme = .ok readme)
    (hsite : IsFinished h' (h.cwd / output) readme k) (hout : Prints h h' [line])
    (hline : IsUnstyled (builtLine (Site.pageNames h'.tree k).length (h.cwd / output)) →
      line = builtLine (Site.pageNames h'.tree k).length (h.cwd / output)) :
    BuildReport h c (.ok { status := 0, complaint := [] }) h'
  /-- The build failed.  Nothing is printed, and what is complained about is told. -/
  | failed (e : SiteError) (shown : Path) (command complaint : List String) (h' : Host)
    (he : Culprit h h' c e command) (hshown : ShownFrom h.cwd e.path shown) (hout : Prints h h' [])
    (hcomplaint : (∀ line ∈ failureLines shown e.message command, IsUnstyled line) →
      complaint.map Styled.plain = failureLines shown e.message command) :
    BuildReport h c (.ok { status := 1, complaint }) h'
  /-- A NUL is in the path of the project or in one that a setting gives, so that the renderer is
  not called.  Nothing is printed. -/
  | nul (o : Site.Order) (h' : Host) (ho : Site.orderOf h.cwd c none = .ok o)
    (hnul : [h.cwd, o.contentDir, o.outputDir, o.theme].any Path.hasNul = true)
    (hout : Prints h h' []) : BuildReport h c (.error (.cause .nulInPath)) h'
  /-- A setting has no text. -/
  | unwritable (key : String) (e : NumberError) (h' : Host) (hneeded : key ∈ Settings.needed)
    (hkey : c.Unwritable key e) (hout : Prints h h' []) :
    BuildReport h c (.error (.cause (.number e))) h'

theorem buildReport_of_culprit {e : SiteError} {command : List String}
    (he : Culprit h h' c e command) (hout : Prints h h' []) :
    BuildReport h c
      (.ok { status := 1, complaint := (report h.cwd e).map (shown isColoured) }) h' :=
  .failed e _ command _ h' he (shownFrom_shownPath h.cwd e.path) hout (plain_report he.command)

/-- A finished site is reported as it is. -/
theorem buildReport_of_finish {order : Site.Order} {program readme : String} {t : Tree}
    {b : Except Failure Site.Result} (hordinary : IsOrdinary answer h c)
    (hlimits : WithinLimits h c) (ho : Site.orderOf h.cwd c none = .ok order)
    (hrun : Site.Runs h h.cwd order program (.ok 0) t)
    (hreadme : c.text Settings.readme = .ok readme)
    (hfinish : (Site.finish order.outputDir readme).on
      (h.ran (order.command program) h.cwd t) = (b, g)) (hout : Prints h g []) :
    BuildReport h c (reported isColoured h.cwd (b, g)).1 (reported isColoured h.cwd (b, g)).2 := by
  have ht : t.WellFormed := by
    obtain ⟨hstarts, hran⟩ := Rendering.launch_eq_ok.mp hrun.run
    have hleft := hordinary.leaves order program ho hstarts
    rwa [hran] at hleft
  have hfaults : Site.OrdinaryFaults (h.ran (order.command program) h.cwd t) :=
    hordinary.faults.of_course (Rendering.course_ran (sameBut_true _ _))
  cases b with
  | ok site =>
    obtain ⟨hdir, k, hk, hpages, hpage⟩ := Site.pages_of_finish hfaults.seesAll ht hfinish
    obtain ⟨output, houtput, hplace⟩ : ∃ output, c.text Settings.outputDir = .ok output ∧
        order.outputDir = h.cwd / output := by
      simp only [Site.orderOf, Tree.bind_eq_ok, Site.outputDirOf_none_eq_ok] at ho
      obtain ⟨_, -, _, -, _, -, _, ⟨output, houtput, rfl⟩, ⟨⟩⟩ := ho
      exact ⟨output, houtput, rfl⟩
    have hcount : site.pages.length = (Site.pageNames g.tree k).length := by
      rw [hpages, List.length_map]
    refine .built order output readme _ k _ ho houtput hreadme ⟨hplace ▸ hk, hpage⟩
      (hout.printed _) ?_
    rw [hdir, hcount, hplace]
    exact shown_of_unstyled
  | error f =>
    obtain ⟨e, rfl, he⟩ := Site.offence_of_finish hfaults ht
      (hlimits.site order program t readme ho hrun hreadme) hfinish
    exact buildReport_of_culprit (.site order program readme t e ho hrun hreadme he) hout

/-- **The command for a build tells the truth**, whatever its options and the settings are, and
whatever fails.  If the site is built, nothing is complained about, and the one line that is printed
counts the pages that are now in the directory, all of which are relinked.  If not, nothing is
printed, and the report names the file at fault, says what was wrong, and shows the command of the
renderer if that was run and failed.  No other failure escapes, but for two: that a NUL is in a path
that the renderer would be called with, and that a setting has no text. -/
theorem build_reports (hordinary : IsOrdinary answer h (o.apply s))
    (hload : (Settings.load h.cwd).on h = (.ok s, h))
    (hwords : Invocation.ofWords words = .ok (.build o)) (hlimits : WithinLimits h (o.apply s))
    (hrun : (Command.run answer isColoured words).on h = (r, h')) :
    BuildReport h (o.apply s) r h' := by
  have hkeys : (o.apply s).IsComplete := by
    obtain ⟨-, document?, -, rfl⟩ := Settings.load_eq_ok.mp hload
    exact Settings.isComplete_apply (Settings.isComplete_ofDocument? document?) o
  rw [on_run_of_words hwords hload] at hrun
  cases hbuild : (Site.build answer h.cwd none (some (o.apply s))).on h with
  | mk b g =>
    rw [hbuild] at hrun
    obtain ⟨hending, hevents⟩ := Site.ending_of_build hordinary.unheard hkeys hbuild
    have hout : Prints h g [] := prints_nil_of_started <|
      hevents.imp_right fun ⟨_, _, _, _, hstarted⟩ => ⟨_, h.cwd, hstarted⟩
    generalize htold : Site.orderOf h.cwd (o.apply s) none = told at hending
    cases hending with
    | untold key e hneeded hkey ho =>
      cases hrun
      exact .unwritable key e _ hneeded hkey hout
    | unsearchable order cause ho hunseen =>
      exact absurd hunseen (not_unseen (hordinary.faults.seesAll.free _)
        (hlimits.renderer order (htold.trans ho)) cause)
    | missing order e ho hnone he =>
      cases hrun
      exact buildReport_of_culprit (.notInstalled order e (htold.trans ho) hnone he) hout
    | notStarted order program cause t e ho hruns hcause he =>
      cases hrun
      exact buildReport_of_culprit
        (.notStarted order program cause t e (htold.trans ho) hruns he) hout
    | refused order program cause t ho hruns hcause =>
      obtain hos | ⟨rfl, hnul⟩ := Rendering.isOs_or_nul_of_launch
        (Program.isWord_of_installed? hruns.found)
        (hordinary.fails order program (htold.trans ho)) hruns.run
      · cases hcause.symm.trans hos
      · cases hrun
        exact .nul order _ (htold.trans ho) hnul hout
    | exited order program status t e ho hruns hstatus he =>
      cases hrun
      exact buildReport_of_culprit
        (.exited order program status t e (htold.trans ho) hruns hstatus he) hout
    | unnamed order program t e ho hruns hreadme =>
      cases hrun
      exact .unwritable _ e _ (by decide) hreadme hout
    | rendered order program t readme _ _ ho hruns hreadme hfinish =>
      have hreport : BuildReport h (o.apply s) (reported isColoured h.cwd (_, g)).1
          (reported isColoured h.cwd (_, g)).2 :=
        buildReport_of_finish hordinary hlimits (htold.trans ho) hruns hreadme hfinish hout
      rwa [hrun] at hreport

/-! ## Some projects -/

/-- A file with the given text. -/
def fileOf (text : String) : Node := .file ⟨Utf8.encode text.toList, 0, false⟩

/-- The pages that the renderer makes. -/
def made : List (String × Node) :=
  [("README.html", fileOf "home"), ("index.html", fileOf "generic"),
    ("p.html", fileOf "<a href='README.md'>")]

/-- A project in which the renderer is installed, on a host where it makes the pages. -/
def hostMaking : Host := { Site.hostKilling with program := .writer made 0 }

/-- What a build in that project is told. -/
def plainOrder : Site.Order :=
  ⟨"reveal-md", ⟨.top, ["project", "markdown", "workshop"]⟩, ⟨.top, ["project", "_static"]⟩,
    ⟨.top, ["project", "themes", "simplabs.css"]⟩⟩

theorem orderOf_plain : Site.orderOf hostMaking.cwd .default none = .ok plainOrder := rfl

/-- What the renderer leaves, wherever it was found. -/
def rendered : Tree :=
  (Program.writeFiles made 0 (plainOrder.command "reveal-md") ["project"] Site.installed).2

theorem run_making (program : String) :
    (hostMaking.program.run (plainOrder.command program) hostMaking.cwd.names hostMaking.tree).2 =
      rendered := by
  have hplace : (plainOrder.command program)[3]? = (plainOrder.command "reveal-md")[3]? := rfl
  rw [rendered]
  exact congrArg Prod.snd (Program.writeFiles_congr hplace)

theorem isOrdinary_making : IsOrdinary (pure ()) hostMaking .default where
  tree := by decide +kernel
  leaves o program ho _ := by
    cases orderOf_plain.symm.trans ho
    rw [run_making]
    decide +kernel
  fails _ _ _ := Rendering.failsPlainly_writer _ _ _ _
  faults := .of_nil rfl
  unheard := .of_not_asking rfl

theorem withinLimits_making : WithinLimits hostMaking .default := by
  refine ⟨fun o ho => ?_, fun o program t readme ho hrun hreadme => ?_⟩
  · cases orderOf_plain.symm.trans ho
    exact ⟨by decide +kernel, by decide +kernel⟩
  · cases orderOf_plain.symm.trans ho
    cases hreadme
    obtain ⟨-, hran⟩ := Rendering.launch_eq_ok.mp hrun.run
    have ht : rendered = t := (run_making program).symm.trans (congrArg Prod.snd hran)
    subst ht
    have hplace : rendered.locate hostMaking.cwd.names plainOrder.outputDir =
        .ok ["project", "_static"] := by decide +kernel
    have hentries : ∀ name ∈ rendered.names ["project", "_static"],
        (plainOrder.outputDir.child name).toString.utf8ByteSize ≤ Tree.pathLimit ∧
          ∀ n ∈ (plainOrder.outputDir.child name).names, n.utf8ByteSize ≤ Tree.nameLimit := by
      decide +kernel
    refine ⟨⟨by decide +kernel, by decide +kernel⟩, ⟨by decide +kernel, by decide +kernel⟩,
      fun k name hk hsome => ?_⟩
    rw [Host.locate_ran, hplace, Except.ok.injEq] at hk
    rw [Host.tree_ran, ← hk] at hsome
    exact hentries name (Tree.mem_names.mpr hsome)

/-- Of the three pages two are left, and this is what is printed. -/
theorem build_reports_making : IsOrdinary (pure ()) hostMaking .default ∧
    (Settings.load hostMaking.cwd).on hostMaking = (.ok .default, hostMaking) ∧
    Invocation.ofWords ["build"] = .ok (.build {}) ∧ WithinLimits hostMaking .default ∧
    ∃ r h', (Command.run (pure ()) false ["build"]).on hostMaking = (r, h') ∧
      BuildReport hostMaking .default r h' ∧ r = .ok {} ∧
      h'.events.head? = some (.printed "Rewrote 2 HTML files in /project/_static") := by
  have hload : (Settings.load hostMaking.cwd).on hostMaking = (.ok .default, hostMaking) :=
    Settings.load_eq_ok.mpr ⟨rfl, none, .absent (by decide +kernel), rfl⟩
  have hwords : Invocation.ofWords ["build"] = .ok (.build {}) := by decide +kernel
  have hfacts : ∀ result,
      (Command.run (pure ()) false ["build"]).on hostMaking = result → result.1 = .ok {} ∧
        result.2.events.head? = some (.printed "Rewrote 2 HTML files in /project/_static") := by
    rintro result rfl
    decide +kernel
  cases hrun : (Command.run (pure ()) false ["build"]).on hostMaking with
  | mk r h' =>
    obtain ⟨hr, hprinted⟩ := hfacts _ hrun
    exact ⟨isOrdinary_making, hload, hwords, withinLimits_making, r, h', rfl,
      build_reports isOrdinary_making hload hwords withinLimits_making hrun, hr, hprinted⟩

/-- A project with the given files besides the renderer, on a host where the renderer does nothing
and ends with success. -/
def hostIdle (files : List (Loc × Node)) : Host :=
  { Site.hostKilling with
    program := { run := fun _ _ t => (.ok 0, t) }
    tree := files.foldl (fun t file => t.set file.1 file.2) Site.installed }

theorem isOrdinary_idle {files : List (Loc × Node)} (hw : (hostIdle files).tree.WellFormed) :
    IsOrdinary (pure ()) (hostIdle files) c where
  tree := hw
  leaves _ _ _ _ := hw
  fails := by
    rintro o program ho hhanded t cause u ⟨⟩
  faults := .of_nil rfl
  unheard := .of_not_asking rfl

/-- A project with a document, with a directory in the project and one beside it. -/
def documented (text : String) : List (Loc × Node) :=
  [(["project", "slides"], .directory), (["out"], .directory),
    (["project", "slidesite.yaml"], fileOf text)]

/-- The slides are in the project, by a path that begins with two slashes, and there is no renderer
for them. -/
def hostDoubled : Host :=
  hostIdle (documented "content_dir: //project/slides\nrenderer: beamer\n")

/-- The site is to be made beside the project. -/
def hostBeside : Host := hostIdle (documented "output_dir: ../out\n")

/-- **Paths are compared as they are written.**  The slides of the project are named in full if
their path begins with two slashes, and a page beside the project is named from there if its path
leads out of it. -/
theorem report_compares_names :
    ((∀ c, IsOrdinary (pure ()) hostDoubled c) ∧
      hostDoubled.locate ⟨.doubled, ["project", "slides"]⟩ = .ok ["project", "slides"] ∧
      ((Command.run (pure ()) false ["build"]).on hostDoubled).1 = .ok
        { status := 1
          complaint := ["Build failed:", "  File: //project/slides",
            "  Error: beamer not found. " ++
              "Install it with \x60npm install -D beamer\x60 in the project."] }) ∧
    (∀ c, IsOrdinary (pure ()) hostBeside c) ∧
      hostBeside.locate ⟨.top, ["project", "..", "out", "README.html"]⟩ =
        .ok ["out", "README.html"] ∧
      ((Command.run (pure ()) false ["build"]).on hostBeside).1 = .ok
        { status := 1
          complaint := ["Build failed:", "  File: ../out/README.html",
            "  Error: Expected readme page was not generated"] } :=
  ⟨⟨fun _ => isOrdinary_idle (by decide +kernel), by decide +kernel, by decide +kernel⟩,
    fun _ => isOrdinary_idle (by decide +kernel), by decide +kernel, by decide +kernel⟩

end Command

end DeckPress
