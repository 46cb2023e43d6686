import DeckPress.Proofs.Preview.Swap
import DeckPress.Proofs.Site.Build

/-!
# A preview builds what a plain build builds

The site that a preview puts in place is the one that a plain build makes where nothing was before,
whatever was at the two places of the preview.

* `build_stages` — the stages of a build of a preview.
* `render_relocated` — what the renderer leaves for a preview, and for a plain build;
  `starts_plain` — it is started for the one if it is started for the other.
* `finish_activated` — the two sites once they are finished and in place.
* `build_forgets` — what was at the two places before does not matter.
* `build_refines` — the whole; `build_not_refined` — why the renderer has to be found without what
  the preview makes before it looks for it.
-/

namespace DeckPress.Preview

open Act

variable {root : Path} {settings : Settings} {number? : Option Int} {p : Preview} {h h' : Host}
  {files : List (String × Node)} {status : Int} {answer answer' : Act Unit} {dir : Path}
  {a b : String} {i : Site.Texts} {x : Unit}

/-- The host with nothing at the places of the finished site and of the next one. -/
def cleared (p : Preview) (h : Host) : Host :=
  { h with tree := (h.tree.eraseFrom p.outputDir.names).eraseFrom p.stagingDir.names }

/-! ## The stages -/

/-- A preview clears the place of the next site, has it rendered there, finishes it there and then
puts it in place. -/
theorem build_stages (hf : h.faults = []) (hw : h.tree.Rooted) (hp : p.Placed dir a b)
    (hask : h.program.asksForRebuild = false) (hrun : (p.build answer).on h = (.ok x, h')) :
    ∃ (i : Site.Texts) (h₁ : Host) (program : String) (t : Tree) (r : Site.Result) (h₂ : Host),
      i.In p.settings ∧ h.Alike h₁ ∧
      (p.stagingDir.Fits → p.stagingDir.hasNul = false →
        ∃ v, Cleared p.stagingDir.names h.tree v ∧
          Tree.Made v h₁.tree p.stagingDir.parent.names) ∧
      Rendering.Starts h₁ (i.commandLine p.root p.stagingDir program) p.root ∧
      h.program.run (i.commandLine p.root p.stagingDir program) p.root.names h₁.tree =
        (.ok 0, t) ∧
      (Site.finish p.stagingDir i.readme).on
        (h₁.ran (i.commandLine p.root p.stagingDir program) p.root t) = (.ok r, h₂) ∧
      (activate p p.stagingDir).on h₂ = (.ok x, h') := by
  have hq : p.stagingDir.IsPlain := hp.staging ▸ hp.beside.plain_source
  have hne : p.stagingDir.names ≠ [] := by simp [hp.staging]
  unfold build at hrun
  simp only [on_bind_eq_ok] at hrun
  obtain ⟨staging, h₁, hprepare, r, h₂, hbuild, hactivate⟩ := hrun
  obtain ⟨rfl, halike, hmade⟩ := prepare_effect hf hw hq hne hprepare
  obtain ⟨i, output, h₃, hi, houtput, hrender, hfinish⟩ := Site.build_eq_ok.mp hbuild
  cases houtput
  rw [← halike.program] at hask
  obtain ⟨program, t, -, hlaunch, rfl⟩ :=
    (Rendering.byProgram_eq_ok (.of_not_asking hask)).mp hrender
  obtain ⟨hstarts, hrendered⟩ := Rendering.launch_eq_ok.mp hlaunch
  rw [halike.program] at hrendered
  exact ⟨i, h₁, program, t, r, h₂, hi, halike, hmade, hstarts, hrendered, hfinish, hactivate⟩

/-- What the renderer leaves for the preview is, up to the place of the site, what it leaves for a
plain build with nothing at the two places. -/
theorem render_relocated (hw : h.tree.Rooted) (hp : p.Placed dir a b)
    (hprogram : h.program.run = Program.writeFiles files status)
    (hfiles : ∀ e ∈ files, Tree.Confined e.1) {h₁ : Host} {cwd : Loc} {command : List String}
    {t : Tree} (hmade : p.stagingDir.Fits → p.stagingDir.hasNul = false →
      ∃ v, Cleared p.stagingDir.names h.tree v ∧
        Tree.Made v h₁.tree p.stagingDir.parent.names)
    (hcommand : command[3]? = some p.stagingDir.toString)
    (hrendered : h.program.run command cwd h₁.tree = (.ok 0, t)) :
    p.stagingDir.Fits ∧ p.stagingDir.hasNul = false ∧ ∃ u,
      Tree.Relocated p.stagingDir.names p.outputDir.names t u ∧
        ∀ command : List String, command[3]? = some p.outputDir.toString →
          h.program.run command cwd (p.cleared h).tree = (.ok 0, u) := by
  have hsource := hp.beside.plain_source
  have htarget := hp.beside.plain_target
  rw [hp.staging] at hmade hcommand
  rw [hprogram] at hrendered
  rw [hp.staging, hp.output, hprogram, cleared, hp.staging, hp.output]
  obtain ⟨hnul, hstatus, v, hv, hfilled⟩ :=
    (Program.writeFiles_eq_ok hsource.absolute hsource.proper hcommand).mp hrendered
  obtain ⟨hfits, hthere⟩ := Tree.made_of_makeDirectories hsource hv
  obtain ⟨w, hclear, habove⟩ := hmade hfits hnul
  rw [Path.parent_child] at habove
  -- The directory that a plain build makes for the site.
  obtain ⟨v', hv', hthere'⟩ := Tree.exists_makeDirectories cwd htarget (hp.beside.fits_target hfits)
    (free_of_made hp.beside.ne hclear habove)
  have hempty := relocated_of_made hp.beside.ne hw hclear habove hthere hthere'
  obtain ⟨u, hu, hsame⟩ := hempty.installAll hp.beside hfiles hfilled
  exact ⟨hfits, hnul, u, hsame, fun command hcommand' =>
    (Program.writeFiles_eq_ok htarget.absolute htarget.proper hcommand').mpr
      ⟨hp.beside.hasNul hnul, hstatus, v', hv', hu⟩⟩

/-- The system starts the renderer for a plain build as it does for the preview, as long as the
project is not in the site: the words are the same but for the place of the site, and the project is
still there with nothing at the two places. -/
theorem starts_plain (hw : h.tree.Rooted) (hp : p.Placed dir a b) (hplain : p.root.IsPlain)
    (hproject : h.tree.get? p.root.names = some .directory)
    (hcontains : ¬ p.outputDir.names <+: p.root.names) {h₁ : Host} (halike : h.Alike h₁)
    (hmade : ∃ v, Cleared p.stagingDir.names h.tree v ∧
      Tree.Made v h₁.tree p.stagingDir.parent.names) {program found : String}
    (hword : Rendering.isWord found = true)
    (hstarts : Rendering.Starts h₁ (i.commandLine p.root p.stagingDir program) p.root) :
    Rendering.Starts (p.cleared h) (i.commandLine p.root p.outputDir found) p.root := by
  rcases hstarts with hplayed | hnone
  · exact .inl (halike.program ▸ hplayed)
  obtain ⟨hnul, hwords, k, hl, hk⟩ := Rendering.refusal?_eq_none.mp hnone
  obtain ⟨-, hcontent, hstaging, htheme⟩ := Rendering.forall_mem_command.mp hwords
  obtain ⟨hfits, -, rfl⟩ := (Tree.locate_eq_ok hplain).mp hl
  -- The next site has no project in it, since the renderer was started after it was cleared.
  have haway : ¬ p.stagingDir.names <+: p.root.names := by
    intro hbelow
    obtain ⟨v, hclear, habove⟩ := hmade
    rw [hp.staging] at hclear habove hbelow
    rw [Path.parent_child] at habove
    rw [gone_of_made hclear habove hbelow] at hk
    cases hk
  have hkept : ∀ q, q <+: p.root.names → (p.cleared h).tree.get? q = h.tree.get? q := by
    intro q hq
    rw [cleared, get?_eraseFrom_both (by simp [hp.staging]) (by simp [hp.output]),
      if_neg fun hbelow => haway (hbelow.trans hq),
      if_neg fun hbelow => hcontains (hbelow.trans hq)]
  have hleads : h.tree.Leads p.root.names :=
    hw.leads (q := []) (by rw [List.append_nil, hproject]; rfl)
  have houtput : p.outputDir.hasNul = false := by
    rw [hp.output]
    exact hp.beside.hasNul (hp.staging ▸ hstaging)
  exact .inr (Rendering.refusal?_eq_none.mpr ⟨hnul,
    Rendering.forall_mem_command.mpr ⟨hword, hcontent, houtput, htheme⟩, p.root.names,
    (Tree.locate_eq_ok hplain).mpr
      ⟨hfits, fun q hq hne => (hkept q hq).trans (hleads q hq hne), rfl⟩,
    (hkept _ List.prefix_rfl).trans hproject⟩)

/-- A site that was rendered for a plain build can be finished if the one of the preview was, and
leaves the tree that the preview leaves.  Nothing is left at the place of the next site. -/
theorem finish_activated (hf : h.faults = []) (hp : p.Placed dir a b) {h₁ h₂ g : Host}
    (halike : h.Alike h₁) (hg : h.Alike g) (hfits : p.stagingDir.Fits)
    (hnul : p.stagingDir.hasNul = false) {t : Tree}
    (hsame : Tree.Relocated p.stagingDir.names p.outputDir.names t g.tree) {readme : String}
    (hslash : '/' ∉ readme.toList) {command : List String} {r : Site.Result}
    (hfinish : (Site.finish p.stagingDir readme).on (h₁.ran command p.root t) = (.ok r, h₂))
    (hactivate : (activate p p.stagingDir).on h₂ = (.ok x, h')) :
    ∃ r' g', (Site.finish p.outputDir readme).on g = (.ok r', g') ∧ g'.tree = h'.tree ∧
      ∀ r, g'.tree.get? (p.stagingDir.names ++ r) = none := by
  have hR : Host.Relocated dir a b (h₁.ran command p.root t) g :=
    ⟨hp.output ▸ hp.staging ▸ hsame, hp.staging ▸ hfits, hp.staging ▸ hnul,
      hg.cwd.trans halike.cwd.symm, hg.stamp.trans halike.stamp.symm, halike.faults.trans hf,
      hg.faults.trans hf⟩
  rw [hp.staging] at hfinish hactivate ⊢
  obtain ⟨r', g', hfinish', hR'⟩ := Site.finish_relocated hp.beside hR hslash hfinish
  rw [hp.output]
  exact ⟨r', g', hfinish', (activate_relocated hp.beside hR' hp.output hactivate).symm,
    hR'.tree.gone⟩

/-! ## The whole -/

/-- The site of the preview is rendered and finished as if it were made at its place, with nothing
at the two places before. -/
theorem build_effect (hf : h.faults = []) (hw : h.tree.Rooted) (hp : p.Placed dir a b)
    (hprogram : h.program.run = Program.writeFiles files status)
    (hask : h.program.asksForRebuild = false) (hfiles : ∀ e ∈ files, Tree.Confined e.1)
    (hslash : ∀ readme, p.settings.text Settings.readme = .ok readme → '/' ∉ readme.toList)
    (hrun : (p.build answer).on h = (.ok x, h')) :
    ∃ (i : Site.Texts) (u : Tree), i.In p.settings ∧
      (p.root.IsPlain → h.tree.get? p.root.names = some .directory →
        ¬ p.outputDir.names <+: p.root.names → ∀ found, Rendering.isWord found = true →
          Rendering.Starts (p.cleared h) (i.commandLine p.root p.outputDir found) p.root) ∧
      (∀ command : List String, command[3]? = some p.outputDir.toString →
        h.program.run command p.root.names (p.cleared h).tree = (.ok 0, u)) ∧
      ∀ g, h.Alike g → g.tree = u → ∃ r g',
        (Site.finish p.outputDir i.readme).on g = (.ok r, g') ∧ g'.tree = h'.tree ∧
          ∀ r, g'.tree.get? (p.stagingDir.names ++ r) = none := by
  obtain ⟨i, h₁, program, t, r, h₂, hi, halike, hmade, hstarts, hrendered, hfinish, hactivate⟩ :=
    build_stages hf hw hp hask hrun
  obtain ⟨hfits, hnul, u, hsame, hrenders⟩ :=
    render_relocated hw hp hprogram hfiles hmade rfl hrendered
  refine ⟨i, u, hi, fun hplain hproject hcontains found hword => starts_plain hw hp hplain hproject
    hcontains halike (hmade hfits hnul) hword hstarts, hrenders, ?_⟩
  rintro g hg rfl
  exact finish_activated hf hp halike hg hfits hnul hsame (hslash _ hi.readme) hfinish hactivate

/-- Two builds of the preview leave the same tree if their files were the same but for the two
places. -/
theorem build_forgets (hf : h.faults = []) (hw : h.tree.Rooted) (hp : p.Placed dir a b)
    (hprogram : h.program.run = Program.writeFiles files status)
    (hask : h.program.asksForRebuild = false) (hfiles : ∀ e ∈ files, Tree.Confined e.1)
    (hslash : ∀ readme, p.settings.text Settings.readme = .ok readme → '/' ∉ readme.toList)
    (hrun : (p.build answer).on h = (.ok x, h')) {k k' : Host} {y : Unit} (hk : h.Alike k)
    (hkw : k.tree.Rooted) (hkt : (p.cleared k).tree = (p.cleared h).tree)
    (hkrun : (p.build answer').on k = (.ok y, k')) : k'.tree = h'.tree := by
  obtain ⟨i, u, hi, -, hrendered, hfinished⟩ :=
    build_effect hf hw hp hprogram hask hfiles hslash hrun
  obtain ⟨j, v, hj, -, hrendered', hfinished'⟩ := build_effect (hk.faults.trans hf) hkw hp
    (hk.program ▸ hprogram) (hk.program ▸ hask) hfiles hslash hkrun
  cases hi.unique hj
  -- The renderer leaves the same tree for both, and so the finished sites are the same.
  have hv := hrendered' (i.commandLine p.root p.outputDir "") rfl
  rw [hk.program, hkt, hrendered _ rfl] at hv
  cases hv
  obtain ⟨_, _, hfinish, htree, -⟩ := hfinished (h.commit u) ((Host.Alike.refl h).commit u) rfl
  obtain ⟨_, _, hfinish', htree', -⟩ := hfinished' (h.commit u) (hk.symm.commit u) rfl
  rw [hfinish] at hfinish'
  cases hfinish'
  exact htree'.symm.trans htree

/-- **A build of a preview refines a plain build, whatever was at its two places before.**  Nothing
is left at the place of the next site.  With nothing at the two places before, a plain build
succeeds if its renderer is found, and then leaves the tree that the preview leaves; and so does
every build of the preview that succeeds on files that are the same but for the two places.  The
project is a directory at a plain path, as every working directory is, and the site does not contain
it: a renderer cannot be started in a project that was removed with the site. -/
theorem build_refines (hp : ofSettings root settings number? = .ok p)
    (hplain : root.IsPlain) (hproject : h.tree.get? root.names = some .directory)
    (hup : ".." ∉ p.outputDir.names) (hcontains : ¬ p.outputDir.names <+: root.names)
    (hslash : ∀ readme, settings.text Settings.readme = .ok readme → '/' ∉ readme.toList)
    (hf : h.faults = []) (hw : h.tree.Rooted)
    (hprogram : h.program.run = Program.writeFiles files status)
    (hask : h.program.asksForRebuild = false) (hfiles : ∀ e ∈ files, Tree.Confined e.1)
    (hrun : (p.build answer).on h = (.ok x, h')) :
    (∀ r, h'.tree.get? (p.stagingDir.names ++ r) = none) ∧
      (∃ name, settings.text Settings.renderer = .ok name ∧
        ((∃ r g, (Site.build answer' root none (some settings)).on (p.cleared h) = (.ok r, g)) ↔
          ∃ program, (Program.find? name (some root) true).on (p.cleared h) =
            (.ok (some program), p.cleared h))) ∧
      (∀ r g, (Site.build answer' root none (some settings)).on (p.cleared h) = (.ok r, g) →
        g.tree = h'.tree) ∧
      ∀ k k' y, h.Alike k → k.tree.Rooted → (p.cleared k).tree = (p.cleared h).tree →
        (p.build answer').on k = (.ok y, k') → k'.tree = h'.tree := by
  obtain ⟨rfl, rfl, ⟨o, ho, hroot⟩, -, -⟩ := ofSettings_eq_ok hp
  have hplaced : p.Placed p.outputDir.parent (p.outputDir.name ++ stagingSuffix) p.outputDir.name :=
    placed_of_ofSettings hp hplain.absolute hplain.proper hup
  obtain ⟨i, u, hi, hstarts, hrendered, hfinished⟩ :=
    build_effect hf hw hplaced hprogram hask hfiles hslash hrun
  have hdir : Site.outputDirOf p.root p.settings none = .ok p.outputDir :=
    Site.outputDirOf_none_eq_ok.mpr ⟨o, ho, hroot⟩
  have hbuild : ∀ {r g},
      (Site.build answer' p.root none (some p.settings)).on (p.cleared h) = (.ok r, g) ↔
        ∃ program, (Program.find? i.renderer (some p.root) true).on (p.cleared h) =
            (.ok (some program), p.cleared h) ∧
          Rendering.Starts (p.cleared h) (i.commandLine p.root p.outputDir program) p.root ∧
          (Site.finish p.outputDir i.readme).on ((p.cleared h).ran
            (i.commandLine p.root p.outputDir program) p.root u) = (.ok r, g) :=
    Site.build_eq_ok_of_rendered hask hi hdir hrendered
  have hran : ∀ command, h.Alike ((p.cleared h).ran command p.root u) :=
    fun _ => ⟨rfl, rfl, rfl, rfl⟩
  refine ⟨?_, ⟨i.renderer, hi.renderer, ?_, ?_⟩, fun r g hr => ?_,
    fun k k' y hk hkw hkt hkrun => ?_⟩
  · obtain ⟨_, g, -, htree, hgone⟩ := hfinished (h.commit u) ((Host.Alike.refl h).commit u) rfl
    exact htree ▸ hgone
  · rintro ⟨r, g, hr⟩
    obtain ⟨program, hfind, -⟩ := hbuild.mp hr
    exact ⟨program, hfind⟩
  · rintro ⟨program, hfind⟩
    obtain ⟨r, g, hfinish, -⟩ := hfinished _ (hran _) rfl
    exact ⟨r, g, hbuild.mpr ⟨program, hfind, hstarts hplain hproject hcontains program
      (Rendering.isWord_of_find? hfind), hfinish⟩⟩
  · obtain ⟨program, -, -, hfinish⟩ := hbuild.mp hr
    obtain ⟨_, _, hfinish', htree, -⟩ := hfinished _ (hran _) rfl
    rw [hfinish] at hfinish'
    cases hfinish'
    exact htree
  · exact build_forgets hf hw hplaced hprogram hask hfiles hslash hrun hk hkw hkt hkrun

/-! ## A project -/

/-- The directory of a project. -/
def project : Path := ⟨.top, ["project"]⟩

/-- The settings of a project whose site is made two directories down. -/
def newSettings : Settings := Settings.default.set Settings.outputDir (.str "new/site")

/-- The preview of that project. -/
def newPreview : Preview where
  root := project
  settings := newSettings
  outputDir := ⟨.top, ["project", "new", "site"]⟩
  contentDir := ⟨.top, ["project", "markdown", "workshop"]⟩
  theme := ⟨.top, ["project", "themes", "simplabs.css"]⟩
  stagingDir := ⟨.top, ["project", "new", "site.staging"]⟩
  portNumber := 4000

/-- A project with nothing but the renderer. -/
def bareProject : Tree :=
  (((∅ : Tree).set ["project"] .directory).set ["project", "bin"] .directory).set
    ["project", "bin", "reveal-md"] (.file ⟨[], 0, true⟩)

/-- The project with an earlier site, and with what is left of a build that failed. -/
def usedProject : Tree :=
  ((((bareProject.set ["project", "new"] .directory).set ["project", "new", "site"] .directory).set
    ["project", "new", "site", "old.html"] (.file ⟨[], 0, false⟩)).set
    ["project", "new", "site.staging"] .directory).set
    ["project", "new", "site.staging", "half.html"] (.file ⟨[], 0, false⟩)

/-- What the renderer writes. -/
def slides : List (String × Node) := [
  ("README.html", .file ⟨Utf8.encode "home".toList, 0, false⟩),
  ("index.html", .file ⟨Utf8.encode "generic".toList, 0, false⟩)]

/-- A host with a project; the renderer is looked for along the search path. -/
def hostWith (searchPath : String) (t : Tree) : Host where
  tree := t
  cwd := project
  searchPath := searchPath
  program := Program.writer slides 0

theorem ofSettings_newSettings : ofSettings project newSettings none = .ok newPreview := rfl

theorem onward_newPreview : ".." ∉ newPreview.outputDir.names := by decide

theorem plain_project : project.IsPlain := by
  rw [Path.isPlain_iff]
  unfold Path.IsProper Path.IsProperName
  decide

theorem confined_slides : ∀ e ∈ slides, Tree.Confined e.1 := by
  unfold slides Tree.Confined
  decide +kernel

theorem slash_newSettings (readme : String)
    (h : newSettings.text Settings.readme = .ok readme) : '/' ∉ readme.toList := by
  cases h
  decide

/-- In a project that was built before, the preview leaves what a plain build leaves without what
was built before. -/
theorem build_refines_used : usedProject.WellFormed ∧
    ∃ h', (newPreview.build (pure ())).on (hostWith "/project/bin" usedProject) = (.ok (), h') ∧
      (∀ r, h'.tree.get? (["project", "new", "site.staging"] ++ r) = none) ∧
      ∃ r g, (Site.build (pure ()) project none (some newSettings)).on
          (newPreview.cleared (hostWith "/project/bin" usedProject)) = (.ok r, g) ∧
        g.tree = h'.tree := by
  have hw : usedProject.WellFormed := by decide +kernel
  obtain ⟨x, h', hrun⟩ : ∃ x h', (newPreview.build (pure ())).on
      (hostWith "/project/bin" usedProject) = (.ok x, h') := exists_of_isOk (by decide +kernel)
  obtain ⟨r, g, hbuild⟩ : ∃ r g, (Site.build (pure ()) project none (some newSettings)).on
      (newPreview.cleared (hostWith "/project/bin" usedProject)) = (.ok r, g) :=
    exists_of_isOk (by decide +kernel)
  obtain ⟨hgone, -, hsame, -⟩ := build_refines ofSettings_newSettings plain_project
    (by decide +kernel) onward_newPreview (by decide) slash_newSettings rfl hw.toRooted rfl rfl
    confined_slides hrun
  exact ⟨hw, h', hrun, hgone, r, g, hbuild, hsame r g hbuild⟩

/-- A preview may build what a plain build cannot, although no program lies at its two places: it
makes the directories above them before it looks for the renderer, and the search path may lead
through one of these. -/
theorem build_not_refined : ofSettings project newSettings none = .ok newPreview ∧
    ".." ∉ newPreview.outputDir.names ∧ ¬ newPreview.outputDir.names <+: project.names ∧
    bareProject.get? project.names = some .directory ∧
    bareProject.WellFormed ∧ (∀ e ∈ slides, Tree.Confined e.1) ∧
    (∀ r, bareProject.get? (newPreview.outputDir.names ++ r) = none ∧
      bareProject.get? (newPreview.stagingDir.names ++ r) = none) ∧
    (∃ h', (newPreview.build (pure ())).on (hostWith "/project/new/../bin" bareProject) =
      (.ok (), h')) ∧
    ∀ r g, (Site.build (pure ()) project none (some newSettings)).on
      (newPreview.cleared (hostWith "/project/new/../bin" bareProject)) ≠ (.ok r, g) := by
  have hw : bareProject.WellFormed := by decide +kernel
  have hnone : bareProject.get? ["project", "new"] ≠ some .directory := by decide +kernel
  refine ⟨ofSettings_newSettings, onward_newPreview, by decide, by decide +kernel, hw,
    confined_slides,
    fun r => ⟨hw.toRooted.none_below (r := "site" :: r) hnone (by simp),
      hw.toRooted.none_below (r := "site.staging" :: r) hnone (by simp)⟩, ?_, fun r g hbuild => ?_⟩
  · obtain ⟨x, h', hrun⟩ : ∃ x h', (newPreview.build (pure ())).on
        (hostWith "/project/new/../bin" bareProject) = (.ok x, h') :=
      exists_of_isOk (by decide +kernel)
    exact ⟨h', hrun⟩
  · have hfails : ((Site.build (pure ()) project none (some newSettings)).on
        (newPreview.cleared (hostWith "/project/new/../bin" bareProject))).1.isOk = false := by
      decide +kernel
    rw [hbuild] at hfails
    cases hfails

end DeckPress.Preview
