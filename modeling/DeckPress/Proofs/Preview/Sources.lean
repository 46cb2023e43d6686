import DeckPress.Proofs.Preview.Keep
import DeckPress.Proofs.Preview.Memory

/-!
# What a preview does to the sources

A build of a preview removes two directories and moves a page, at places that the settings name.
Nothing keeps these places apart from the sources, so that some settings make a build remove
sources.  All other files outlast every build, however it ends.

* `Preview.Endangers` — the files that a build may remove or change.
* `preserves_promote`, `preserves_finish`, `preserves_byProgram` — the stages of a build.
* `preserves_build`, `preserves_rebuildUpTo` — builds, with requests for rebuilds in them.
* `build_harms_no_source` — the result; `build_harms_sources` — the settings that make builds remove
  sources.
-/

namespace DeckPress

open Act Host

variable {program : Program} {q : Loc} {f : File} {dir root : Path} {readme : String}
  {answer : Act Unit}

/-! ## Finishing a site -/

namespace Site

/-- A file is seen only where a path leads to one. -/
theorem exists_of_seesFile {h : Host} {p : Path} (hp : p.isAbsolute = true)
    (hseen : h.seesFile p = true) : ∃ g, h.tree.get? p.place = some (.file g) := by
  have hfile : ∃ g, h.look p = .ok (some (.file g)) := by
    rw [seesFile] at hseen
    split at hseen
    · rename_i n? hlook
      obtain ⟨n, rfl, hn⟩ := Option.any_eq_true _ _ |>.mp hseen
      cases n with
      | file g => exact ⟨g, hlook⟩
      | directory => cases hn
    · cases hseen
  obtain ⟨g, hlook⟩ := hfile
  obtain ⟨k, hl, hk⟩ := of_look_some hlook
  exact ⟨g, Tree.place_of_locate hp hl ▸ hk⟩

/-- The index is replaced, and the readme page is taken away. -/
theorem preserves_promote (hdir : dir.isAbsolute = true) (hq : ¬ dir.place <+: q)
    (hreadme : q ≠ (dir / pageName readme).place) :
    Preserves (Keeps program q f) (promote dir readme) := by
  have hindex : dir / indexName = dir.child indexName := Path.div_name dir isProperName_indexName
  have hi : ¬ (dir.child indexName).place <+: q := by
    rw [Path.place_child (by decide)]
    exact fun hle => hq ((List.prefix_append _ _).trans hle)
  have hr : (dir / pageName readme).isAbsolute = true := Path.isAbsolute_div hdir _
  intro h hk
  unfold promote
  simp only [hindex]
  refine after_bind ((isQuery_isFile _).preserves _ h hk) fun seen h₁ hseen _ => ?_
  obtain ⟨rfl, -, rfl⟩ := on_isFile_eq_ok.mp hseen
  refine after_check hk fun hfile => ?_
  -- The readme page is a file, so that no other file lies below it.
  have hrq : ¬ (dir / pageName readme).place <+: q := by
    obtain ⟨g, hg⟩ := exists_of_seesFile hr hfile
    exact hk.hasFile.not_prefix (by simp [hg]) hreadme.symm
  refine after_bind ((isQuery_isFile _).preserves _ h₁ hk) fun seen h₂ hseen _ => ?_
  obtain ⟨rfl, -, rfl⟩ := on_isFile_eq_ok.mp hseen
  refine after_check hk fun _ => ?_
  have hunlink : Preserves (Keeps program q f) (unlink (dir.child indexName)) :=
    preserves_unlink hdir hi
  have hrename : Preserves (Keeps program q f)
      (rename (dir / pageName readme) (dir.child indexName)) :=
    preserves_rename hr hdir hrq hi
  exact (preserves_onFile (hunlink.bind fun _ => hrename)).bind
    (fun _ => (isQuery_pure _).preserves _) h₂ hk

/-- Finishing a site touches what is in its directory, and the readme page wherever it is. -/
theorem preserves_finish (hdir : dir.isAbsolute = true) (hq : ¬ dir.place <+: q)
    (hreadme : q ≠ (dir / pageName readme).place) :
    Preserves (Keeps program q f) (finish dir readme) := by
  apply preserves_finish_of (preserves_promote hdir hq hreadme)
  intro rules name hname
  have hn : ¬ (dir.child name).place <+: q := by
    rw [Path.place_child (names_of_isPageName hname).2]
    exact fun hle => hq ((List.prefix_append _ _).trans hle)
  apply preserves_relinkPage_of
  intro h k g bytes hk _ _
  exact preserves_writePage (p := dir.child name) hdir hn bytes h hk

end Site

/-! ## Rendering it -/

theorem Rendering.preserves_byProgram {name : String} {contentDir theme : Path}
    (hwrites : program.WritesIn dir) (hq : ¬ dir.place <+: q)
    (ha : Preserves (Keeps program q f) answer) :
    Preserves (Keeps program q f) (byProgram answer root name contentDir dir theme) := by
  apply preserves_byProgram_of
  · exact fun h command hk => hk.of_same rfl rfl
  · intro h command hc hk
    have hran := hwrites command root.names h.tree hc
    rw [← hk.program] at hran
    have hspared := of_launch (P := Tree.Spares (Tree.Below dir.place) h.tree) (.refl _ _) hran
    exact ⟨hk.program, hk.hasFile.spared (hspared.mono fun _ => Tree.not_prefix_of_below hq)⟩
  · exact fun h time hk => hk.of_same rfl rfl
  · exact ha

/-! ## Building for a preview -/

namespace Preview

variable {p : Preview} {h : Host} {settings : Settings} {number? : Option Int}

/-- A build of the preview may remove or change what is at the place: it is the place of one of the
two sites or below it, or the place at which the readme page of the next site is looked for. -/
def Endangers (p : Preview) (q : Loc) : Prop :=
  p.outputDir.place <+: q ∨ p.stagingDir.place <+: q ∨
    ∃ readme, p.settings.text Settings.readme = .ok readme ∧
      q = (p.stagingDir / Site.pageName readme).place

/-- The readme page of the next site is in its directory, unless its name leads elsewhere. -/
theorem endangers_iff
    (hslash : ∀ readme, p.settings.text Settings.readme = .ok readme → '/' ∉ readme.toList) :
    p.Endangers q ↔ p.outputDir.place <+: q ∨ p.stagingDir.place <+: q := by
  unfold Endangers
  constructor
  · rintro (hle | hle | ⟨readme, hreadme, rfl⟩)
    · exact .inl hle
    · exact .inr hle
    · right
      have hname := Site.isProperName_pageName (hslash readme hreadme)
      rw [Path.div_name _ hname, Path.place_child (Site.pageName_ne (by decide) readme)]
      exact List.prefix_append _ _
  · rintro (hle | hle)
    · exact .inl hle
    · exact .inr (.inl hle)

theorem preserves_prepare (habs : p.stagingDir.isAbsolute = true)
    (hq : ¬ p.stagingDir.place <+: q) : Preserves (Keeps program q f) p.prepare :=
  preserves_prepare_of (preserves_removeTree habs hq) (preserves_makeDirectories _)

theorem preserves_activate (habs : p.stagingDir.isAbsolute = true)
    (habs' : p.outputDir.isAbsolute = true) (hq : ¬ p.stagingDir.place <+: q)
    (hq' : ¬ p.outputDir.place <+: q) :
    Preserves (Keeps program q f) (p.activate p.stagingDir) :=
  preserves_activate_of (preserves_removeTree habs' hq') (preserves_replace habs habs' hq hq')

/-- A build keeps the files that it does not endanger, if what it does for the program does. -/
theorem preserves_build (habs : p.stagingDir.isAbsolute = true)
    (habs' : p.outputDir.isAbsolute = true) (hwrites : program.WritesIn p.stagingDir)
    (hsafe : ¬ p.Endangers q) (ha : Preserves (Keeps program q f) answer) :
    Preserves (Keeps program q f) (p.build answer) := by
  obtain ⟨hout, hstaging, hreadme⟩ : ¬ p.outputDir.place <+: q ∧ ¬ p.stagingDir.place <+: q ∧
      ∀ readme, p.settings.text Settings.readme = .ok readme →
        q ≠ (p.stagingDir / Site.pageName readme).place := by
    simpa [Endangers, not_or] using hsafe
  apply preserves_build_of (preserves_prepare habs hstaging)
  · apply Site.preserves_build_of
    · exact fun name contentDir theme => Rendering.preserves_byProgram hwrites hstaging ha
    · exact fun readme htext => Site.preserves_finish habs hstaging (hreadme readme htext)
  · exact preserves_activate habs habs' hstaging hout

/-- Requests for rebuilds keep those files as well, however deep they nest. -/
theorem preserves_rebuildUpTo (habs : p.stagingDir.isAbsolute = true)
    (habs' : p.outputDir.isAbsolute = true) (hwrites : program.WritesIn p.stagingDir)
    (hsafe : ¬ p.Endangers q) (depth : Nat) :
    Preserves (Keeps program q f) (p.rebuildUpTo depth) := by
  apply preserves_rebuildUpTo_of
  · exact fun h h' hprogram htree hk => hk.of_same hprogram htree
  · exact fun answer ha => preserves_build habs habs' hwrites hsafe ha

/-- **A build of a preview harms no file but those that it endangers.**  Every other file, source or
not, is there afterwards as it was before, whether the build returned or failed, whatever failures
wait, and whatever the program asks for while it runs.  The program touches nothing outside the
directory that it is given, and the project lies at a path from the top. -/
theorem build_harms_no_source (hp : ofSettings root settings number? = .ok p)
    (habs : root.isAbsolute = true) (hw : h.tree.Rooted)
    (hwrites : h.program.WritesIn p.stagingDir) (depth : Nat)
    (hfile : h.tree.get? q = some (.file f)) (hsafe : ¬ p.Endangers q) :
    ((p.build (p.rebuildUpTo depth)).on h).2.tree.get? q = some (.file f) := by
  obtain ⟨-, -, ⟨o, -, hout⟩, -, hstaging⟩ := ofSettings_eq_ok hp
  have habs' : p.outputDir.isAbsolute = true := hout ▸ Path.isAbsolute_div habs o
  have habs'' : p.stagingDir.isAbsolute = true := hstaging ▸ habs'
  have hk : Keeps h.program q f h := ⟨rfl, hw.hasFile hfile⟩
  have hrequests := preserves_rebuildUpTo (f := f) habs'' habs' hwrites hsafe depth
  exact (preserves_build habs'' habs' hwrites hsafe hrequests h hk).hasFile.file

/-! ## A project -/

/-- In a project that was built before, the slides outlast the next build. -/
theorem build_harms_no_source_used : authoredProject.Rooted ∧
    (Program.writer slides 0).WritesIn newPreview.stagingDir ∧
    ¬ newPreview.Endangers slidesPlace ∧
    authoredProject.get? slidesPlace = some (.file ⟨[], 0, false⟩) ∧
    ((newPreview.build newPreview.rebuild).on (hostWith "/project/bin" authoredProject)).2.tree.get?
      slidesPlace = some (.file ⟨[], 0, false⟩) := by
  have hw : authoredProject.WellFormed := by decide +kernel
  have hwrites : (Program.writer slides 0).WritesIn newPreview.stagingDir :=
    Program.writesIn_writer rfl (by decide) confined_slides 0
  have hsafe : ¬ newPreview.Endangers slidesPlace := by
    rw [endangers_iff slash_newSettings]
    decide
  have hfile : authoredProject.get? slidesPlace = some (.file ⟨[], 0, false⟩) := by
    decide +kernel
  exact ⟨hw.toRooted, hwrites, hsafe, hfile,
    build_harms_no_source (h := hostWith "/project/bin" authoredProject) ofSettings_newSettings rfl
      hw.toRooted hwrites 2 hfile hsafe⟩

/-- A project with slides, with a page among them, and with slides where the next site is made if
the settings do not say otherwise. -/
def exposedProject : Tree :=
  let source : Node := .file ⟨[], 0, false⟩
  (((((bareProject.set ["project", "markdown"] .directory).set
    ["project", "markdown", "workshop"] .directory).set slidesPlace source).set
    ["project", "markdown", "workshop", "x.html"] source).set
    ["project", "_static.staging"] .directory).set ["project", "_static.staging", "a.md"] source

/-- Settings with which a build removes a source: the slides lie in the directory of the finished
site, or in the one of the next site, or the name of the readme document leads to a file among
them. -/
def harmfulSettings : List (Settings × Loc) := [
  (Settings.default.set Settings.outputDir (.str "markdown"), slidesPlace),
  (Settings.default.set Settings.contentDir (.str "_static.staging"),
    ["project", "_static.staging", "a.md"]),
  (Settings.default.set Settings.readme (.str "../markdown/workshop/x"),
    ["project", "markdown", "workshop", "x.html"])]

/-- With these settings a preview can be made, and its build succeeds and removes a source, although
the program touches nothing outside the directory that it is given. -/
theorem build_harms_sources : exposedProject.WellFormed ∧
    harmfulSettings.Forall fun (settings, q) => ∃ p h',
      ofSettings project settings none = .ok p ∧
      (Program.writer slides 0).WritesIn p.stagingDir ∧ p.contentDir.place <+: q ∧
      exposedProject.get? q = some (.file ⟨[], 0, false⟩) ∧
      (p.build p.rebuild).on (hostWith "/project/bin" exposedProject) = (.ok (), h') ∧
      h'.tree.get? q = none := by
  have hrun : ∀ (p : Preview) (q : Loc), p.stagingDir.isAbsolute = true →
      p.stagingDir.IsProper → p.contentDir.place <+: q →
      exposedProject.get? q = some (.file ⟨[], 0, false⟩) →
      (∀ r, (p.build p.rebuild).on (hostWith "/project/bin" exposedProject) = r →
        r.1.isOk = true ∧ r.2.tree.get? q = none) →
      ∃ h', (Program.writer slides 0).WritesIn p.stagingDir ∧ p.contentDir.place <+: q ∧
        exposedProject.get? q = some (.file ⟨[], 0, false⟩) ∧
        (p.build p.rebuild).on (hostWith "/project/bin" exposedProject) = (.ok (), h') ∧
        h'.tree.get? q = none := by
    intro p q habs hproper hsource hfile hbuild
    obtain ⟨hok, hgone⟩ := hbuild _ rfl
    obtain ⟨x, h', hbuilt⟩ := exists_of_isOk hok
    rw [hbuilt] at hgone
    exact ⟨h', Program.writesIn_writer habs hproper confined_slides 0, hsource, hfile, hbuilt,
      hgone⟩
  have hfiles : ∀ q ∈ harmfulSettings.map Prod.snd,
      exposedProject.get? q = some (.file ⟨[], 0, false⟩) := by decide +kernel
  refine ⟨by decide +kernel, ?_, ?_, ?_⟩
  · obtain ⟨h', h1⟩ := hrun { newPreview with
      settings := Settings.default.set Settings.outputDir (.str "markdown")
      outputDir := ⟨.top, ["project", "markdown"]⟩
      stagingDir := ⟨.top, ["project", "markdown.staging"]⟩ } slidesPlace rfl (by decide)
      (by decide) (hfiles _ (by decide)) (by rintro r rfl; decide +kernel)
    exact ⟨_, h', rfl, h1⟩
  · obtain ⟨h', h1⟩ := hrun { newPreview with
      settings := Settings.default.set Settings.contentDir (.str "_static.staging")
      outputDir := ⟨.top, ["project", "_static"]⟩
      contentDir := ⟨.top, ["project", "_static.staging"]⟩
      stagingDir := ⟨.top, ["project", "_static.staging"]⟩ } _ rfl (by decide) (by decide)
      (hfiles ["project", "_static.staging", "a.md"] (by decide)) (by rintro r rfl; decide +kernel)
    exact ⟨_, h', rfl, h1⟩
  · obtain ⟨h', h1⟩ := hrun { newPreview with
      settings := Settings.default.set Settings.readme (.str "../markdown/workshop/x")
      outputDir := ⟨.top, ["project", "_static"]⟩
      stagingDir := ⟨.top, ["project", "_static.staging"]⟩ } _ rfl (by decide) (by decide)
      (hfiles ["project", "markdown", "workshop", "x.html"] (by decide))
      (by rintro r rfl; decide +kernel)
    exact ⟨_, h', rfl, h1⟩

end Preview

end DeckPress
