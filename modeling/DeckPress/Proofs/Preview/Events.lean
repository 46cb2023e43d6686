import DeckPress.Proofs.Host.Contain
import DeckPress.Proofs.Preview.Keep

/-!
# A build does not set off another one

The preview that watches its sources would build without end if a build changed a file whose event
it does not ignore.  A build touches the files of the two sites only, also if it fails half-way, and
events for these are ignored if they are written as the settings write the place of the site.

* `InSites` — the places at and below those of the two sites.
* `contained_finish`, `contained_byProgram`, `contained_build`, `contained_rebuildUpTo` — no other
  file is touched, whatever comes of the stages of a build, of a build, and of requests in it.
* `build_sets_off_nothing` — events for files that a build touched come to nothing;
  `build_sets_off_rebuild` — unless a site is at a path with two slashes in front, since the paths
  of events have one.
-/

namespace DeckPress

open Act Host

variable {program : Program} {D : Loc → Prop} {t : Tree} {q : Loc} {dir root : Path}
  {answer : Act Unit}

/-! ## Making a site -/

theorem Site.contained_promote {readme : String} (hp : dir.IsPlain) (hslash : '/' ∉ readme.toList)
    (hD : ∀ q, Tree.Below dir.names q → D q) :
    Preserves (Contained program D t) (promote dir readme) := by
  have hread : dir / pageName readme = dir.child (pageName readme) :=
    Path.div_name dir (isProperName_pageName hslash)
  have hindex : dir / indexName = dir.child indexName := Path.div_name dir isProperName_indexName
  -- Both pages are entries of the directory.
  have hplain : (dir.child (pageName readme)).IsPlain := Path.isPlain_below hp <| by
    simpa using ⟨isProperName_pageName hslash, pageName_ne (by decide) readme⟩
  have hplain' : (dir.child indexName).IsPlain := Path.isPlain_below hp <| by
    simpa using ⟨isProperName_indexName, by decide⟩
  have hbelow : ∀ name q, Tree.Below (dir.child name).names q → D q :=
    fun name q hq => hD q ((List.prefix_append _ _).trans hq)
  unfold promote
  simp only [hread, hindex]
  refine ((isQuery_isFile _).preserves _).bind fun _ h hc => after_check hc fun _ => ?_
  refine ((isQuery_isFile _).preserves _).bind (fun _ h hc => after_check hc fun _ => ?_) h hc
  have hunlink : Preserves (Contained program D t) (unlink (dir.child indexName)) :=
    contained_unlink hplain' (hbelow _ _ List.prefix_rfl)
  have hrename : Preserves (Contained program D t)
      (rename (dir.child (pageName readme)) (dir.child indexName)) :=
    contained_rename hplain hplain' (hbelow _) (hbelow _)
  exact (preserves_onFile (hunlink.bind fun _ => hrename)).bind
    (fun _ => (isQuery_pure _).preserves _) h hc

/-- However it ends, the finishing of a site touches files in the directory of the site only. -/
theorem Site.contained_finish {readme : String} (hp : dir.IsPlain) (hslash : '/' ∉ readme.toList)
    (hD : ∀ q, Tree.Below dir.names q → D q) :
    Preserves (Contained program D t) (finish dir readme) := by
  apply preserves_finish_of (contained_promote hp hslash hD)
  intro rules name hname
  obtain ⟨h0, hup⟩ := names_of_isPageName hname
  apply preserves_relinkPage_of
  intro h k f bytes hc hl hfile
  exact contained_writePage hc hl hfile (hD k (Tree.below_of_locate_child hp h0 hup hl)) bytes

theorem Rendering.contained_byProgram {name : String} {contentDir theme : Path}
    (hfiles : program.FilesIn dir) (hD : ∀ q, Tree.Below dir.names q → D q)
    (ha : Preserves (Contained program D t) answer) :
    Preserves (Contained program D t) (byProgram answer root name contentDir dir theme) := by
  apply preserves_byProgram_of
  · exact fun h command hc => hc.of_same rfl rfl
  · intro h command hcommand hc
    have hran := hfiles command root.names h.tree hcommand
    rw [← hc.program] at hran
    have hwithin := of_launch (P := Tree.FilesWithin (Tree.Below dir.names) h.tree) (.refl _ _) hran
    exact hc.commit (hwithin.mono hD)
  · exact fun h time hc => hc.of_same rfl rfl
  · exact ha

/-! ## Building for a preview -/

namespace Preview

variable {p : Preview} {h : Host} {settings : Settings} {number? : Option Int} {a b : String}

/-- The place is at or below the place of one of the two sites. -/
def InSites (p : Preview) (q : Loc) : Prop :=
  Tree.Below p.stagingDir.names q ∨ Tree.Below p.outputDir.names q

/-- However it ends, a build touches files of the two sites only, if what it does for the program
does. -/
theorem contained_build (hp : p.Placed dir a b)
    (hslash : ∀ readme, p.settings.text Settings.readme = .ok readme → '/' ∉ readme.toList)
    (hfiles : program.FilesIn p.stagingDir)
    (ha : Preserves (Contained program p.InSites t) answer) :
    Preserves (Contained program p.InSites t) (p.build answer) := by
  have hstaging : ∀ q, Tree.Below p.stagingDir.names q → p.InSites q := fun q => .inl
  have hout : ∀ q, Tree.Below p.outputDir.names q → p.InSites q := fun q => .inr
  apply preserves_build_of
  · apply preserves_prepare_of
    · exact contained_removeTree hp.plain_staging hp.staging_ne_nil hstaging
    · exact contained_makeDirectories hp.plain_staging.parent
  · apply Site.preserves_build_of
    · exact fun name contentDir theme => Rendering.contained_byProgram hfiles hstaging ha
    · exact fun readme hreadme =>
        Site.contained_finish hp.plain_staging (hslash readme hreadme) hstaging
  · apply preserves_activate_of
    · exact contained_removeTree hp.plain_output hp.output_ne_nil hout
    · exact contained_replace hp.plain_staging hp.plain_output hstaging hout

/-- So do requests for rebuilds, however deep they nest. -/
theorem contained_rebuildUpTo (hp : p.Placed dir a b)
    (hslash : ∀ readme, p.settings.text Settings.readme = .ok readme → '/' ∉ readme.toList)
    (hfiles : program.FilesIn p.stagingDir) (depth : Nat) :
    Preserves (Contained program p.InSites t) (p.rebuildUpTo depth) := by
  apply preserves_rebuildUpTo_of
  · exact fun h h' hprogram htree hc => hc.of_same hprogram htree
  · exact fun answer ha => contained_build hp hslash hfiles ha

/-! ## Events -/

/-- Both sites are where the same root is. -/
theorem Placed.root_staging (hp : p.Placed dir a b) : p.stagingDir.root = p.outputDir.root := by
  rw [hp.staging, hp.output]
  rfl

/-- An event for a file of the two sites is ignored if it is written with their root. -/
theorem isIgnored_of_inSites (hp : p.Placed dir a b) (hq : p.InSites q) :
    p.isIgnored ⟨p.outputDir.root, q⟩ = true := by
  rw [isIgnored, Bool.or_eq_true, Bool.or_eq_true, decide_eq_true_eq, decide_eq_true_eq]
  rcases hq with hq | hq
  · exact .inl (.inr ⟨hp.root_staging.symm, hq⟩)
  · exact .inl (.inl ⟨rfl, hq⟩)

/-- An event that is written with another root is not ignored. -/
theorem isIgnored_of_root_ne (hp : p.Placed dir a b) {root : Path.Root}
    (hroot : root ≠ p.outputDir.root) (hmodules : "node_modules" ∉ q) :
    p.isIgnored ⟨root, q⟩ = false := by
  simp [isIgnored, Path.IsBelow, hp.root_staging, hroot, hmodules]

/-- **A build sets off no other one.**  Take any file that was made, changed or removed by a build,
whether the build returned or failed, whatever failures wait, and whatever the program asks for
while it runs; or any file at the place of the next site.  An event for it comes to nothing on every
host, if its path is written with the root of the directory of the site.  Written with another root
it is an event like any other, unless it leads through the installed programs. -/
theorem build_sets_off_nothing (hp : ofSettings root settings number? = .ok p)
    (habs : root.isAbsolute = true) (hproper : root.IsProper) (hup : ".." ∉ p.outputDir.names)
    (hslash : ∀ readme, settings.text Settings.readme = .ok readme → '/' ∉ readme.toList)
    (hfiles : h.program.FilesIn p.stagingDir) (depth : Nat)
    (hq : ((p.build (p.rebuildUpTo depth)).on h).2.tree.file? q ≠ h.tree.file? q ∨
      p.stagingDir.names <+: q) :
    (∀ isDirectory g, (p.onChange ⟨p.outputDir.root, q⟩ isDirectory).on g = (.ok (), g)) ∧
      ∀ r, r ≠ p.outputDir.root → "node_modules" ∉ q → p.onChange ⟨r, q⟩ false = p.rebuild := by
  have hplaced := placed_of_ofSettings hp habs hproper hup
  obtain ⟨rfl, rfl, -⟩ := ofSettings_eq_ok hp
  have hrequests := contained_rebuildUpTo (t := h.tree) hplaced hslash hfiles depth
  have hbuilt := contained_build hplaced hslash hfiles hrequests h ⟨rfl, .refl _ _⟩
  have hin : p.InSites q := by
    rcases hq with hchanged | hbelow
    · by_contra hout
      exact hchanged (hbuilt.files.file? q hout)
    · exact .inl hbelow
  refine ⟨fun isDirectory g => ?_, fun r hr hmodules => ?_⟩
  · rw [onChange, isIgnored_of_inSites hplaced hin, Bool.or_true, if_pos rfl]
    rfl
  · rw [onChange, isIgnored_of_root_ne hplaced hr hmodules]
    rfl

/-! ## A project -/

theorem filesIn_slides {dir : Path} (hp : dir.IsPlain) :
    (Program.writer slides 0).FilesIn dir := by
  refine Program.filesIn_writer hp (fun e he => ⟨confined_slides e he, ?_⟩) 0
  revert e
  unfold slides
  decide +kernel

/-- A build fails after the finished site was removed.  The events for what was lost come to
nothing. -/
theorem build_sets_off_nothing_replacing :
    ((newPreview.build newPreview.rebuild).on hostReplacing).1.isOk = false ∧
    ((newPreview.build newPreview.rebuild).on hostReplacing).2.tree.file?
      ["project", "new", "site", "old.html"] ≠
        hostReplacing.tree.file? ["project", "new", "site", "old.html"] ∧
    ∀ g, (newPreview.onChange ⟨.top, ["project", "new", "site", "old.html"]⟩ false).on g =
      (.ok (), g) := by
  have hchanged : ((newPreview.build newPreview.rebuild).on hostReplacing).2.tree.file?
      ["project", "new", "site", "old.html"] ≠
        hostReplacing.tree.file? ["project", "new", "site", "old.html"] := by
    decide +kernel
  have hnothing := build_sets_off_nothing (h := hostReplacing) ofSettings_newSettings rfl
    isProper_project onward_newPreview slash_newSettings (filesIn_slides (by decide)) 2
    (.inl hchanged)
  exact ⟨by decide +kernel, hchanged, fun g => hnothing.1 false g⟩

/-- The settings of a project whose site is at a path with two slashes in front. -/
def doubledSettings : Settings := Settings.default.set Settings.outputDir (.str "//project/_static")

/-- The preview of that project. -/
def doubledPreview : Preview :=
  { newPreview with
    settings := doubledSettings
    outputDir := ⟨.doubled, ["project", "_static"]⟩
    stagingDir := ⟨.doubled, ["project", "_static.staging"]⟩ }

/-- The project without a site, one second after the beginning of time. -/
def hostBare : Host := { hostWith "/project/bin" bareProject with clock := 1000 }

/-- Where the site is at a path with two slashes in front, the event for the index that a build has
made sets off a rebuild. -/
theorem build_sets_off_rebuild : ofSettings project doubledSettings none = .ok doubledPreview ∧
    ".." ∉ doubledPreview.outputDir.names ∧
    (∀ readme, doubledSettings.text Settings.readme = .ok readme → '/' ∉ readme.toList) ∧
    hostBare.program.FilesIn doubledPreview.stagingDir ∧
    ∃ h', (doubledPreview.build doubledPreview.rebuild).on hostBare = (.ok (), h') ∧
      h'.tree.file? ["project", "_static", "index.html"] ≠
        hostBare.tree.file? ["project", "_static", "index.html"] ∧
      .printed announcement ∈ h'.news ((doubledPreview.onChange
        ⟨.top, ["project", "_static", "index.html"]⟩ false).on h').2 := by
  have hfacts : ∀ result, (doubledPreview.build doubledPreview.rebuild).on hostBare = result →
      result.1.isOk = true ∧
      result.2.tree.file? ["project", "_static", "index.html"] ≠
        hostBare.tree.file? ["project", "_static", "index.html"] ∧
      .printed announcement ∈ result.2.news ((doubledPreview.onChange
        ⟨.top, ["project", "_static", "index.html"]⟩ false).on result.2).2 := by
    rintro result rfl
    decide +kernel
  obtain ⟨hok, hchanged, hannounced⟩ := hfacts _ rfl
  obtain ⟨x, h', hrun⟩ := exists_of_isOk hok
  rw [hrun] at hchanged hannounced
  refine ⟨rfl, by decide, fun readme hreadme => ?_, filesIn_slides (by decide), h', hrun, hchanged,
    hannounced⟩
  cases hreadme
  decide

end Preview

end DeckPress
