import DeckPress.Proofs.Preview.Changes
import DeckPress.Proofs.Preview.Events

/-!
# Where no source changes, nothing is done

Once a rebuild has succeeded and remembers a signature, requests come to nothing as long as no
source is edited, whatever else becomes of the files, the clock and the program in the meantime.

* `SourcesOutside` — no source lies at the place of a site; `not_edited_of_filesWithin` — so that
  a build edits none.
* `UpToDate` — the invariant: the signature of the sources, if it can be taken, is the one that is
  remembered; `UpToDate.on_request`, `UpToDate.world` — its steps.
* `Undisturbed` — the hosts that runs come to in which no source is edited.
* `unchanged_sources_cause_no_work` — the result.
-/

namespace DeckPress.Preview

open Act Host

variable {p : Preview} {g g' h h' k : Host} {q root : Path} {settings : Settings}
  {number? : Option Int} {r : Except Failure Unit} {request : Request} {D : Loc → Prop}

/-! ## A build edits no source -/

/-- No source lies at the place of a site. -/
structure SourcesOutside (p : Preview) : Prop where
  onward_content : ".." ∉ p.contentDir.names
  onward_theme : ".." ∉ p.theme.names
  content_staging : Tree.Incomparable p.contentDir.names p.stagingDir.names
  content_output : Tree.Incomparable p.contentDir.names p.outputDir.names
  theme_staging : ¬ p.stagingDir.names <+: p.theme.names
  theme_output : ¬ p.outputDir.names <+: p.theme.names

theorem SourcesOutside.not_inSites (houtside : p.SourcesOutside) (hq : p.IsSource q) :
    ¬ p.InSites q.names := by
  rintro (hbelow | hbelow)
  · rcases hq with rfl | ⟨names, -, -, rfl⟩
    · exact houtside.theme_staging hbelow
    · exact houtside.content_staging.not_prefix_append names hbelow
  · rcases hq with rfl | ⟨names, -, -, rfl⟩
    · exact houtside.theme_output hbelow
    · exact houtside.content_output.not_prefix_append names hbelow

/-- The paths of the sources lead from the top to the places that their names spell. -/
theorem SourcesOutside.plain (houtside : p.SourcesOutside)
    (hp : ofSettings root settings number? = .ok p) (habs : root.isAbsolute = true)
    (hproper : root.IsProper) (hq : p.IsSource q) : q.IsPlain := by
  refine ⟨isAbsolute_of_isSource hp habs hq, isProper_of_isSource hp hproper hq, ?_⟩
  rcases hq with rfl | ⟨names, -, hnames, rfl⟩
  · exact houtside.onward_theme
  · intro hup
    rcases List.mem_append.mp hup with hup | hup
    · exact houtside.onward_content hup
    · exact Tree.up_not_mem hnames hup

/-- Where other files than the one at a path are touched, that one is seen as before. -/
theorem not_edited_of_filesWithin (hsound : h.Sound) (hsound' : h'.Sound) (hq : q.IsPlain)
    (hD : ¬ D q.names) (hfiles : Tree.FilesWithin D h.tree h'.tree) : ¬ p.Edited h h' q := by
  rintro ⟨-, hedited⟩
  refine hedited (fileAt?_congr hsound' hsound hq fun f => ?_)
  rw [← Tree.file?_eq_some, ← Tree.file?_eq_some, hfiles.file? _ hD]

/-! ## Being up to date -/

/-- The sources are as on a host on which they had the signature that is remembered. -/
structure UpToDate (p : Preview) (h : Host) : Prop where
  sound : h.Sound
  recorded : ∃ k s, k.Sound ∧ p.signature.on k = (.ok (some s), k) ∧
    h.progress.signature? = some s ∧ ∀ q, p.IsSource q → h.fileAt? q = k.fileAt? q

/-- The signature that can be taken is the one that is remembered. -/
theorem UpToDate.signature_eq (hup : p.UpToDate h) {signature? : Option Signature}
    (hs : (p.signature.on h).1 = .ok signature?) :
    signature?.isSome = true ∧ h.progress.signature? = signature? := by
  obtain ⟨k, s, hk, hs', hrecorded, hsame⟩ := hup.recorded
  have hs : p.signature.on h = (.ok signature?, h) := Prod.ext hs (isQuery_signature p h)
  rw [signature_congr hup.sound hk hsame hs hs']
  exact ⟨rfl, hrecorded⟩

/-- A request changes nothing on a host that is up to date. -/
theorem UpToDate.on_request (hup : p.UpToDate h) (hrun : (request.act p).on h = (r, h')) :
    h' = h := by
  rcases of_request hrun with ⟨-, rfl⟩ | hrun
  · rfl
  rcases of_rebuild hrun with ⟨-, rfl, -⟩ | ⟨rfl, -⟩ | ⟨signature?, -, -, hs, hchanged, -⟩
  · rfl
  · rfl
  · obtain ⟨hsome, hrecorded⟩ := hup.signature_eq hs
    exact absurd hrecorded (hchanged hsome)

/-- It comes to nothing, unless a path of the sources has become too long. -/
theorem UpToDate.on_request_eq_ok (hup : p.UpToDate h) (hlegible : p.Legible h)
    (hrun : (request.act p).on h = (r, h')) : r = .ok () := by
  obtain ⟨k, s, hk, hs, -, hsame⟩ := hup.recorded
  have hs' := signature_of_legible hup.sound hk hsame hs hlegible
  rcases of_request hrun with ⟨rfl, -⟩ | hrun
  · rfl
  rcases of_rebuild hrun with ⟨rfl, -⟩ | ⟨-, e, -, he⟩ | ⟨signature?, -, -, hs, hchanged, -⟩
  · rfl
  · rw [hs'] at he
    cases he
  · obtain ⟨hsome, hrecorded⟩ := hup.signature_eq hs
    exact absurd hrecorded (hchanged hsome)

/-- The host stays up to date when the world changes, but for the sources. -/
theorem UpToDate.world (hup : p.UpToDate h) (hkept : h'.progress = h.progress) (hsound' : h'.Sound)
    (hedits : ∀ q, ¬ p.Edited h h' q) : p.UpToDate h' := by
  obtain ⟨k, s, hk, hs, hrecorded, hsame⟩ := hup.recorded
  refine ⟨hsound', k, s, hk, hs, hkept ▸ hrecorded, fun q hq => ?_⟩
  rw [fileAt?_of_not_edited hq (hedits q), hsame q hq]

/-- After a rebuild that succeeded and remembers a signature the host is up to date. -/
theorem upToDate_of_rebuild (hp : ofSettings root settings number? = .ok p)
    (habs : root.isAbsolute = true) (hproper : root.IsProper) (hup : ".." ∉ p.outputDir.names)
    (houtside : p.SourcesOutside)
    (hslash : ∀ readme, settings.text Settings.readme = .ok readme → '/' ∉ readme.toList)
    (hsound : h.Sound) (hfiles : h.program.FilesIn p.stagingDir)
    (hrun : p.rebuild.on h = (r, h')) (hsucceeded : outcome h r h' = .succeeded)
    (hsome : h'.progress.signature?.isSome = true) : p.UpToDate h' := by
  have hplaced := placed_of_ofSettings hp habs hproper hup
  have hcontained : Contained h.program p.InSites h.tree h' := by
    obtain ⟨-, rfl, -⟩ := ofSettings_eq_ok hp
    have := contained_rebuildUpTo hplaced hslash hfiles 2 h ⟨rfl, .refl _ h.tree⟩
    rwa [← rebuild, hrun] at this
  rcases of_rebuild hrun with ⟨rfl, rfl, -⟩ | ⟨-, e, rfl, -⟩ |
    ⟨signature?, result, g, hs, -, -, hcourse, hc⟩
  · rw [outcome_self] at hsucceeded
    cases hsucceeded
  · cases hsucceeded
  rw [outcome_concluded hcourse hc] at hsucceeded
  cases result with
  | error e => cases hsucceeded
  | ok u =>
    cases hc
    obtain ⟨s, rfl⟩ := Option.isSome_iff_exists.mp hsome
    have hsound' := Sound.mk (hcontained.files.wellFormed hsound.wellFormed)
      (hsound.seesAll.of_faults hcourse.faults)
    refine ⟨hsound', h, s, hsound, Prod.ext hs (isQuery_signature p h), rfl, fun q hq => ?_⟩
    exact fileAt?_of_not_edited hq (not_edited_of_filesWithin hsound hsound'
      (houtside.plain hp habs hproper hq) (houtside.not_inSites hq) hcontained.files)

/-! ## Runs -/

/-- The hosts that are come to from `h` by requests, and by changes of the world between them in
which no source is edited.  The tree, the clock, the program and the failures that wait may change
in any other way. -/
inductive Undisturbed (p : Preview) (h : Host) : Host → Prop where
  | refl : Undisturbed p h h
  | world {g g' : Host} (hbefore : Undisturbed p h g) (hkept : g'.progress = g.progress)
      (hsound' : g'.Sound) (hedits : ∀ q, ¬ p.Edited g g' q) : Undisturbed p h g'
  | call {g g' : Host} {r : Except Failure Unit} (hbefore : Undisturbed p h g) (request : Request)
      (hrun : (request.act p).on g = (r, g')) : Undisturbed p h g'

theorem Undisturbed.upToDate (hrun : p.Undisturbed h g) (hup : p.UpToDate h) :
    p.UpToDate g ∧ g.progress = h.progress := by
  induction hrun with
  | refl => exact ⟨hup, rfl⟩
  | world _ hkept hsound' hedits ih => exact ⟨ih.1.world hkept hsound' hedits, hkept.trans ih.2⟩
  | call _ request hrun ih =>
    cases ih.1.on_request hrun
    exact ih

/-- **Where no source changes, nothing is done.**  After a rebuild that succeeded and remembers a
signature, and as long as no source is edited, every request leaves the host as it is: no program is
started, nothing is printed, no file is changed, and the preview has come as far as before.  The
request succeeds, unless a path at which sources are looked for has become too long. -/
theorem unchanged_sources_cause_no_work (hp : ofSettings root settings number? = .ok p)
    (habs : root.isAbsolute = true) (hproper : root.IsProper) (hup : ".." ∉ p.outputDir.names)
    (houtside : p.SourcesOutside)
    (hslash : ∀ readme, settings.text Settings.readme = .ok readme → '/' ∉ readme.toList)
    (hsound : h.Sound) (hfiles : h.program.FilesIn p.stagingDir)
    (hrun : p.rebuild.on h = (r, h')) (hsucceeded : outcome h r h' = .succeeded)
    (hsome : h'.progress.signature?.isSome = true) (hundisturbed : p.Undisturbed h' g)
    (request : Request) :
    g.progress = h'.progress ∧ ((request.act p).on g).2 = g ∧
      (p.Legible g → (request.act p).on g = (.ok (), g)) := by
  have hstart := upToDate_of_rebuild hp habs hproper hup houtside hslash hsound hfiles hrun
    hsucceeded hsome
  obtain ⟨hcurrent, hprogress⟩ := hundisturbed.upToDate hstart
  have hkept : ((request.act p).on g).2 = g := hcurrent.on_request Prod.mk.eta.symm
  refine ⟨hprogress, hkept, fun hlegible => Prod.ext ?_ hkept⟩
  exact hcurrent.on_request_eq_ok hlegible Prod.mk.eta.symm

/-! ## A project -/

/-- A host on which a page of the finished site was edited, three seconds later. -/
def retouched (h : Host) : Host :=
  { h with
    clock := h.clock + 3000
    tree := h.tree.set ["project", "new", "site", "index.html"] (.file ⟨[], 4000, false⟩) }

theorem sourcesOutside_newPreview : newPreview.SourcesOutside :=
  ⟨by decide, by decide, by decide, by decide, by decide, by decide⟩

theorem not_edited_retouched (hsound : h.Sound) (hsound' : (retouched h).Sound) (q : Path) :
    ¬ newPreview.Edited h (retouched h) q := by
  rintro ⟨hq, hedited⟩
  have hsame : Tree.SameBut newPreview.InSites h.tree (retouched h).tree := by
    refine (Tree.sameBut_set (by decide)).mono fun k hk => ?_
    rw [hk]
    exact .inr ⟨["index.html"], rfl⟩
  exact not_edited_of_filesWithin hsound hsound'
    (sourcesOutside_newPreview.plain ofSettings_newSettings rfl isProper_project hq)
    (sourcesOutside_newPreview.not_inSites hq) (hsame.filesWithin fun _ => hsound'.wellFormed)
    ⟨hq, hedited⟩

/-- The site is built, a page of it is edited, and the news that the slides have changed comes to
nothing. -/
theorem unchanged_sources_cause_no_work_retouched : ∃ r h',
    newPreview.rebuild.on hostAuthored = (r, h') ∧ outcome hostAuthored r h' = .succeeded ∧
      newPreview.Undisturbed h' (retouched h') ∧
      newPreview.GetsThrough slidesPath false (retouched h') ∧
      (newPreview.onChange slidesPath false).on (retouched h') = (.ok (), retouched h') := by
  have hfacts : ∀ result, newPreview.rebuild.on hostAuthored = result →
      (result.2.tree.WellFormed ∧ result.2.SeesAll) ∧
      ((retouched result.2).tree.WellFormed ∧ (retouched result.2).SeesAll) ∧
      outcome hostAuthored result.1 result.2 = .succeeded ∧
      result.2.progress.signature?.isSome = true ∧
      newPreview.Legible (retouched result.2) ∧
      (retouched result.2).progress.isRebuilding = false ∧
      isTooSoon (retouched result.2).clock (retouched result.2).progress.rebuiltAt = false := by
    rintro result rfl
    decide +kernel
  cases hrun : newPreview.rebuild.on hostAuthored with
  | mk r h' =>
    obtain ⟨⟨hw, hsees⟩, ⟨hw', hsees'⟩, hsucceeded, hsome, hlegible, hidle, hdue⟩ := hfacts _ hrun
    have hundisturbed : newPreview.Undisturbed h' (retouched h') :=
      .world .refl rfl ⟨hw', hsees'⟩ (not_edited_retouched ⟨hw, hsees⟩ ⟨hw', hsees'⟩)
    have hnothing := unchanged_sources_cause_no_work ofSettings_newSettings rfl isProper_project
      onward_newPreview sourcesOutside_newPreview slash_newSettings sound_hostAuthored
      (filesIn_slides (by decide)) hrun hsucceeded hsome hundisturbed (.change slidesPath false)
    exact ⟨r, h', rfl, hsucceeded, hundisturbed, ⟨rfl, by decide, hidle, hdue⟩,
      hnothing.2.2 hlegible⟩

end DeckPress.Preview
