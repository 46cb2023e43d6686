import DeckPress.Proofs.Preview.Escapes
import DeckPress.Proofs.Preview.Filter

/-!
# The signature identifies the sources

Two trees give the same signature exactly if they hold the same files below the directory of the
slides, and the same style sheet, as far as times and sizes tell.  What is seen at the paths of the
sources is traced back to what the trees hold at the places that the paths spell.

* `Host.spot` — the place that the names of a path spell; `fileAt?_of_onward` — what is seen at a
  path that never goes back up is what lies there.
* `fits_of_legible` — no path of a file among the sources is too long where the signature can be
  taken; so `stampAt?_of_legible` reads the stamp of a source off the tree.
* `SameSources` and `NoSources` — what trees have in common, or lack; by `forall_isSource_iff` both
  are said of all sources at once.
* `signature_identifies_sources` — the result; `signature_too_long` — a style sheet with a name that
  no file can have keeps the signature from being taken.
-/

namespace DeckPress

open Act Host

/-! ## Places -/

/-- When the file at a place was last changed, and how large it is. -/
def Tree.timeAndSize? (t : Tree) (k : Loc) : Option (Int × Nat) :=
  match t.get? k with
  | some (.file f) => some (f.modified, f.bytes.length)
  | _ => none

theorem Tree.timeAndSize?_eq_some {t : Tree} {k : Loc} {x : Int × Nat} :
    t.timeAndSize? k = some x ↔
      ∃ f, t.get? k = some (.file f) ∧ x = (f.modified, f.bytes.length) := by
  rw [timeAndSize?]
  split
  · rename_i f hf
    simp [hf, eq_comm]
  · rename_i hother
    simp only [reduceCtorEq, false_iff, not_exists, not_and]
    exact fun f hf => absurd hf (hother f)

theorem Tree.timeAndSize?_of_none {t : Tree} {k : Loc} (hk : t.get? k = none) :
    t.timeAndSize? k = none := by
  rw [timeAndSize?, hk]

/-- Only names of entries lead to files. -/
theorem Tree.timeAndSize?_of_not_entry {t : Tree} {k : Loc} {names : List String}
    (hw : t.WellFormed) (hnot : ¬ ∀ name ∈ names, IsEntryName name) :
    t.timeAndSize? (k ++ names) = none := by
  refine timeAndSize?_of_none (Option.not_isSome_iff_eq_none.mp fun hsome => ?_)
  exact hnot (hw.entryName_of_append hsome)

namespace Host

variable {h : Host} {q : Path} {names : List String} {f : File}

/-- The place that the names of a path spell. -/
def spot (h : Host) (q : Path) : Loc := (if q.isAbsolute then [] else h.cwd.names) ++ q.names

theorem spot_below (h : Host) (q : Path) (names : List String) :
    h.spot (q.below names) = h.spot q ++ names := by
  rw [spot, spot, List.append_assoc]
  rfl

/-- A path to something that is there has no character that names cannot have. -/
theorem hasNul_of_isSome (hw : h.tree.WellFormed) (hsome : (h.tree.get? (h.spot q)).isSome) :
    q.hasNul = false := by
  rw [Path.hasNul, List.any_eq_false]
  intro name hname
  simpa using (hw.entryName_of_append hsome name hname).2.2.2.2

/-- At a path that never goes back up the file is seen that lies at its spot. -/
theorem fileAt?_of_onward (hsound : h.Sound) (hup : ".." ∉ q.names) :
    h.fileAt? q = some f ↔ q.Fits ∧ h.tree.get? (h.spot q) = some (.file f) := by
  have hroot := hsound.wellFormed.toRooted
  rw [fileAt?_eq_some hsound]
  constructor
  · rintro ⟨-, k, hl, hk⟩
    obtain ⟨hsize, hwalk⟩ := Tree.locate_eq_walk.mp hl
    obtain rfl : k = h.spot q := Tree.eq_of_walk hup hwalk
    exact ⟨⟨hsize, Tree.size_le_of_walk hwalk⟩, hk⟩
  · rintro ⟨hfits, hk⟩
    have hsome : (h.tree.get? (h.spot q)).isSome := by rw [hk]; rfl
    exact ⟨hasNul_of_isSome hsound.wellFormed hsome, h.spot q,
      (Tree.locate_of_isSome hroot hup hsome).1 hfits, hk⟩

/-- What is there can be looked at only if its path is not too long. -/
theorem fits_of_look (hsound : h.Sound) (hup : ".." ∉ q.names)
    (hsome : (h.tree.get? (h.spot q)).isSome) (hlook : (h.look q).isOk = true) : q.Fits := by
  by_contra hlong
  have hl : h.locate q = .error .nameTooLong :=
    (Tree.locate_of_isSome hsound.wellFormed.toRooted hup hsome).2 hlong
  rw [Act.look_of_free (hsound.seesAll.free q) (hasNul_of_isSome hsound.wellFormed hsome),
    hl] at hlook
  cases hlook

end Host

namespace Preview

variable {p : Preview} {g h : Host} {q root rest : Path} {settings : Settings}
  {number? : Option Int} {s? s'? : Option Signature} {f : File}

/-! ## Sources that can be looked at -/

/-- The paths of the sources never go back up. -/
structure Onward (p : Preview) : Prop where
  contentDir : ".." ∉ p.contentDir.names
  theme : ".." ∉ p.theme.names

/-- The sources lie in the project. -/
structure Inside (p : Preview) : Prop where
  contentDir : p.contentDir.IsBelow p.root
  theme : p.theme.IsBelow p.root

theorem Onward.of_isSource (hup : p.Onward) (hq : p.IsSource q) : ".." ∉ q.names := by
  rcases hq with rfl | ⟨names, -, hnames, rfl⟩
  · exact hup.theme
  · exact fun hmem => (List.mem_append.mp hmem).elim hup.contentDir (Tree.up_not_mem hnames)

theorem Inside.of_isSource (hin : p.Inside) (hq : p.IsSource q) : q.IsBelow p.root := by
  rcases hq with rfl | ⟨names, -, -, rfl⟩
  · exact hin.theme
  · exact (Path.isBelow_below _ _).trans hin.contentDir

theorem Inside.exists_rest (hin : p.Inside) (hq : p.IsSource q) :
    ∃ rest, q.relativeTo? p.root = some rest :=
  Option.isSome_iff_exists.mp ((Path.isSome_relativeTo? q p.root).mpr (hin.of_isSource hq))

/-- A file among the sources is looked for. -/
theorem mem_places_of_file (hsound : h.Sound) (hup : p.Onward) (hlegible : p.Legible h)
    (hq : p.IsSource q) (hsome : (h.tree.get? (h.spot q)).isSome) : q ∈ p.places h := by
  rw [places, List.mem_append, List.mem_singleton]
  rcases hq with rfl | ⟨names, hne, hnames, rfl⟩
  · exact .inr rfl
  · rw [spot_below] at hsome
    have hroot := hsound.wellFormed.toRooted
    have hdir : (h.tree.get? (h.spot p.contentDir)).isSome := by
      rw [hroot.directory_of_append hne hsome]
      rfl
    have hfits := fits_of_look hsound hup.contentDir hdir (hlegible _ List.mem_cons_self)
    have hl : h.locate p.contentDir = .ok (h.spot p.contentDir) :=
      (Tree.locate_of_isSome hroot hup.contentDir hdir).1 hfits
    exact .inl (mem_below.mpr ⟨_, hl, names, hne, hsome, rfl⟩)

theorem fits_of_legible (hsound : h.Sound) (hup : p.Onward) (hlegible : p.Legible h)
    (hq : p.IsSource q) (hsome : (h.tree.get? (h.spot q)).isSome) : q.Fits :=
  fits_of_look hsound (hup.of_isSource hq) hsome
    (hlegible q (List.mem_cons_of_mem _ (mem_places_of_file hsound hup hlegible hq hsome)))

/-- Where the signature can be taken, a source has the stamp that the tree gives it. -/
theorem stampAt?_of_legible (hsound : h.Sound) (hup : p.Onward) (hlegible : p.Legible h)
    (hq : p.IsSource q) (hrest : q.relativeTo? p.root = some rest) : h.stampAt? p.root q =
      (h.tree.timeAndSize? (h.spot q)).map fun x => ⟨rest.toString, x.1, x.2⟩ := by
  ext s
  simp only [stampAt?_eq_some, Option.map_eq_some_iff, Tree.timeAndSize?_eq_some,
    fileAt?_of_onward hsound (hup.of_isSource hq)]
  constructor
  · rintro ⟨f, rest', ⟨-, hf⟩, hrest', rfl⟩
    rw [hrest] at hrest'
    cases hrest'
    exact ⟨_, ⟨f, hf, rfl⟩, rfl⟩
  · rintro ⟨_, ⟨f, hf, rfl⟩, rfl⟩
    exact ⟨f, rest, ⟨fits_of_legible hsound hup hlegible hq (by rw [hf]; rfl), hf⟩, hrest, rfl⟩

/-- A source of the project has a stamp if there is a file at its place. -/
theorem stampAt?_eq_none_iff (hsound : h.Sound) (hup : p.Onward) (hin : p.Inside)
    (hlegible : p.Legible h) (hq : p.IsSource q) :
    h.stampAt? p.root q = none ↔ h.tree.timeAndSize? (h.spot q) = none := by
  obtain ⟨rest, hrest⟩ := hin.exists_rest hq
  rw [stampAt?_of_legible hsound hup hlegible hq hrest, Option.map_eq_none_iff]

/-- A source of the project has the same stamp in two trees if the files there have the same time
and size. -/
theorem stampAt?_eq_iff (hg : g.Sound) (hh : h.Sound) (hup : p.Onward) (hin : p.Inside)
    (hlg : p.Legible g) (hlh : p.Legible h) (hq : p.IsSource q) :
    g.stampAt? p.root q = h.stampAt? p.root q ↔
      g.tree.timeAndSize? (g.spot q) = h.tree.timeAndSize? (h.spot q) := by
  obtain ⟨rest, hrest⟩ := hin.exists_rest hq
  rw [stampAt?_of_legible hg hup hlg hq hrest, stampAt?_of_legible hh hup hlh hq hrest]
  refine (Option.map_injective fun x y hxy => ?_).eq_iff
  simp only [SourceStamp.mk.injEq, true_and] at hxy
  exact Prod.ext hxy.1 hxy.2

/-! ## What trees have in common -/

/-- Both trees hold the same files below the directory of the slides, and the same style sheet, as
far as times and sizes tell. -/
structure SameSources (p : Preview) (g h : Host) : Prop where
  slides : ∀ names, names ≠ [] → g.tree.timeAndSize? (g.spot p.contentDir ++ names) =
    h.tree.timeAndSize? (h.spot p.contentDir ++ names)
  theme : g.tree.timeAndSize? (g.spot p.theme) = h.tree.timeAndSize? (h.spot p.theme)

/-- There is no file below the directory of the slides, and no style sheet. -/
structure NoSources (p : Preview) (h : Host) : Prop where
  slides : ∀ names, names ≠ [] → h.tree.timeAndSize? (h.spot p.contentDir ++ names) = none
  theme : h.tree.timeAndSize? (h.spot p.theme) = none

/-- To speak of every source is to speak of the style sheet and of all that lies below the directory
of the slides, where names that no entry has need no care if what is said holds for them anyway. -/
theorem forall_isSource_iff {P : Path → Prop}
    (hother : ∀ names, ¬ (∀ name ∈ names, Tree.IsEntryName name) →
      P (p.contentDir.below names)) :
    (∀ q, p.IsSource q → P q) ↔
      (∀ names, names ≠ [] → P (p.contentDir.below names)) ∧ P p.theme := by
  constructor
  · intro hall
    refine ⟨fun names hne => ?_, hall _ (.inl rfl)⟩
    by_cases hnames : ∀ name ∈ names, Tree.IsEntryName name
    · exact hall _ (.inr ⟨names, hne, hnames, rfl⟩)
    · exact hother names hnames
  · rintro ⟨hslides, htheme⟩ q (rfl | ⟨names, hne, -, rfl⟩)
    · exact htheme
    · exact hslides names hne

theorem sameSources_iff_forall (hg : g.Sound) (hh : h.Sound) : p.SameSources g h ↔
    ∀ q, p.IsSource q → g.tree.timeAndSize? (g.spot q) = h.tree.timeAndSize? (h.spot q) := by
  rw [forall_isSource_iff fun names hnot => ?_]
  · simp only [spot_below]
    exact ⟨fun hsame => ⟨hsame.slides, hsame.theme⟩, fun hall => ⟨hall.1, hall.2⟩⟩
  · rw [spot_below, spot_below, Tree.timeAndSize?_of_not_entry hg.wellFormed hnot,
      Tree.timeAndSize?_of_not_entry hh.wellFormed hnot]

theorem noSources_iff_forall (hsound : h.Sound) :
    p.NoSources h ↔ ∀ q, p.IsSource q → h.tree.timeAndSize? (h.spot q) = none := by
  rw [forall_isSource_iff fun names hnot => ?_]
  · simp only [spot_below]
    exact ⟨fun hnone => ⟨hnone.slides, hnone.theme⟩, fun hall => ⟨hall.1, hall.2⟩⟩
  · rw [spot_below, Tree.timeAndSize?_of_not_entry hsound.wellFormed hnot]

/-- The sources are the same exactly if they have the same stamps. -/
theorem sameSources_iff (hg : g.Sound) (hh : h.Sound) (hup : p.Onward) (hin : p.Inside)
    (hlg : p.Legible g) (hlh : p.Legible h) : p.SameSources g h ↔
      ∀ q, p.IsSource q → g.stampAt? p.root q = h.stampAt? p.root q := by
  rw [sameSources_iff_forall hg hh]
  exact forall₂_congr fun q hq => (stampAt?_eq_iff hg hh hup hin hlg hlh hq).symm

/-- There are no sources exactly if there are no stamps. -/
theorem noSources_iff (hsound : h.Sound) (hup : p.Onward) (hin : p.Inside)
    (hlegible : p.Legible h) : p.NoSources h ↔ p.stamps h = [] := by
  have hempty : p.stamps h = [] ↔ ∀ q, p.IsSource q → h.stampAt? p.root q = none := by
    simp only [List.eq_nil_iff_forall_not_mem, mem_stamps hsound, not_exists, not_and,
      Option.eq_none_iff_forall_ne_some]
    exact forall_comm.trans (forall_congr' fun q => forall_comm)
  rw [hempty, noSources_iff_forall hsound]
  exact forall₂_congr fun q hq => (stampAt?_eq_none_iff hsound hup hin hlegible hq).symm

/-! ## The whole -/

/-- What keeps the signature of sources in the project from being taken is a path that is too
long. -/
theorem signature_of_not_legible (hsound : h.Sound) (hin : p.Inside)
    (hlong : ¬ p.Legible h) : ∃ q ∈ p.contentDir :: p.places h, ¬ q.Fits ∧
      p.signature.on h = (.error (.cause (Errno.nameTooLong.on q)), h) := by
  cases hrun : p.signature.on h with
  | mk r h' =>
    cases (isQuery_signature p).eq hrun
    cases r with
    | ok s? => exact absurd ((signature_eq_ok hsound).mp hrun).2.1 hlong
    | error e =>
      cases (raises_unsigned p h h rfl).2 e (by rw [hrun]) with
      | unseen q c hq hunseen =>
        cases hunseen with
        | waiting hwaits => cases (hsound.seesAll.free q).symm.trans hwaits
        | tooLong htoo => exact ⟨q, hq, fun hfits => Tree.locate_ne_tooLong hfits htoo, rfl⟩
      | outside q f hq hlook hout =>
        refine absurd ?_ hout
        rw [places, List.mem_append, List.mem_singleton] at hq
        rcases hq with hq | rfl
        · obtain ⟨k, -, names, hne, hsome, rfl⟩ := mem_below.mp hq
          exact (Path.isBelow_below _ _).trans hin.contentDir
        · exact hin.theme

/-- **The signature identifies the sources**, if they lie in the project.  It is nothing just if
there are no sources, and two trees give the same one exactly if they hold the same sources; nothing
else makes a difference.  Only a path that is too long keeps it from being taken, whether or not
anything is there. -/
theorem signature_identifies_sources (hp : ofSettings root settings number? = .ok p)
    (hroot : root.IsProper) (hup : p.Onward) (hin : p.Inside) :
    (∀ h : Host, h.Sound → p.Legible h → ∃ s?, p.signature.on h = (.ok s?, h) ∧
      (s? = none ↔ p.NoSources h)) ∧
    (∀ g h : Host, g.Sound → h.Sound → ∀ s? s'?, p.signature.on g = (.ok s?, g) →
      p.signature.on h = (.ok s'?, h) → (s? = s'? ↔ p.SameSources g h)) ∧
    ∀ h : Host, h.Sound → ¬ p.Legible h → ∃ q ∈ p.contentDir :: p.places h, ¬ q.Fits ∧
      p.signature.on h = (.error (.cause (Errno.nameTooLong.on q)), h) := by
  refine ⟨fun h hsound hlegible => ?_, fun g h hg hh s? s'? hs hs' => ?_, fun h hsound hlong =>
    signature_of_not_legible hsound hin hlong⟩
  · obtain ⟨s?, hs⟩ := exists_signature hsound hin.contentDir hin.theme hlegible
    refine ⟨s?, hs, ?_⟩
    obtain ⟨-, -, -, rfl⟩ := (signature_eq_ok hsound).mp hs
    rw [noSources_iff hsound hup hin hlegible, signatureOf]
    cases p.stamps h <;> simp
  · have hlg := ((signature_eq_ok hg).mp hs).2.1
    have hlh := ((signature_eq_ok hh).mp hs').2.1
    rw [sameSources_iff hg hh hup hin hlg hlh]
    exact signature_eq_iff hg hh (fun q => isProper_of_isSource hp hroot) hs hs'

/-- Slides that were written anew are other sources. -/
theorem signature_identifies_sources_revised :
    ofSettings project newSettings none = .ok newPreview ∧ project.IsProper ∧ newPreview.Onward ∧
    newPreview.Inside ∧ hostAuthored.Sound ∧ hostRevised.Sound ∧ newPreview.Legible hostAuthored ∧
    newPreview.Legible hostRevised ∧ ∃ s? s'?,
      newPreview.signature.on hostAuthored = (.ok s?, hostAuthored) ∧
      newPreview.signature.on hostRevised = (.ok s'?, hostRevised) ∧ s? ≠ none ∧
      ¬ newPreview.NoSources hostAuthored ∧ s? ≠ s'? ∧
      ¬ newPreview.SameSources hostAuthored hostRevised := by
  have hup : newPreview.Onward := ⟨by decide, by decide⟩
  have hin : newPreview.Inside := ⟨by decide, by decide⟩
  have hlegible : newPreview.Legible hostAuthored := by decide +kernel
  have hlegible' : newPreview.Legible hostRevised := by decide +kernel
  obtain ⟨hnone, hsame, -⟩ :=
    signature_identifies_sources ofSettings_newSettings isProper_project hup hin
  obtain ⟨s?, hs, hempty⟩ := hnone hostAuthored sound_hostAuthored hlegible
  obtain ⟨s'?, hs', -⟩ := hnone hostRevised sound_hostRevised hlegible'
  have hiff := hsame hostAuthored hostRevised sound_hostAuthored sound_hostRevised s? s'? hs hs'
  have hthere : hostAuthored.tree.timeAndSize? slidesPlace = some (0, 0) := by decide +kernel
  have hanew : hostRevised.tree.timeAndSize? slidesPlace = some (2000, 0) := by decide +kernel
  have hspot : hostAuthored.spot newPreview.contentDir ++ ["a.md"] = slidesPlace := rfl
  have hspot' : hostRevised.spot newPreview.contentDir ++ ["a.md"] = slidesPlace := rfl
  have hsome : ¬ newPreview.NoSources hostAuthored := fun hno => by
    have hgone := hno.slides ["a.md"] (by decide)
    rw [hspot, hthere] at hgone
    cases hgone
  have hother : ¬ newPreview.SameSources hostAuthored hostRevised := fun hsame => by
    have heq := hsame.slides ["a.md"] (by decide)
    rw [hspot, hspot', hthere, hanew] at heq
    cases heq
  exact ⟨rfl, isProper_project, hup, hin, sound_hostAuthored, sound_hostRevised, hlegible,
    hlegible', s?, s'?, hs, hs', fun he => hsome (hempty.mp he), hsome,
    fun he => hother (hiff.mp he), hother⟩

/-- The preview of a project with a style sheet that no file can be. -/
def overlongPreview : Preview :=
  { newPreview with
    settings := newSettings.set Settings.theme (.str Site.overlong)
    theme := project.child Site.overlong }

theorem size_overlong : Tree.nameLimit < Site.overlong.utf8ByteSize := by decide +kernel

theorem onward_overlongPreview : overlongPreview.Onward := by
  refine ⟨by decide, fun hmem => ?_⟩
  have hmem : ".." ∈ ["project", Site.overlong] := hmem
  rw [List.mem_cons, List.mem_singleton] at hmem
  exact hmem.elim (by decide) (Ne.symm Site.isEntryName_overlong.2.2.1)

/-- The project holds neither slides nor a file with that name. -/
theorem noSources_overlongPreview : overlongPreview.NoSources (hostWith "" usedProject) := by
  have hnodir : usedProject.get? ["project", "markdown", "workshop"] = none := by decide +kernel
  have hnames : usedProject.names ["project"] = ["bin", "new"] := by decide +kernel
  have hshort : ∀ name ∈ ["bin", "new"], name.utf8ByteSize ≤ Tree.nameLimit := by decide
  refine ⟨fun names hne => Tree.timeAndSize?_of_none ?_, Tree.timeAndSize?_of_none ?_⟩
  · exact wellFormed_usedProject.toRooted.none_below (k := ["project", "markdown", "workshop"])
      (by simp [hnodir]) hne
  · refine Option.not_isSome_iff_eq_none.mp fun hsome => ?_
    have hmem : Site.overlong ∈ usedProject.names ["project"] := Tree.mem_names.mpr hsome
    exact absurd (hshort _ (hnames ▸ hmem)) (Nat.not_le.mpr size_overlong)

theorem ofSettings_overlongPreview :
    ofSettings project overlongPreview.settings none = .ok overlongPreview := by
  have hname := Site.isEntryName_overlong
  show Except.ok { overlongPreview with theme := project / Site.overlong } = _
  rw [Path.div_name project ⟨hname.1, hname.2.1, hname.2.2.2.1⟩]
  rfl

theorem look_overlong : (hostWith "" usedProject).look (project.child Site.overlong) =
    .error (Errno.nameTooLong.on (project.child Site.overlong)) := by
  have hlong : ¬ (project.child Site.overlong).Fits := fun hfits =>
    absurd (hfits.2 Site.overlong (by simp)) (Nat.not_le.mpr size_overlong)
  have hd : Site.Directory (hostWith "" usedProject) project ["project"] :=
    ⟨rfl, by decide +kernel, by decide +kernel, wellFormed_usedProject.entryName ["project"]⟩
  exact hd.look_of_not_fits (by decide) Site.isEntryName_overlong hlong

/-- **A name that is too long keeps the signature from being taken.**  There are no sources at all
in the project, so that there should be no signature. -/
theorem signature_too_long :
    ofSettings project overlongPreview.settings none = .ok overlongPreview ∧
    overlongPreview.Onward ∧ overlongPreview.Inside ∧ (hostWith "" usedProject).Sound ∧
    overlongPreview.NoSources (hostWith "" usedProject) ∧
    overlongPreview.signature.on (hostWith "" usedProject) =
      (.error (.cause (Errno.nameTooLong.on (project.child Site.overlong))),
        hostWith "" usedProject) := by
  have hsound : (hostWith "" usedProject).Sound := ⟨wellFormed_usedProject, by decide⟩
  have hin : overlongPreview.Inside := ⟨by decide, rfl, List.prefix_append _ _⟩
  have hfits : overlongPreview.contentDir.Fits := ⟨by decide, by decide⟩
  have hplaces : overlongPreview.places (hostWith "" usedProject) =
      [project.child Site.overlong] := by
    have hl : (hostWith "" usedProject).locate overlongPreview.contentDir =
        .error .noEntry := by decide +kernel
    rw [places, below, hl]
    rfl
  have hillegible : ¬ overlongPreview.Legible (hostWith "" usedProject) := by
    intro hlegible
    have hok := hlegible (project.child Site.overlong) (by simp [hplaces])
    rw [look_overlong] at hok
    cases hok
  refine ⟨ofSettings_overlongPreview, onward_overlongPreview, hin, hsound,
    noSources_overlongPreview, ?_⟩
  obtain ⟨q, hq, hlong, hrun⟩ := signature_of_not_legible hsound hin hillegible
  rw [hplaces, List.mem_cons, List.mem_singleton] at hq
  rcases hq with rfl | rfl
  · exact absurd hfits hlong
  · exact hrun

end Preview

end DeckPress
