import DeckPress.Proofs.Host.Act
import DeckPress.Proofs.Links.NormalForm
import DeckPress.Site

/-!
# The stages that finish a site

Each stage is described by when it succeeds and what tree it then leaves.

* `promote_eq_ok` — the readme page takes the place of the index if both are there.
* `pages_eq_ok` — the pages are the files with the name of a page, in the order of their names.
* `relinkPage_eq_ok` — a page is replaced by what its text becomes under the rules.
-/

namespace DeckPress

/-- The path leads to a place that can be worked on. -/
structure Host.Reaches (h : Host) (p : Path) (k : Loc) : Prop where
  hasNul : p.hasNul = false
  locate : h.locate p = .ok k

namespace Site

open Act

variable {α : Type} {h h' : Host} {outputDir page : Path} {readme name : String} {k : Loc}

/-! ## The names of pages -/

theorem length_pageName (readme : String) : 5 ≤ (pageName readme).toList.length := by
  have h5 : ".html".toList.length = 5 := by decide
  rw [pageName, String.toList_append, List.length_append, h5]
  omega

theorem pageName_ne {s : String} (hs : s.toList.length < 5) (readme : String) :
    pageName readme ≠ s := by
  rintro rfl
  have := length_pageName readme
  omega

theorem isProperName_pageName (hslash : '/' ∉ readme.toList) :
    Path.IsProperName (pageName readme) := by
  refine ⟨pageName_ne (by decide) readme, pageName_ne (by decide) readme, ?_⟩
  rw [pageName, String.toList_append, List.mem_append, not_or]
  exact ⟨hslash, by decide⟩

theorem isProperName_indexName : Path.IsProperName indexName := by
  unfold Path.IsProperName
  decide

theorem isPageName_indexName : isPageName indexName = true := by decide

theorem ne_of_isPageName {s : String} (hs : isPageName s = false) (hn : isPageName name = true) :
    name ≠ s := by
  rintro rfl
  rw [hs] at hn
  cases hn

theorem names_of_isPageName (hn : isPageName name = true) : name ≠ "" ∧ name ≠ ".." :=
  ⟨ne_of_isPageName (by decide) hn, ne_of_isPageName (by decide) hn⟩

/-! ## Promotion -/

theorem on_onFile_eq_ok {p : Path} {expected : Cause → Bool} {a : Act α} {x : α} :
    (onFile p expected a).on h = (.ok x, h') ↔ a.on h = (.ok x, h') := by
  rw [onFile, on_bind_eq_ok]
  simp only [on_attempt]
  rcases a.on h with ⟨r, h₁⟩
  constructor
  · rintro ⟨_, _, he, h2⟩
    cases he
    cases r with
    | ok y => exact h2
    | error f =>
      cases f with
      | cause c =>
        simp only at h2
        split at h2
        · cases on_throw_eq_ok.mp h2
        · cases on_fail_eq_ok.mp h2
      | site e => cases on_throw_eq_ok.mp h2
  · rintro h2
    cases h2
    exact ⟨_, _, rfl, rfl⟩

/-- A place in the directory of a site. -/
theorem reaches_child_iff (h0 : name ≠ "") (hn : name ≠ "..") {q : Loc} :
    h.Reaches (outputDir.child name) q ↔ (outputDir.child name).hasNul = false ∧
      ∃ k, h.locate outputDir = .ok k ∧ h.tree.get? k = some .directory ∧
        (outputDir.child name).toString.utf8ByteSize ≤ Tree.pathLimit ∧
        name.utf8ByteSize ≤ Tree.nameLimit ∧ q = k ++ [name] := by
  constructor
  · rintro ⟨h1, h2⟩
    exact ⟨h1, (Tree.locate_child_eq_ok h0 hn).mp h2⟩
  · rintro ⟨h1, h2⟩
    exact ⟨h1, (Tree.locate_child_eq_ok h0 hn).mpr h2⟩

theorem hasEntryName_child (p : Path) (hn : name ≠ "..") :
    Tree.hasEntryName (p.child name) = true := by
  simp [Tree.hasEntryName, hn]

/-- The tree once the readme page is in the place of the index. -/
def promoted (t : Tree) (k : Loc) (readme : String) : Tree :=
  (t.erase (k ++ [indexName])).move (k ++ [pageName readme]) (k ++ [indexName])

theorem directory_erase {t : Tree} {q : Loc} {f : File} (hq : t.get? q = some (.file f)) (r : Loc)
    (hr : t.get? r = some .directory) : (t.erase q).get? r = some .directory := by
  have hq0 : q ≠ [] := Tree.ne_nil_of_not_directory (t := t) (by simp [hq])
  rw [Tree.get?_erase hq0, if_neg, hr]
  rintro rfl
  rw [hq] at hr
  cases hr

/-- Once the index is gone, the readme page can be moved to its place unless it was the index. -/
theorem rename_erased {t u : Tree} {cwd : Loc} {fr fi : File}
    (hr : t.locate cwd (outputDir.child (pageName readme)) = .ok (k ++ [pageName readme]))
    (hi : t.locate cwd (outputDir.child indexName) = .ok (k ++ [indexName]))
    (hfr : t.get? (k ++ [pageName readme]) = some (.file fr))
    (hfi : t.get? (k ++ [indexName]) = some (.file fi)) :
    (t.erase (k ++ [indexName])).rename cwd (outputDir.child (pageName readme))
      (outputDir.child indexName) = .ok u ↔
    pageName readme ≠ indexName ∧ u = promoted t k readme := by
  have hr' := Tree.locate_mono (directory_erase hfi) hr
  have hi' := Tree.locate_mono (directory_erase hfi) hi
  have hgone : (t.erase (k ++ [indexName])).get? (k ++ [indexName]) = none := by
    rw [Tree.get?_erase (by simp), if_pos rfl]
  have hnr := hasEntryName_child outputDir (pageName_ne (s := "..") (by decide) readme)
  have hni : Tree.hasEntryName (outputDir.child indexName) = true :=
    hasEntryName_child outputDir (by decide)
  have hren : (t.erase (k ++ [indexName])).rename cwd (outputDir.child (pageName readme))
      (outputDir.child indexName) = .ok u ↔
      (t.erase (k ++ [indexName])).renameAt (k ++ [pageName readme]) (k ++ [indexName]) =
        .ok u := by
    rw [Tree.rename_eq_ok]
    constructor
    · rintro ⟨s, d, h1, h2, -, -, h5⟩
      rw [hr'] at h1
      rw [hi'] at h2
      cases h1
      cases h2
      exact h5
    · exact fun h5 => ⟨_, _, hr', hi', hnr, hni, h5⟩
  rw [hren]
  by_cases hne : pageName readme = indexName
  · rw [hne, Tree.renameAt, hgone]
    simp
  · have hkeep : (t.erase (k ++ [indexName])).get? (k ++ [pageName readme]) = some (.file fr) := by
      rw [Tree.get?_erase (by simp), if_neg (by simpa using hne), hfr]
    rw [Tree.renameAt_of_none hkeep hgone (Tree.not_prefix_sibling hne)
      (Tree.not_prefix_sibling (Ne.symm hne)), promoted]
    simp [hne]

/-- The readme page takes the place of the index if both pages are there and are not the same. -/
theorem promote_eq_ok (hf : h.faults = []) (hslash : '/' ∉ readme.toList) {index : Path} :
    (promote outputDir readme).on h = (.ok index, h') ↔
      index = outputDir.child indexName ∧ pageName readme ≠ indexName ∧
        ∃ k fr fi, h.Reaches (outputDir.child (pageName readme)) (k ++ [pageName readme]) ∧
          h.Reaches (outputDir.child indexName) (k ++ [indexName]) ∧
          h.tree.get? (k ++ [pageName readme]) = some (.file fr) ∧
          h.tree.get? (k ++ [indexName]) = some (.file fi) ∧
          h' = (h.commit (h.tree.erase (k ++ [indexName]))).commit (promoted h.tree k readme) := by
  have hread : outputDir / pageName readme = outputDir.child (pageName readme) :=
    Path.div_name outputDir (isProperName_pageName hslash)
  have hindex : outputDir / indexName = outputDir.child indexName :=
    Path.div_name outputDir isProperName_indexName
  have hr0 := pageName_ne (s := "") (by decide) readme
  have hr2 := pageName_ne (s := "..") (by decide) readme
  have hi0 : indexName ≠ "" := by decide
  have hi2 : indexName ≠ ".." := by decide
  unfold promote
  simp only [on_bind_eq_ok, on_check_eq_ok, hread, hindex, on_onFile_eq_ok, on_pure_eq_ok]
  constructor
  · rintro ⟨_, _, h1, rfl, _, _, h2, rfl, _, _, ⟨_, _, h3, h4⟩, rfl, rfl⟩
    obtain ⟨rfl, hrn, kr, fr, hrl, hfr⟩ := (on_isFile_true_eq_ok hf).mp h1
    obtain ⟨rfl, hin, ki, fi, hil, hfi⟩ := (on_isFile_true_eq_ok hf).mp h2
    obtain ⟨-, k, hk, -, -, -, rfl⟩ := (reaches_child_iff hr0 hr2).mp ⟨hrn, hrl⟩
    obtain ⟨-, k', hk', -, -, -, rfl⟩ := (reaches_child_iff hi0 hi2).mp ⟨hin, hil⟩
    rw [hk] at hk'
    cases hk'
    obtain ⟨-, _, _, hil', -, rfl⟩ := (on_unlink_eq_ok hf).mp h3
    rw [hil] at hil'
    cases hil'
    obtain ⟨-, -, u, hu, rfl⟩ := (on_rename_eq_ok ((Host.faults_commit _ _).trans hf)).mp h4
    obtain ⟨hne, rfl⟩ := (rename_erased hrl hil hfr hfi).mp hu
    exact ⟨rfl, hne, k, fr, fi, ⟨hrn, hrl⟩, ⟨hin, hil⟩, hfr, hfi, rfl⟩
  · rintro ⟨rfl, hne, k, fr, fi, hr, hi, hfr, hfi, rfl⟩
    have h1 := (on_isFile_true_eq_ok hf).mpr ⟨rfl, hr.hasNul, _, _, hr.locate, hfr⟩
    have h2 := (on_isFile_true_eq_ok hf).mpr ⟨rfl, hi.hasNul, _, _, hi.locate, hfi⟩
    have h3 := (on_unlink_eq_ok hf (u := ())).mpr ⟨hi.hasNul, _, _, hi.locate, hfi, rfl⟩
    have hu := (rename_erased hr.locate hi.locate hfr hfi).mpr ⟨hne, rfl⟩
    have hf' := (Host.faults_commit h (h.tree.erase (k ++ [indexName]))).trans hf
    have h4 := (on_rename_eq_ok hf' (u := ())).mpr ⟨hr.hasNul, hi.hasNul, _, hu, rfl⟩
    exact ⟨true, h, h1, rfl, true, h, h2, rfl, (), _, ⟨(), _, h3, h4⟩, rfl, rfl⟩

/-! ## The list of pages -/

theorem pages_eq_ok (hf : h.faults = []) {ps : List Path} :
    (pages outputDir).on h = (.ok ps, h') ↔ h' = h ∧ outputDir.hasNul = false ∧
      ∃ k, h.locate outputDir = .ok k ∧ h.tree.get? k = some .directory ∧
        (∀ name ∈ (h.tree.names k).filter isPageName,
          (h.look (outputDir.child name)).isOk = true) ∧
        ps = (((h.tree.names k).filter isPageName).map outputDir.child).filter h.seesFile := by
  unfold pages
  simp only [on_bind_eq_ok, on_onFile_eq_ok, on_list_eq_ok hf]
  constructor
  · rintro ⟨names, _, ⟨h1, rfl, k, h2, h3, rfl⟩, h4⟩
    obtain ⟨rfl, h5, h6⟩ := on_keep_isFile_eq_ok.mp h4
    exact ⟨rfl, h1, k, h2, h3, fun n hn => h5 _ (List.mem_map_of_mem hn), h6⟩
  · rintro ⟨rfl, h1, k, h2, h3, h5, h6⟩
    refine ⟨_, _, ⟨h1, rfl, k, h2, h3, rfl⟩, on_keep_isFile_eq_ok.mpr ⟨rfl, ?_, h6⟩⟩
    intro p hp
    obtain ⟨n, hn, rfl⟩ := List.mem_map.mp hp
    exact h5 n hn

/-! ## Links -/

/-- The file that a page becomes when the rules are applied to its text. -/
def relinkedFile (rules : List Links.Rule) (f : File) (text : Text) (stamp : Int) : File :=
  ⟨Utf8.encode (Links.relink rules text), stamp, f.isExecutable⟩

/-- A page is replaced by what its text becomes under the rules. -/
theorem relinkPage_eq_ok (hf : h.faults = []) {rules : List Links.Rule} {b : Bool} :
    (relinkPage rules page).on h = (.ok b, h') ↔ ∃ k f text, h.Reaches page k ∧
      h.tree.get? k = some (.file f) ∧ Utf8.decode f.bytes = .ok text ∧
      b = decide (Links.relink rules text ≠ text) ∧
      h' = { h.commit (h.tree.set k (.file (relinkedFile rules f text h.stamp))) with
        stamp := h.stamp + 1 } := by
  unfold relinkPage
  simp only [on_bind_eq_ok, on_onFile_eq_ok, on_readPage_eq_ok hf, on_lift_eq_ok, on_pure_eq_ok]
  constructor
  · rintro ⟨bytes, _, ⟨h1, rfl, k, f, h2, h3, rfl⟩, text, _, ⟨h4, rfl⟩, _, _, h5, rfl, rfl⟩
    obtain ⟨-, k', h6, -, rfl⟩ := (on_writePage_eq_ok hf).mp h5
    rw [h2] at h6
    cases h6
    refine ⟨k, f, text, ⟨h1, h2⟩, h3, ?_, rfl, ?_⟩
    · cases hd : Utf8.decode f.bytes with
      | error e => simp [hd, Except.mapError] at h4
      | ok text' =>
        rw [hd] at h4
        cases h4
        rfl
    · simp [written, relinkedFile, h3]
  · rintro ⟨k, f, text, h1, h3, h4, rfl, rfl⟩
    refine ⟨f.bytes, h, ⟨h1.hasNul, rfl, k, f, h1.locate, h3, rfl⟩, text, h, ⟨?_, rfl⟩,
      (), _, (on_writePage_eq_ok hf).mpr ⟨h1.hasNul, k, h1.locate, by simp [h3], rfl⟩, rfl, ?_⟩
    · rw [h4]
      rfl
    · simp [written, relinkedFile, h3]

end Site

end DeckPress
