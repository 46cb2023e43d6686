import DeckPress.Proofs.Tree.Files
import DeckPress.Proofs.Tree.Spare
import DeckPress.Tree.Install

/-!
# Putting the same files into a tree again

Files that could be put into a directory once can be put there again, whatever became of them in the
meantime, as long as the directories are still there and no others have come up.

* `directory_of_makeDirectories` — a directory that was made is found, and
  `makeDirectories_of_directory` — making it again changes nothing.
* `WellFormed.set_of_locate` — what is put where a path leads has the name of an entry.
* `KeepsKinds t u` — files stay files, and directories stay directories.
* `contents` — what a place holds, whatever the times; `SameFiles` — files that differ in their
  times only.
* `Overwritten t u s v` — where `u` differs from what was in `t`, `v` has the contents of `u`, and
  elsewhere it holds what `s` holds; `exists_install_again` is one step in two trees,
  `exists_installAll_again` the run, and `exists_filled_again` the result.
-/

namespace DeckPress

namespace Path

variable {p : Path}

theorem isProper_parent (hp : p.IsProper) : p.parent.IsProper :=
  fun name hname => hp name (List.mem_of_mem_dropLast hname)

end Path

/-- The node without the time at which a file was changed last. -/
def Node.timeless : Node → Node
  | .file f => .file { f with modified := 0 }
  | .directory => .directory

namespace Tree

variable {t t' u u' s s' v : Tree} {cwd k q r : Loc} {p dir : Path} {n : Node} {f : File}
  {name : String} {seen : Path → Bool} {files files' : List (String × Node)}

/-! ## Making a directory again -/

theorem directory_of_spares (h : Spares (fun _ => False) t u) (hq : t.get? q = some .directory) :
    u.get? q = some .directory := h q _ id hq

theorem MakesAt.directory (h : MakesAt cwd seen p t u) :
    ∃ k, u.locate cwd p = .ok k ∧ u.get? k = some .directory := by
  have hspares := h.spares
  rcases h with h | ⟨h, rfl⟩
  · cases hl : t.locate cwd p with
    | error e =>
      rw [hl] at h
      cases h
    | ok k =>
      refine ⟨k, locate_mono (fun _ => directory_of_spares hspares) hl, ?_⟩
      rw [hl] at h
      change t.makeDirectory k = .ok u at h
      rw [makeDirectory] at h
      split at h
      · cases h
      · rename_i hnone
        cases h
        have hk : k ≠ [] := by
          rintro rfl
          exact hnone (by simp)
        rw [get?_set hk, if_pos rfl]
  · rw [makeDirectoriesUpTo.isThere, Bool.and_eq_true] at h
    obtain ⟨-, h⟩ := h
    split at h
    · rename_i k hl
      exact ⟨k, hl, isDirectory_eq_true.mp h⟩
    · cases h

/-- A directory that was made is found. -/
theorem directory_of_makeDirectories (h : t.makeDirectories cwd seen p = .ok u) :
    ∃ k, u.locate cwd p = .ok k ∧ u.get? k = some .directory := by
  rcases of_makeDirectoriesUpTo h with h | ⟨d, v, -, -, h⟩
  · exact h.directory
  · exact h.directory

/-- Making a directory that is there changes nothing. -/
theorem makeDirectories_of_directory (hl : t.locate cwd p = .ok k)
    (hk : t.get? k = some .directory) : t.makeDirectories cwd (fun _ => true) p = .ok t := by
  have hthere : makeDirectoriesUpTo.isThere cwd (fun _ => true) t p = true := by
    simp [makeDirectoriesUpTo.isThere, hl, isDirectory_eq_true, hk]
  have hfails : (t.locate cwd p >>= t.makeDirectory) = .error .alreadyThere := by
    rw [hl]
    show t.makeDirectory k = _
    simp [makeDirectory, hk]
  rw [makeDirectories, makeDirectoriesUpTo.eq_def]
  simp only [hfails, alreadyThere_ne_noEntry, hthere, if_false, if_true]

/-! ## Well-formed trees -/

/-- Putting something in a directory where no directory is, under a name that an entry can have,
keeps a tree well-formed. -/
theorem WellFormed.set_of_locate (h : t.WellFormed) (hcwd : t.get? cwd = some .directory)
    (hp : p.IsProper) (hnul : p.hasNul = false) (hl : t.locate cwd p = .ok k)
    (hk : t.get? k ≠ some .directory) : (t.set k n).WellFormed := by
  have hwalk := (locate_eq_walk.mp hl).2
  rcases List.eq_nil_or_concat p.names with hnil | ⟨names, name, hnames⟩
  · -- Without names the path leads to where it starts.
    rw [hnil] at hwalk
    cases hwalk
    split at hk
    · exact absurd get?_nil hk
    · exact absurd hcwd hk
  · rw [hnames, List.concat_eq_append, walk_concat_iff] at hwalk
    obtain ⟨j, -, hj, -, rfl⟩ := hwalk
    have hmem : name ∈ p.names := by simp [hnames]
    split at hk
    · -- The way back up leads to a directory.
      refine absurd ?_ hk
      rcases List.eq_nil_or_concat j with rfl | ⟨i, last, rfl⟩
      · exact get?_nil
      · rw [List.concat_eq_append, List.dropLast_concat]
        exact h.parent i last (by rw [← List.concat_eq_append, hj]; rfl)
    · rename_i hup
      obtain ⟨h0, hdot, hslash⟩ := hp name hmem
      have hfree : '\x00' ∉ name.toList := by
        rw [Path.hasNul, List.any_eq_false] at hnul
        simpa using hnul name hmem
      rw [if_neg hup]
      exact h.setEntry hj ⟨h0, hdot, hup, hslash, hfree⟩ hk

theorem WellFormed.of_makesAt (h : t.WellFormed) (hcwd : t.get? cwd = some .directory)
    (hp : p.IsProper) (hnul : p.hasNul = false) (hu : MakesAt cwd seen p t u) : u.WellFormed := by
  rcases hu with hu | ⟨-, rfl⟩
  · cases hl : t.locate cwd p with
    | error e =>
      rw [hl] at hu
      cases hu
    | ok k =>
      rw [hl] at hu
      change t.makeDirectory k = .ok u at hu
      rw [makeDirectory] at hu
      split at hu
      · cases hu
      · rename_i hnone
        cases hu
        exact h.set_of_locate hcwd hp hnul hl fun hk => hnone (by rw [hk]; rfl)
  · exact h

theorem WellFormed.makeDirectories (h : t.WellFormed) (hcwd : t.get? cwd = some .directory)
    (hp : p.IsProper) (hnul : p.hasNul = false) (hu : t.makeDirectories cwd seen p = .ok u) :
    u.WellFormed := by
  suffices hall : ∀ depth p u, p.IsProper → p.hasNul = false →
      t.makeDirectoriesUpTo cwd seen depth p = .ok u → u.WellFormed from hall _ p u hp hnul hu
  intro depth
  induction depth with
  | zero =>
    intro p u hp hnul hu
    rcases of_makeDirectoriesUpTo hu with hu | ⟨d, v, hd, -⟩
    · exact h.of_makesAt hcwd hp hnul hu
    · cases hd
  | succ depth ih =>
    intro p u hp hnul hu
    rcases of_makeDirectoriesUpTo hu with hu | ⟨d, v, hd, hv, hu⟩
    · exact h.of_makesAt hcwd hp hnul hu
    · cases hd
      have hcwd' := directory_of_spares ((spares_makeDirectoriesUpTo p.parent).1 v hv) hcwd
      have hv' := ih p.parent v (Path.isProper_parent hp) (Path.hasNul_parent hnul) hv
      exact hv'.of_makesAt hcwd' hp hnul hu

/-! ## Files stay files -/

/-- What is a directory in `t` is one in `u`, and what is a file is one, with any bytes. -/
structure KeepsKinds (t u : Tree) : Prop where
  directory : ∀ q, t.get? q = some .directory → u.get? q = some .directory
  file : ∀ q f, t.get? q = some (.file f) → ∃ g, u.get? q = some (.file g)

theorem KeepsKinds.refl (t : Tree) : KeepsKinds t t := ⟨fun _ h => h, fun _ f h => ⟨f, h⟩⟩

theorem KeepsKinds.trans (h : KeepsKinds t u) (h' : KeepsKinds u v) : KeepsKinds t v := by
  refine ⟨fun q hq => h'.directory q (h.directory q hq), fun q f hq => ?_⟩
  obtain ⟨g, hg⟩ := h.file q f hq
  exact h'.file q g hg

theorem Spares.keepsKinds (h : Spares (fun _ => False) t u) : KeepsKinds t u :=
  ⟨fun q hq => h q _ id hq, fun q f hq => ⟨f, h q _ id hq⟩⟩

theorem keepsKinds_set (hk : t.get? k ≠ some .directory) : KeepsKinds t (t.set k (.file f)) := by
  have hk0 := ne_nil_of_not_directory hk
  constructor
  · intro q hq
    rw [get?_set hk0, if_neg, hq]
    rintro rfl
    exact hk hq
  · intro q g hq
    rw [get?_set hk0]
    split
    · exact ⟨f, rfl⟩
    · exact ⟨g, hq⟩

theorem keepsKinds_install (h : t.install cwd p n = .ok u) : KeepsKinds t u := by
  cases n with
  | directory => exact ((spares_makeDirectories p).1 u h).keepsKinds
  | file f =>
    obtain ⟨v, k, hv, -, hk, rfl⟩ := install_file_eq_ok.mp h
    exact ((spares_makeDirectories p.parent).1 v hv).keepsKinds.trans (keepsKinds_set hk)

theorem installAll_cons_eq_ok {name : String} :
    installAll cwd dir ((name, n) :: files) t = .ok u ↔
      ∃ v, t.install cwd (dir / name) n = .ok v ∧ installAll cwd dir files v = .ok u := by
  rw [installAll, bind_eq_ok]

theorem keepsKinds_installAll (h : installAll cwd dir files t = .ok u) : KeepsKinds t u := by
  induction files generalizing t with
  | nil =>
    cases h
    exact .refl _
  | cons e files ih =>
    obtain ⟨v, hv, hu⟩ := installAll_cons_eq_ok.mp h
    exact (keepsKinds_install hv).trans (ih hu)

theorem WellFormed.install (h : t.WellFormed) (hcwd : t.get? cwd = some .directory)
    (hp : p.IsProper) (hnul : p.hasNul = false) (hu : t.install cwd p n = .ok u) :
    u.WellFormed := by
  cases n with
  | directory => exact h.makeDirectories hcwd hp hnul hu
  | file f =>
    obtain ⟨v, k, hv, hl, hk, rfl⟩ := install_file_eq_ok.mp hu
    have hcwd' := directory_of_spares ((spares_makeDirectories p.parent).1 v hv) hcwd
    have hv' := h.makeDirectories hcwd (Path.isProper_parent hp) (Path.hasNul_parent hnul) hv
    exact hv'.set_of_locate hcwd' hp hnul hl hk

theorem WellFormed.installAll (h : t.WellFormed) (hcwd : t.get? cwd = some .directory)
    (hfiles : ∀ e ∈ files, (dir / e.1).IsProper ∧ (dir / e.1).hasNul = false)
    (hu : Tree.installAll cwd dir files t = .ok u) : u.WellFormed := by
  induction files generalizing t with
  | nil =>
    cases hu
    exact h
  | cons e files ih =>
    obtain ⟨⟨hp, hnul⟩, hrest⟩ := List.forall_mem_cons.mp hfiles
    obtain ⟨v, hv, hu⟩ := installAll_cons_eq_ok.mp hu
    exact ih (h.install hcwd hp hnul hv) ((keepsKinds_install hv).directory _ hcwd) hrest hu

/-! ## The same files at other times -/

/-- What the place holds, but for the time at which a file was changed last. -/
def contents (t : Tree) (q : Loc) : Option Node := (t.get? q).map Node.timeless

theorem contents_congr (h : t.get? q = u.get? q) : t.contents q = u.contents q := by
  rw [contents, contents, h]

theorem contents_eq_directory : t.contents q = some .directory ↔ t.get? q = some .directory := by
  rw [contents]
  cases t.get? q with
  | none => simp
  | some n => cases n <;> simp [Node.timeless]

theorem exists_file_of_contents (hq : t.get? q = some (.file f)) (h : u.contents q = t.contents q) :
    ∃ g, u.get? q = some (.file g) ∧ g.bytes = f.bytes ∧ g.isExecutable = f.isExecutable := by
  rw [contents, contents, hq] at h
  cases hu : u.get? q with
  | none => simp [hu] at h
  | some n =>
    cases n with
    | directory => simp [hu, Node.timeless] at h
    | file g =>
      have hfg : g.bytes = f.bytes ∧ g.isExecutable = f.isExecutable := by
        simpa [hu, Node.timeless] using h
      exact ⟨g, rfl, hfg⟩

theorem isFile_congr (h : t.contents q = u.contents q) : t.isFile q = u.isFile q := by
  have hkind : ∀ n : Node, n.isFile = n.timeless.isFile := fun n => by cases n <;> rfl
  have hfile : ∀ s : Tree, s.isFile q = (s.contents q).any Node.isFile := fun s => by
    rw [isFile, contents]
    cases s.get? q with
    | none => rfl
    | some n => exact hkind n
  rw [hfile, hfile, h]

/-- The lists name the same files with the same contents. -/
def SameFiles (files files' : List (String × Node)) : Prop :=
  files.map (Prod.map id Node.timeless) = files'.map (Prod.map id Node.timeless)

theorem SameFiles.exists_mem (hfiles : SameFiles files files') {e : String × Node}
    (he : e ∈ files) : ∃ e' ∈ files', e'.1 = e.1 ∧ e'.2.timeless = e.2.timeless := by
  have hmem : e.map id Node.timeless ∈ files'.map (Prod.map id Node.timeless) :=
    hfiles ▸ List.mem_map_of_mem he
  obtain ⟨e', he', hsame⟩ := List.mem_map.mp hmem
  rw [Prod.ext_iff] at hsame
  exact ⟨e', he', hsame⟩

/-! ## The same step in two trees -/

/-- The trees have the same directories. -/
def SameDirectories (t u : Tree) : Prop :=
  ∀ q, t.get? q = some .directory ↔ u.get? q = some .directory

/-- Where `u` holds something other than `t` did, `v` has the same contents, and elsewhere `v` holds
what `s` did or, again, has the contents of `u`. -/
def Overwritten (t u s v : Tree) : Prop := ∀ q,
  (u.get? q).isSome ∧ v.contents q = u.contents q ∨
    v.get? q = s.get? q ∧ ∀ n, t.get? q = some n → u.get? q = some n

theorem Overwritten.of_spares (h : Spares (fun _ => False) t u) : Overwritten t u s s :=
  fun q => .inr ⟨rfl, fun n hn => h q n id hn⟩

theorem Overwritten.trans {w : Tree} (h : Overwritten t u s v) (h' : Overwritten u u' v w) :
    Overwritten t u' s w := by
  intro q
  rcases h' q with hsame | ⟨hw, hu⟩
  · exact .inl hsame
  · rcases h q with ⟨hsome, hv⟩ | ⟨hv, ht⟩
    · obtain ⟨n, hn⟩ := Option.isSome_iff_exists.mp hsome
      have hu' : u'.get? q = some n := hu n hn
      refine .inl ⟨by rw [hu']; rfl, ?_⟩
      rw [contents_congr hw, hv, contents_congr (hn.trans hu'.symm)]
    · exact .inr ⟨hw.trans hv, fun n hn => hu n (ht n hn)⟩

theorem Overwritten.set {m : Node} (hk : k ≠ []) (hm : n.timeless = m.timeless) :
    Overwritten t (t.set k n) s (s.set k m) := by
  intro q
  rw [contents, contents, get?_set hk, get?_set hk]
  by_cases hq : q = k
  · rw [if_pos hq, if_pos hq, Option.map_some, Option.map_some, hm]
    exact .inl ⟨rfl, rfl⟩
  · rw [if_neg hq, if_neg hq]
    exact .inr ⟨rfl, fun n hn => hn⟩

theorem SameDirectories.set (h : SameDirectories s u) (hk : s.get? k ≠ some .directory) :
    SameDirectories (s.set k (.file f)) u := by
  intro q
  rw [← h q, get?_set (ne_nil_of_not_directory hk)]
  by_cases hq : q = k
  · subst hq
    simp [hk]
  · rw [if_neg hq]

/-- A directory that was made on the way to the tree `u` is there in a tree with the same
directories. -/
theorem makeDirectories_again (h : t.makeDirectories cwd seen p = .ok t') (hu : KeepsKinds t' u)
    (hs : SameDirectories s u) : s.makeDirectories cwd (fun _ => true) p = .ok s := by
  obtain ⟨k, hl, hk⟩ := directory_of_makeDirectories h
  have hdirs : ∀ r, t'.get? r = some .directory → s.get? r = some .directory :=
    fun r hr => (hs r).mpr (hu.directory r hr)
  exact makeDirectories_of_directory (locate_mono hdirs hl) (hdirs k hk)

/-- What could be put into a tree on the way to the tree `u` can be put again into a tree with the
directories of `u`. -/
theorem exists_install_again {m : Node} (h : t.install cwd p n = .ok t') (hu : KeepsKinds t' u)
    (hs : SameDirectories s u) (hm : n.timeless = m.timeless) :
    ∃ s', s.install cwd p m = .ok s' ∧ Overwritten t t' s s' ∧ SameDirectories s' u ∧
      ∀ f, n = .file f → ∃ k, t'.locate cwd p = .ok k ∧ t'.get? k = some (.file f) ∧
        s'.contents k = t'.contents k := by
  cases n with
  | directory =>
    cases m with
    | file g => cases hm
    | directory =>
      have hspares := (spares_makeDirectories p).1 t' h
      exact ⟨s, makeDirectories_again h hu hs, .of_spares hspares, hs, by simp⟩
  | file f =>
    cases m with
    | directory => cases hm
    | file g =>
      obtain ⟨v, k, hv, hl, hk, rfl⟩ := install_file_eq_ok.mp h
      have hk0 := ne_nil_of_not_directory hk
      have hvu : KeepsKinds v u := (keepsKinds_set hk).trans hu
      have hdirs : ∀ r, v.get? r = some .directory → s.get? r = some .directory :=
        fun r hr => (hs r).mpr (hvu.directory r hr)
      have hput : (v.set k (.file f)).get? k = some (.file f) := by rw [get?_set hk0, if_pos rfl]
      -- The place of the file has become a file in `u`, so that it is no directory now.
      have hks : s.get? k ≠ some .directory := by
        obtain ⟨g, hg⟩ := hu.file k f hput
        rw [Ne, hs k, hg]
        simp
      refine ⟨s.set k (.file g), install_file_eq_ok.mpr ⟨s, k, makeDirectories_again hv hvu hs,
        locate_mono hdirs hl, hks, rfl⟩, ?_, hs.set hks, ?_⟩
      · have hmade := (spares_makeDirectories p.parent).1 v hv
        exact (Overwritten.of_spares hmade).trans (.set hk0 hm)
      · rintro _ ⟨⟩
        refine ⟨k, locate_mono (keepsKinds_set hk).directory hl, hput, ?_⟩
        rw [contents, contents, hput, get?_set hk0, if_pos rfl, Option.map_some, Option.map_some,
          hm]

/-- Files that were put into a directory to give the tree `u` can be put there again in a tree with
the directories of `u`, and then have the contents that they have in `u`. -/
theorem exists_installAll_again (h : installAll cwd dir files t = .ok u)
    (hs : SameDirectories s u) (hfiles : SameFiles files files') :
    ∃ v, installAll cwd dir files' s = .ok v ∧ Overwritten t u s v ∧
      ∀ name f, (name, Node.file f) ∈ files → ∃ k g, u.locate cwd (dir / name) = .ok k ∧
        u.get? k = some (.file g) ∧ v.contents k = u.contents k := by
  induction files generalizing files' t s with
  | nil =>
    cases h
    rw [List.map_eq_nil_iff.mp hfiles.symm]
    exact ⟨s, rfl, .of_spares (.refl _ _), by simp⟩
  | cons e files ih =>
    obtain ⟨name, n⟩ := e
    obtain ⟨⟨name', m⟩, files', rfl, he, hrest⟩ := List.map_eq_cons_iff.mp hfiles.symm
    obtain ⟨rfl, hm⟩ : name' = name ∧ m.timeless = n.timeless := Prod.ext_iff.mp he
    obtain ⟨t', ht', hu⟩ := installAll_cons_eq_ok.mp h
    have hkinds := keepsKinds_installAll hu
    obtain ⟨s', hs', hover, hdirs, hput⟩ := exists_install_again ht' hkinds hs hm.symm
    obtain ⟨v, hv, hover', hputs⟩ := ih hu hdirs hrest.symm
    refine ⟨v, installAll_cons_eq_ok.mpr ⟨s', hs', hv⟩, hover.trans hover', ?_⟩
    intro name f hmem
    rcases List.mem_cons.mp hmem with he | hmem
    · cases he
      obtain ⟨k, hl, ht, hs⟩ := hput f rfl
      obtain ⟨g, hg⟩ := hkinds.file k f ht
      refine ⟨k, g, locate_mono hkinds.directory hl, hg, ?_⟩
      -- What is put in later replaces the file in both trees, or in neither.
      rcases hover' k with ⟨-, hsame⟩ | ⟨hvs, hkept⟩
      · exact hsame
      · rw [contents_congr hvs, hs, contents_congr (ht.trans (hkept _ ht).symm)]
    · exact hputs name f hmem

/-! ## Filling a directory -/

/-- The tree with the files in a directory, which is made if it is missing. -/
def filled (cwd : Loc) (dir : Path) (files : List (String × Node)) (t : Tree) :
    Except Broken Tree :=
  t.makeDirectories cwd (fun _ => true) dir >>= installAll cwd dir files

theorem filled_eq_ok : filled cwd dir files t = .ok u ↔
    ∃ v, t.makeDirectories cwd (fun _ => true) dir = .ok v ∧
      installAll cwd dir files v = .ok u := bind_eq_ok

theorem keepsKinds_filled (h : filled cwd dir files t = .ok u) : KeepsKinds t u := by
  obtain ⟨v, hv, hu⟩ := filled_eq_ok.mp h
  exact ((spares_makeDirectories dir).1 v hv).keepsKinds.trans (keepsKinds_installAll hu)

theorem WellFormed.filled (h : t.WellFormed) (hcwd : t.get? cwd = some .directory)
    (hdir : dir.IsProper) (hnul : dir.hasNul = false)
    (hfiles : ∀ e ∈ files, (Path.ofString e.1).hasNul = false)
    (hu : Tree.filled cwd dir files t = .ok u) : u.WellFormed := by
  obtain ⟨v, hv, hu⟩ := filled_eq_ok.mp hu
  have hcwd' := directory_of_spares ((spares_makeDirectories dir).1 v hv) hcwd
  refine (h.makeDirectories hcwd hdir hnul hv).installAll hcwd' (fun e he => ?_) hu
  exact ⟨Path.isProper_div hdir e.1, Path.hasNul_div hnul (hfiles e he)⟩

/-- A directory that was filled to give the tree `u` can be filled again with the same files in a
tree with the directories of `u`. -/
theorem exists_filled_again (h : filled cwd dir files t = .ok u) (hs : SameDirectories s u)
    (hfiles : SameFiles files files') : ∃ v, filled cwd dir files' s = .ok v ∧
      Overwritten t u s v ∧ ∀ name f, (name, Node.file f) ∈ files → ∃ k g,
        u.locate cwd (dir / name) = .ok k ∧ u.get? k = some (.file g) ∧
          v.contents k = u.contents k := by
  obtain ⟨t', ht', hu⟩ := filled_eq_ok.mp h
  have hmade : s.makeDirectories cwd (fun _ => true) dir = .ok s :=
    makeDirectories_again ht' (keepsKinds_installAll hu) hs
  obtain ⟨v, hv, hover, hputs⟩ := exists_installAll_again hu hs hfiles
  have hspares := (spares_makeDirectories dir).1 t' ht'
  exact ⟨v, filled_eq_ok.mpr ⟨s, hmade, hv⟩, (Overwritten.of_spares hspares).trans hover, hputs⟩

end Tree

end DeckPress
