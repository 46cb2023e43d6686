import DeckPress.Host.Basic
import DeckPress.Proofs.Tree.Frame

/-!
# Which files an operation touches

`FilesWithin D t u` says that the trees hold the same files outside `D`, whatever became of the
directories: directories that are made on the way to a place hold no file.  Unlike `SameBut`, it
bounds the making of a directory by nothing at all.

* `Tree.file?` — the file at a place.
* `filesWithin_of_writeFile`, `filesWithin_set`, `filesWithin_of_unlink`, `filesWithin_of_rename`,
  `filesWithin_of_removeTree`, `filesWithin_of_makeDirectories` — the operations, whether they
  succeed or fail half-way.
-/

namespace DeckPress

namespace Path

variable {p : Path}

theorem hasNul_parent (hnul : p.hasNul = false) : p.parent.hasNul = false := by
  rw [hasNul, List.any_eq_false] at hnul ⊢
  exact fun name hname => hnul name (List.dropLast_subset _ hname)

theorem hasNul_div {name : String} (hp : p.hasNul = false)
    (hname : (ofString name).hasNul = false) : (p / name).hasNul = false := by
  show (p.append (ofString name)).hasNul = false
  rw [append]
  split
  · exact hname
  · rw [hasNul, List.any_append, Bool.or_eq_false_iff]
    exact ⟨hp, hname⟩

theorem IsPlain.isEntryName (hp : p.IsPlain) (hnul : p.hasNul = false) :
    ∀ n ∈ p.names, Tree.IsEntryName n := by
  intro n hn
  obtain ⟨h0, hdot, hslash⟩ := hp.proper n hn
  have hfree : '\x00' ∉ n.toList := by
    rw [Path.hasNul, List.any_eq_false] at hnul
    simpa using hnul n hn
  exact ⟨h0, hdot, fun he => hp.onward (he ▸ hn), hslash, hfree⟩

end Path

namespace Tree

variable {t u v : Tree} {cwd k q : Loc} {p p' : Path} {f : File} {D E : Loc → Prop}
  {seen : Path → Bool}

/-- The file at a place, if there is one. -/
def file? (t : Tree) (q : Loc) : Option File :=
  match t.get? q with
  | some (.file f) => some f
  | _ => none

theorem file?_eq_some : t.file? q = some f ↔ t.get? q = some (.file f) := by
  rw [file?]
  split
  · rename_i hq
    simp [hq]
  · rename_i hother
    simp only [reduceCtorEq, false_iff]
    exact hother f

theorem file?_eq_none (hq : t.get? q = none ∨ t.get? q = some .directory) : t.file? q = none := by
  rw [file?]
  rcases hq with hq | hq
  · rw [hq]
  · rw [hq]

/-- The trees hold the same files outside `D`, and `u` is well-formed if `t` is. -/
structure FilesWithin (D : Loc → Prop) (t u : Tree) : Prop where
  file? : ∀ q, ¬ D q → u.file? q = t.file? q
  wellFormed : t.WellFormed → u.WellFormed

theorem FilesWithin.refl (D : Loc → Prop) (t : Tree) : FilesWithin D t t := ⟨fun _ _ => rfl, id⟩

theorem FilesWithin.trans (h : FilesWithin D t u) (h' : FilesWithin D u v) : FilesWithin D t v :=
  ⟨fun q hq => (h'.file? q hq).trans (h.file? q hq), h'.wellFormed ∘ h.wellFormed⟩

theorem FilesWithin.mono (h : FilesWithin D t u) (hDE : ∀ q, D q → E q) : FilesWithin E t u :=
  ⟨fun q hq => h.file? q fun hD => hq (hDE q hD), h.wellFormed⟩

theorem SameBut.filesWithin (h : SameBut D t u) (hw : t.WellFormed → u.WellFormed) :
    FilesWithin D t u :=
  ⟨fun q hq => by rw [Tree.file?, Tree.file?, h q hq], hw⟩

/-! ## Making directories -/

/-- Where directories are made there was no file, and there is none. -/
theorem Made.filesWithin (h : Made t u k) (hk : ∀ name ∈ k, IsEntryName name) :
    FilesWithin D t u := by
  refine ⟨fun q _ => ?_, fun hw => hw.made h hk⟩
  by_cases hq : q <+: k
  · rw [file?_eq_none (h.free q hq), file?_eq_none (.inr (by rw [h.get?, if_pos hq]))]
  · rw [Tree.file?, Tree.file?, h.get?, if_neg hq]

/-- Making directories touches no file, whether it succeeds or fails. -/
theorem filesWithin_of_makeDirectories (hp : p.IsPlain) (hnul : p.hasNul = false) :
    (∀ u, t.makeDirectories cwd seen p = .ok u → FilesWithin D t u) ∧
      ∀ e q u, t.makeDirectories cwd seen p = .error (e, q, u) → FilesWithin D t u := by
  have hnames := hp.isEntryName hnul
  refine ⟨fun u h => (made_of_makeDirectories hp h).2.filesWithin hnames, fun e q u h => ?_⟩
  rcases of_makeDirectories_error hp h with rfl | ⟨j, hj, hmade⟩
  · exact .refl D u
  · exact hmade.filesWithin fun name hname => hnames name (hj.subset hname)

/-! ## Operations on files -/

theorem filesWithin_of_writeFile (hp : p.IsPlain) (hnul : p.hasNul = false)
    (hl : t.locate cwd p = .ok k) (h : t.writeFile k f = .ok u) :
    FilesWithin (· = p.names) t u := by
  obtain ⟨-, hleads, rfl⟩ := (locate_eq_ok hp).mp hl
  refine (sameBut_of_writeFile h).filesWithin fun hw => ?_
  obtain ⟨hfile, rfl⟩ := writeFile_eq_ok.mp h
  exact hw.set_of_leads hleads (hp.isEntryName hnul) hfile

/-- A file that is there is written anew. -/
theorem filesWithin_set (hk : t.get? k = some (.file f)) {n : Node} :
    FilesWithin (· = k) t (t.set k n) := by
  have hk0 : k ≠ [] := ne_nil_of_not_directory (t := t) (by simp [hk])
  exact (sameBut_set hk0).filesWithin fun hw => hw.set_file hk

theorem filesWithin_of_unlink (h : t.unlink k = .ok u) : FilesWithin (· = k) t u := by
  refine (sameBut_of_unlink h).filesWithin fun hw => ?_
  obtain ⟨⟨f, hf⟩, rfl⟩ := unlink_eq_ok.mp h
  exact hw.erase hf

theorem filesWithin_of_removeTree (hp : p.IsPlain) (hne : p.names ≠ []) :
    (∀ u, t.removeTree cwd p = .ok u → FilesWithin (Below p.names) t u) ∧
      ∀ e u, t.removeTree cwd p = .error (e, u) → FilesWithin (Below p.names) t u := by
  refine ⟨fun u h => ?_, fun e u h => ?_⟩
  · obtain rfl := (eq_of_removeTree hp hne).1 u h
    refine SameBut.filesWithin (fun q hq => ?_) fun hw => hw.eraseFrom hne
    exact (get?_eraseFrom hne).trans (if_neg hq)
  · obtain rfl := (eq_of_removeTree hp hne).2 e u h
    exact .refl _ u

theorem filesWithin_of_rename (hp : p.IsPlain) (hp' : p'.IsPlain) (hnul : p'.hasNul = false)
    (h : t.rename cwd p p' = .ok u) :
    FilesWithin (fun q => Below p.names q ∨ Below p'.names q) t u := by
  obtain ⟨s, d, hs, hd, -, -, hat⟩ := rename_eq_ok.mp h
  obtain ⟨-, -, rfl⟩ := (locate_eq_ok hp).mp hs
  obtain ⟨-, hleads, rfl⟩ := (locate_eq_ok hp').mp hd
  rcases of_renameAt hat with ⟨-, rfl⟩ | ⟨h1, h2, rfl⟩
  · exact .refl _ u
  · have hsd : Incomparable p.names p'.names := ⟨h1, h2⟩
    refine (sameBut_move hsd.ne_nil hsd.symm.ne_nil).filesWithin fun hw => ?_
    -- The place it is moved to is an entry of a directory.
    obtain ⟨d, name, hnames⟩ := (List.eq_nil_or_concat p'.names).resolve_left hsd.symm.ne_nil
    have hname := hp'.isEntryName hnul name (by simp [hnames])
    rw [List.concat_eq_append] at hnames
    rw [hnames] at hsd hleads ⊢
    exact hw.move hsd (leads_concat.mp hleads).2 hname

end Tree

end DeckPress
