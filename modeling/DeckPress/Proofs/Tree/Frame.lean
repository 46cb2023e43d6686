import DeckPress.Proofs.Tree.Relocation

/-!
# What tree operations leave alone

`SameBut D t u` says that the trees hold the same outside `D`.  Each operation is bounded in this
way, whether it succeeds or fails half-way.

* `sameBut_of_writeFile`, `sameBut_of_unlink`, `sameBut_of_rename`, `eq_of_removeTree` — the
  operations on files.
* `of_makeDirectories_error` — directories that could not all be made are made up to some place on
  the way; `sameBut_of_makeDirectories` is the bound for both endings.
* `WellFormed.made`, `WellFormed.eraseFrom`, `WellFormed.erase`, `WellFormed.setEntry`,
  `WellFormed.set_of_leads`, `WellFormed.set_file`, `WellFormed.move` — a well-formed tree stays
  one.
-/

namespace DeckPress

namespace Path

variable {p : Path} {name : String}

theorem IsPlain.hasEntryName (hp : p.IsPlain) (hne : p.names ≠ []) :
    Tree.hasEntryName p = true := by
  obtain ⟨k, name, hk⟩ := (List.eq_nil_or_concat p.names).resolve_left hne
  have hup : name ≠ ".." := fun he => hp.onward (by simp [hk, he])
  simp [Tree.hasEntryName, hk, hup]

end Path

namespace Tree

variable {t u v : Tree} {cwd k s d q : Loc} {p : Path} {n : Node} {f : File} {D E : Loc → Prop}
  {seen : Path → Bool} {depth : Nat}

/-- The trees hold the same outside `D`. -/
def SameBut (D : Loc → Prop) (t u : Tree) : Prop := ∀ q, ¬ D q → u.get? q = t.get? q

/-- The places at or below `k`. -/
def Below (k q : Loc) : Prop := k <+: q

/-- The places at or below `k`, and those on the way to it. -/
def Around (k q : Loc) : Prop := k <+: q ∨ q <+: k

theorem SameBut.refl (D : Loc → Prop) (t : Tree) : SameBut D t t := fun _ _ => rfl

theorem SameBut.trans (h : SameBut D t u) (h' : SameBut D u v) : SameBut D t v :=
  fun q hq => (h' q hq).trans (h q hq)

theorem SameBut.mono (h : SameBut D t u) (hDE : ∀ q, D q → E q) : SameBut E t u :=
  fun q hq => h q fun hD => hq (hDE q hD)

theorem SameBut.of_eq (h : u = t) : SameBut D t u := h ▸ .refl D t

/-! ## Operations on files -/

theorem sameBut_set (hk : k ≠ []) : SameBut (· = k) t (t.set k n) :=
  fun q hq => by rw [get?_set hk, if_neg hq]

theorem sameBut_of_writeFile (h : t.writeFile k f = .ok u) : SameBut (· = k) t u := by
  obtain ⟨hfile, rfl⟩ := writeFile_eq_ok.mp h
  exact sameBut_set (ne_nil_of_not_directory hfile)

theorem sameBut_of_unlink (h : t.unlink k = .ok u) : SameBut (· = k) t u := by
  obtain ⟨⟨f, hfile⟩, rfl⟩ := unlink_eq_ok.mp h
  have hk : k ≠ [] := ne_nil_of_not_directory (t := t) (by simp [hfile])
  exact fun q hq => by rw [get?_erase hk, if_neg hq]

theorem sameBut_move (hs : s ≠ []) (hd : d ≠ []) :
    SameBut (fun q => Below s q ∨ Below d q) t (t.move s d) := by
  intro q hq
  obtain ⟨hsq, hdq⟩ := not_or.mp hq
  exact (get?_move_elsewhere hs hd hdq).trans (if_neg hsq)

/-- What can be moved at all is moved, unless it stays where it is. -/
theorem of_renameAt (h : t.renameAt s d = .ok u) :
    s = d ∧ u = t ∨ ¬ s <+: d ∧ ¬ d <+: s ∧ u = t.move s d := by
  rw [renameAt] at h
  cases hs : t.get? s with
  | none => simp [hs] at h
  | some n =>
    simp only [hs] at h
    by_cases hsd : s = d
    · rw [if_pos hsd] at h
      cases h
      exact .inl ⟨hsd, rfl⟩
    · rw [if_neg hsd] at h
      by_cases h1 : s <+: d
      · rw [if_pos h1] at h
        cases h
      · rw [if_neg h1] at h
        by_cases h2 : d <+: s
        · rw [if_pos h2] at h
          cases h
        · -- Whatever else stands in the way, the only tree that can come of it is the moved one.
          rw [if_neg h2] at h
          refine .inr ⟨h1, h2, ?_⟩
          split at h
          · cases h
          · cases h
          · split at h
            · cases h
              rfl
            · cases h
          · cases h
            rfl

theorem sameBut_of_rename {p' : Path} (h : t.rename cwd p p' = .ok u)
    (hs : ∀ k, t.locate cwd p = .ok k → ∀ q, Below k q → D q)
    (hd : ∀ k, t.locate cwd p' = .ok k → ∀ q, Below k q → D q) : SameBut D t u := by
  obtain ⟨s, d, hls, hld, -, -, hat⟩ := rename_eq_ok.mp h
  rcases of_renameAt hat with ⟨-, rfl⟩ | ⟨h1, h2, rfl⟩
  · exact .refl D _
  · have hsd : Incomparable s d := ⟨h1, h2⟩
    refine (sameBut_move hsd.ne_nil hsd.symm.ne_nil).mono fun q hq => ?_
    exact hq.elim (hs s hls q) (hd d hld q)

/-- A directory is removed as a whole, or not at all. -/
theorem eq_of_removeTree (hp : p.IsPlain) (hne : p.names ≠ []) :
    (∀ u, t.removeTree cwd p = .ok u → u = t.eraseFrom p.names) ∧
      ∀ e u, t.removeTree cwd p = .error (e, u) → u = t := by
  refine ⟨fun u h => ?_, fun e u h => ?_⟩
  · obtain ⟨k, hk, -, -, rfl⟩ := removeTree_eq_ok.mp h
    rw [((locate_eq_ok hp).mp hk).2.2]
  · rw [removeTree] at h
    cases hl : t.locate cwd p with
    | error e' =>
      simp only [hl, Except.mapError, bind, Except.bind] at h
      cases h
      rfl
    | ok k =>
      simp only [hl, Except.mapError, bind, Except.bind] at h
      cases hk : t.get? k with
      | none =>
        simp only [hk] at h
        cases h
        rfl
      | some n =>
        cases n with
        | file f =>
          simp only [hk] at h
          cases h
          rfl
        | directory =>
          simp only [hk, hp.hasEntryName hne, if_true] at h
          cases h

/-! ## Making directories -/

theorem Made.sameBut (h : Made t u k) : SameBut (· <+: k) t u :=
  fun q hq => by rw [h.get?, if_neg hq]

/-- Directories that could not all be made are made up to some place on the way. -/
theorem of_makeDirectoriesUpTo_error (hp : p.IsPlain) {e : Errno} {q : Path}
    (h : t.makeDirectoriesUpTo cwd seen depth p = .error (e, q, u)) :
    u = t ∨ ∃ j, j <+: p.names ∧ Made t u j := by
  induction depth generalizing p with
  | zero =>
    rw [makeDirectoriesUpTo] at h
    split at h
    · cases h
    · split_ifs at h <;> cases h <;> exact .inl rfl
  | succ depth ih =>
    rw [makeDirectoriesUpTo] at h
    split at h
    · cases h
    · split at h
      · cases hv : t.makeDirectoriesUpTo cwd seen depth p.parent with
        | error b =>
          simp only [hv, bind, Except.bind] at h
          cases h
          refine (ih hp.parent hv).imp_right ?_
          rintro ⟨j, hj, hmade⟩
          exact ⟨j, hj.trans (List.dropLast_prefix _), hmade⟩
        | ok v =>
          -- The directories above are there, but the last one could not be made.
          simp only [hv, bind, Except.bind] at h
          refine .inr ⟨p.parent.names, List.dropLast_prefix _, ?_⟩
          have hmade := (made_of_makeDirectoriesUpTo hp.parent hv).2
          split at h
          · cases h
          · split at h
            · cases h
            · cases h
              exact hmade
      · split at h
        · cases h
        · cases h
          exact .inl rfl

theorem of_makeDirectories_error (hp : p.IsPlain) {e : Errno} {q : Path}
    (h : t.makeDirectories cwd seen p = .error (e, q, u)) :
    u = t ∨ ∃ j, j <+: p.names ∧ Made t u j :=
  of_makeDirectoriesUpTo_error hp h

/-- Making directories touches only what is on the way, whether it succeeds or fails. -/
theorem sameBut_of_makeDirectories (hp : p.IsPlain) :
    (∀ u, t.makeDirectories cwd seen p = .ok u → SameBut (· <+: p.names) t u) ∧
      ∀ e q u, t.makeDirectories cwd seen p = .error (e, q, u) → SameBut (· <+: p.names) t u := by
  refine ⟨fun u h => (made_of_makeDirectories hp h).2.sameBut, fun e q u h => ?_⟩
  rcases of_makeDirectories_error hp h with rfl | ⟨j, hj, hmade⟩
  · exact .refl _ _
  · exact hmade.sameBut.mono fun r hr => hr.trans hj

/-! ## Well-formed trees -/

theorem WellFormed.made (h : t.WellFormed) (hm : Made t u k) (hk : ∀ n ∈ k, IsEntryName n) :
    u.WellFormed := by
  refine ⟨⟨hm.top.trans h.top, fun q name hq => ?_⟩, fun q name hq => ?_⟩
  · rw [hm.get?] at hq ⊢
    split at hq
    · rw [if_pos ((List.prefix_append q [name]).trans ‹_›)]
    · split
      · rfl
      · exact h.parent q name hq
  · rw [hm.get?] at hq
    split at hq
    · rename_i hle
      exact hk name (hle.subset (by simp))
    · exact h.entryName q name hq

theorem WellFormed.eraseFrom (h : t.WellFormed) (hk : k ≠ []) : (t.eraseFrom k).WellFormed := by
  have hkept : ∀ q name, ((t.eraseFrom k).get? (q ++ [name])).isSome →
      ¬ k <+: q ∧ (t.get? (q ++ [name])).isSome := by
    intro q name hq
    rw [get?_eraseFrom hk] at hq
    split at hq
    · cases hq
    · exact ⟨fun hle => ‹¬ _› (hle.trans (List.prefix_append q [name])), hq⟩
  refine ⟨⟨?_, fun q name hq => ?_⟩, fun q name hq => h.entryName q name (hkept q name hq).2⟩
  · rw [nodes_eraseFrom_nil hk, h.top]
  · rw [get?_eraseFrom hk, if_neg (hkept q name hq).1, h.parent q name (hkept q name hq).2]

/-- Removing a file keeps a tree well-formed. -/
theorem WellFormed.erase (h : t.WellFormed) (hk : t.get? k = some (.file f)) :
    (t.erase k).WellFormed := by
  have hk0 : k ≠ [] := ne_nil_of_not_directory (t := t) (by simp [hk])
  refine ⟨h.toRooted.erase_file hk, fun q name hq => h.entryName q name ?_⟩
  rw [get?_erase hk0] at hq
  split at hq
  · cases hq
  · exact hq

/-- Putting something in a directory where no directory is, under a name that an entry can have,
keeps a tree well-formed. -/
theorem WellFormed.setEntry (h : t.WellFormed) {name : String} (hd : t.get? d = some .directory)
    (hname : IsEntryName name) (hkind : t.get? (d ++ [name]) ≠ some .directory) :
    (t.set (d ++ [name]) n).WellFormed := by
  have hk : d ++ [name] ≠ [] := by simp
  have hkept : ∀ q x, q ++ [x] ≠ d ++ [name] → ((t.set (d ++ [name]) n).get? (q ++ [x])) =
      t.get? (q ++ [x]) := fun q x hne => by rw [get?_set hk, if_neg hne]
  refine ⟨⟨by rw [nodes_set_nil hk, h.top], fun q x hq => ?_⟩, fun q x hq => ?_⟩
  · have hdir : t.get? q = some .directory := by
      by_cases he : q ++ [x] = d ++ [name]
      · rw [(List.append_inj_left' he rfl), hd]
      · rw [hkept q x he] at hq
        exact h.parent q x hq
    rw [get?_set hk, if_neg, hdir]
    rintro rfl
    exact hkind hdir
  · by_cases he : q ++ [x] = d ++ [name]
    · have hx : x = name := by simpa using List.append_inj_right' he rfl
      exact hx ▸ hname
    · rw [hkept q x he] at hq
      exact h.entryName q x hq

/-- Putting something where directories lead to keeps a tree well-formed. -/
theorem WellFormed.set_of_leads (h : t.WellFormed) (hleads : t.Leads k)
    (hnames : ∀ name ∈ k, IsEntryName name) (hk : t.get? k ≠ some .directory) :
    (t.set k n).WellFormed := by
  obtain ⟨d, name, rfl⟩ := (List.eq_nil_or_concat k).resolve_left (ne_nil_of_not_directory hk)
  rw [List.concat_eq_append] at hleads hnames hk ⊢
  exact h.setEntry (leads_concat.mp hleads).2 (hnames name (by simp)) hk

/-- Replacing a file keeps a tree well-formed. -/
theorem WellFormed.set_file (h : t.WellFormed) (hk : t.get? k = some (.file f)) :
    (t.set k n).WellFormed := by
  rcases List.eq_nil_or_concat k with rfl | ⟨d, name, rfl⟩
  · rw [get?_nil] at hk
    cases hk
  · rw [List.concat_eq_append] at hk ⊢
    have hsome : (t.get? (d ++ [name])).isSome := by rw [hk]; rfl
    exact h.setEntry (h.parent d name hsome) (h.entryName d name hsome) (by simp [hk])

/-- Moving something to an entry of a directory that stays where it is keeps a tree well-formed. -/
theorem WellFormed.move (h : t.WellFormed) {name : String}
    (hsd : Incomparable s (d ++ [name])) (hd : t.get? d = some .directory)
    (hname : IsEntryName name) : (t.move s (d ++ [name])).WellFormed := by
  have hs := hsd.ne_nil
  have hd0 : d ++ [name] ≠ [] := by simp
  suffices hall : ∀ q x, ((t.move s (d ++ [name])).get? (q ++ [x])).isSome →
      (t.move s (d ++ [name])).get? q = some .directory ∧ IsEntryName x from
    ⟨⟨by rw [nodes_move_nil hs hd0, h.top], fun q x hq => (hall q x hq).1⟩,
      fun q x hq => (hall q x hq).2⟩
  intro q x hq
  by_cases hbelow : d ++ [name] <+: q
  · -- What was moved lies as it lay before.
    obtain ⟨r, rfl⟩ := hbelow
    rw [List.append_assoc (d ++ [name]), get?_move_append hs hd0, ← List.append_assoc] at hq
    rw [get?_move_append hs hd0]
    exact ⟨h.parent _ x hq, h.entryName _ x hq⟩
  rw [get?_move_elsewhere hs hd0 hbelow]
  by_cases hself : q ++ [x] = d ++ [name]
  · obtain rfl : q = d := List.append_inj_left' hself rfl
    obtain rfl : x = name := by simpa using List.append_inj_right' hself rfl
    rw [if_neg fun hle => hsd.1 (hle.trans (List.prefix_append q [x]))]
    exact ⟨hd, hname⟩
  · have hnot : ¬ d ++ [name] <+: q ++ [x] := fun hle =>
      (List.prefix_concat_iff.mp hle).elim (fun he => hself he.symm) hbelow
    rw [get?_move_elsewhere hs hd0 hnot] at hq
    split at hq
    · cases hq
    · rename_i hsq
      rw [if_neg fun hle => hsq (hle.trans (List.prefix_append q [x]))]
      exact ⟨h.parent q x hq, h.entryName q x hq⟩

end Tree

end DeckPress
