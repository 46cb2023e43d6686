import DeckPress.Tree.Lemmas
import Mathlib.Data.List.Infix
import Mathlib.Data.List.Sort
import Mathlib.Order.Compare

/-!
# Trees seen through their places

`Tree.get?` is extended to what moves and lists: the branch at a place, grafting and moving it, and
the names of a directory.

* `mem_branch`, `mem_names` — what a branch and a directory hold.
* `pairwise_names` — a directory is listed in the order of the names, each once.
* `get?_move_append`, `get?_move_elsewhere` — what a tree holds after a move.
* `Rooted` — every node lies in a directory; `WellFormed` — and has a name that an entry of a
  directory can have.
-/

namespace DeckPress.Tree

variable {t u : Tree} {k q r s d : Loc} {n : Node} {name : String}

theorem get?_concat : t.get? (k ++ [name]) = t.nodes[k ++ [name]]? :=
  get?_of_ne_nil (by simp)

/-- A tree is what it holds below the top. -/
theorem ext_get? (h0 : t.nodes[([] : Loc)]? = u.nodes[([] : Loc)]?)
    (h : ∀ q, t.get? q = u.get? q) : t = u := by
  have hn : t.nodes = u.nodes := by
    apply Std.ExtTreeMap.ext_getElem?
    intro q
    by_cases hq : q = []
    · rw [hq, h0]
    · rw [← get?_of_ne_nil hq, ← get?_of_ne_nil hq, h q]
  cases t
  cases u
  exact congrArg Tree.mk hn

/-! ## Branches -/

theorem mem_branch : (r, n) ∈ t.branch k ↔ t.nodes[k ++ r]? = some n := by
  simp only [branch, toList, List.mem_filterMap, Prod.exists, Option.map_eq_some_iff,
    Prod.mk.injEq, List.isPrefixOf?_eq_some_iff_append_eq]
  constructor
  · rintro ⟨q, m, hm, r, hr, rfl, rfl⟩
    rw [hr]
    exact Std.ExtTreeMap.mem_toList_iff_getElem?_eq_some.mp hm
  · intro h
    exact ⟨k ++ r, n, Std.ExtTreeMap.mem_toList_iff_getElem?_eq_some.mpr h, r, rfl, rfl, rfl⟩

theorem compare_append (k q r : Loc) : compare (k ++ q) (k ++ r) = compare q r := by
  induction k with
  | nil => rfl
  | cons name k ih => simp [List.compare_cons_cons, ih]

theorem pairwise_branch (t : Tree) (k : Loc) :
    (t.branch k).Pairwise fun a b => compare a.1 b.1 = .lt := by
  refine List.Pairwise.filterMap _ ?_ Std.ExtTreeMap.ordered_keys_toList
  rintro ⟨q, m⟩ ⟨q', m'⟩ h ⟨r, n⟩ hr ⟨r', n'⟩ hr'
  simp only [Option.map_eq_some_iff, Prod.mk.injEq, List.isPrefixOf?_eq_some_iff_append_eq]
    at hr hr'
  obtain ⟨_, rfl, rfl, rfl⟩ := hr
  obtain ⟨_, rfl, rfl, rfl⟩ := hr'
  rwa [compare_append] at h

theorem mem_names : name ∈ t.names k ↔ (t.get? (k ++ [name])).isSome := by
  simp only [names, List.mem_filterMap, Prod.exists, get?_concat, Option.isSome_iff_exists]
  constructor
  · rintro ⟨q, m, hm, hq⟩
    split at hq
    · cases hq
      exact ⟨m, mem_branch.mp hm⟩
    · cases hq
  · rintro ⟨m, hm⟩
    exact ⟨[name], m, mem_branch.mpr hm, rfl⟩

/-- A directory is listed in the order of the names, each once. -/
theorem pairwise_names (t : Tree) (k : Loc) : (t.names k).Pairwise (· < ·) := by
  refine List.Pairwise.filterMap _ ?_ (pairwise_branch t k)
  rintro ⟨q, m⟩ ⟨q', m'⟩ h a ha b hb
  simp only at ha hb
  split at ha
  · cases ha
    split at hb
    · cases hb
      have hab : compare a b = .lt := by simpa [List.compare_cons_cons] using h
      exact compareOfLessAndEq_eq_lt.mp hab
    · cases hb
  · cases ha

/-- Directories that hold entries under the same names are listed alike. -/
theorem names_congr {j : Loc}
    (h : ∀ name, (t.get? (k ++ [name])).isSome ↔ (u.get? (j ++ [name])).isSome) :
    t.names k = u.names j :=
  (pairwise_names t k).eq_of_mem_iff (pairwise_names u j)
    (by simpa only [mem_names] using h)

/-! ## Moving -/

theorem mem_map_branch {m : Node} :
    (q, m) ∈ (u.branch s).map (fun (r, n) => (d ++ r, n)) ↔
      ∃ r, q = d ++ r ∧ u.nodes[s ++ r]? = some m := by
  simp only [List.mem_map, Prod.exists, Prod.mk.injEq, mem_branch]
  constructor
  · rintro ⟨r, _, hr, rfl, rfl⟩
    exact ⟨r, rfl, hr⟩
  · rintro ⟨r, rfl, hr⟩
    exact ⟨r, m, hr, rfl, rfl⟩

theorem nodes_graft_of_mem {m : Node} (h : u.nodes[s ++ r]? = some m) :
    (t.graft d (u.branch s)).nodes[d ++ r]? = some m := by
  refine Std.ExtTreeMap.getElem?_insertMany_list_of_mem (k := d ++ r) ?_ ?_
    (mem_map_branch.mpr ⟨r, rfl, h⟩)
  · exact Std.LawfulEqCmp.compare_eq_iff_eq.mpr rfl
  · refine List.Pairwise.map _ ?_ (pairwise_branch u s)
    rintro ⟨q, _⟩ ⟨q', _⟩ hq
    simp only [compare_append]
    rw [hq]
    decide

theorem nodes_graft_of_not_mem (h : ∀ r, q = d ++ r → u.nodes[s ++ r]? = none) :
    (t.graft d (u.branch s)).nodes[q]? = t.nodes[q]? := by
  refine Std.ExtTreeMap.getElem?_insertMany_list_of_contains_eq_false ?_
  rw [← Bool.not_eq_true, List.contains_iff_mem]
  intro hq
  obtain ⟨⟨q, m⟩, hm, rfl⟩ := List.mem_map.mp hq
  obtain ⟨r, rfl, hr⟩ := mem_map_branch.mp hm
  rw [h r rfl] at hr
  cases hr

/-- What was at and below the source of a move is at and below its target. -/
theorem get?_move_append (hs : s ≠ []) (hd : d ≠ []) :
    (t.move s d).get? (d ++ r) = t.get? (s ++ r) := by
  have hsr : s ++ r ≠ [] := by simp [hs]
  have hdr : d ++ r ≠ [] := by simp [hd]
  rw [get?_of_ne_nil hdr, get?_of_ne_nil hsr, move]
  cases h : t.nodes[s ++ r]? with
  | some m => exact nodes_graft_of_mem h
  | none =>
    rw [nodes_graft_of_not_mem, ← get?_of_ne_nil hdr, get?_eraseFrom hd,
      if_pos (List.prefix_append d r)]
    intro r' hr'
    rw [← List.append_cancel_left hr', h]

/-- Elsewhere a move only takes away what was at and below its source. -/
theorem get?_move_elsewhere (hs : s ≠ []) (hd : d ≠ []) (h : ¬ d <+: q) :
    (t.move s d).get? q = if s <+: q then none else t.get? q := by
  by_cases hq : q = []
  · subst hq
    simp [hs]
  · rw [get?_of_ne_nil hq, move, nodes_graft_of_not_mem, ← get?_of_ne_nil hq, get?_eraseFrom hd,
      if_neg h, get?_eraseFrom hs]
    rintro r rfl
    exact absurd (List.prefix_append d r) h

/-! ## Well-formed trees -/

/-- A name that an entry of a directory can have. -/
def IsEntryName (name : String) : Prop :=
  name ≠ "" ∧ name ≠ "." ∧ name ≠ ".." ∧ '/' ∉ name.toList ∧ '\x00' ∉ name.toList

instance : Decidable (IsEntryName name) := inferInstanceAs (Decidable (_ ∧ _))

/-- Every node lies in a directory. -/
structure Rooted (t : Tree) : Prop where
  top : t.nodes[([] : Loc)]? = none
  parent : ∀ k name, (t.get? (k ++ [name])).isSome → t.get? k = some .directory

/-- Every node lies in a directory, under a name that an entry can have. -/
structure WellFormed (t : Tree) : Prop extends Rooted t where
  entryName : ∀ k name, (t.get? (k ++ [name])).isSome → IsEntryName name

theorem mem_toList : (q, n) ∈ t.toList ↔ t.nodes[q]? = some n :=
  Std.ExtTreeMap.mem_toList_iff_getElem?_eq_some

/-- A tree is well-formed if each of its nodes lies well. -/
theorem wellFormed_iff : t.WellFormed ↔ ∀ e ∈ t.toList,
    t.get? e.1.dropLast = some .directory ∧ IsEntryName (e.1.getLast?.getD "") := by
  constructor
  · rintro h ⟨q, n⟩ hq
    rw [mem_toList] at hq
    rcases List.eq_nil_or_concat q with rfl | ⟨k, name, rfl⟩
    · rw [h.top] at hq
      cases hq
    · rw [List.concat_eq_append, ← get?_concat] at hq
      have hsome : (t.get? (k ++ [name])).isSome := by rw [hq]; rfl
      simpa using ⟨h.parent k name hsome, h.entryName k name hsome⟩
  · intro h
    have hall : ∀ k name, (t.get? (k ++ [name])).isSome →
        t.get? k = some .directory ∧ IsEntryName name := by
      intro k name hsome
      obtain ⟨n, hn⟩ := Option.isSome_iff_exists.mp hsome
      rw [get?_concat] at hn
      simpa using h _ (mem_toList.mpr hn)
    refine ⟨⟨?_, fun k name hk => (hall k name hk).1⟩, fun k name hk => (hall k name hk).2⟩
    rw [← Option.not_isSome_iff_eq_none, Option.isSome_iff_exists]
    rintro ⟨n, hn⟩
    exact (h _ (mem_toList.mpr hn)).2.1 rfl

instance : Decidable t.WellFormed := decidable_of_iff _ wellFormed_iff.symm

theorem Rooted.directory_of_append (h : t.Rooted) (hr : r ≠ []) (hq : (t.get? (k ++ r)).isSome) :
    t.get? k = some .directory := by
  induction r using List.reverseRecOn with
  | nil => exact absurd rfl hr
  | append_singleton r name ih =>
    rw [← List.append_assoc] at hq
    have hp := h.parent _ _ hq
    by_cases hr0 : r = []
    · rwa [hr0, List.append_nil] at hp
    · exact ih hr0 (by rw [hp]; rfl)

theorem WellFormed.entryName_of_append (h : t.WellFormed) (hsome : (t.get? (k ++ r)).isSome) :
    ∀ name ∈ r, IsEntryName name := by
  induction r using List.reverseRecOn with
  | nil => simp
  | append_singleton r last ih =>
    rw [← List.append_assoc] at hsome
    have hdir := h.parent _ _ hsome
    intro name hname
    rcases List.mem_append.mp hname with hname | hname
    · exact ih (by rw [hdir]; rfl) name hname
    · rw [List.mem_singleton.mp hname]
      exact h.entryName _ _ hsome

/-- Only a directory has something below it. -/
theorem Rooted.none_below (h : t.Rooted) (hk : t.get? k ≠ some .directory) (hr : r ≠ []) :
    t.get? (k ++ r) = none := by
  rw [← Option.not_isSome_iff_eq_none]
  exact fun hq => hk (h.directory_of_append hr hq)

/-- A file lies not above anything else that is there. -/
theorem Rooted.not_prefix_of_file (h : t.Rooted) {f : File} (hk : t.get? k = some (.file f))
    (hq : (t.get? q).isSome) (hne : k ≠ q) : ¬ k <+: q := by
  rintro ⟨r, rfl⟩
  have hr : r ≠ [] := by
    rintro rfl
    exact hne (List.append_nil k).symm
  have hdir := h.directory_of_append hr hq
  rw [hk] at hdir
  cases hdir

theorem ne_nil_of_not_directory (h : t.get? k ≠ some .directory) : k ≠ [] := by
  rintro rfl
  exact h get?_nil

theorem nodes_set_nil (hk : k ≠ []) : (t.set k n).nodes[([] : Loc)]? = t.nodes[([] : Loc)]? := by
  simp [set, Std.ExtTreeMap.getElem?_insert, hk]

theorem nodes_erase_nil (hk : k ≠ []) : (t.erase k).nodes[([] : Loc)]? = t.nodes[([] : Loc)]? := by
  simp [erase, Std.ExtTreeMap.getElem?_erase, hk]

theorem nodes_eraseFrom_nil (hk : k ≠ []) :
    (t.eraseFrom k).nodes[([] : Loc)]? = t.nodes[([] : Loc)]? := by
  obtain ⟨name, k, rfl⟩ := List.exists_cons_of_ne_nil hk
  rw [eraseFrom, Std.ExtTreeMap.getElem?_filter']
  cases t.nodes[([] : Loc)]? <;> rfl

theorem Rooted.erase_file (h : t.Rooted) {f : File} (hk : t.get? k = some (.file f)) :
    (t.erase k).Rooted := by
  have hk0 : k ≠ [] := ne_nil_of_not_directory (t := t) (by simp [hk])
  refine ⟨by rw [nodes_erase_nil hk0, h.top], fun q name hq => ?_⟩
  rw [get?_erase hk0] at hq ⊢
  split at hq
  · cases hq
  · have hp := h.parent q name hq
    rw [if_neg, hp]
    rintro rfl
    rw [hk] at hp
    cases hp

/-- Moving a file to a place with nothing below it. -/
theorem Rooted.get?_move_file (h : t.Rooted) {f : File} (hs : t.get? s = some (.file f))
    (hd : t.get? d ≠ some .directory) :
    (t.move s d).get? q =
      if q = d then some (.file f) else if q = s then none else t.get? q := by
  have hsd : t.get? s ≠ some .directory := by simp [hs]
  have hs0 := ne_nil_of_not_directory hsd
  have hd0 := ne_nil_of_not_directory hd
  by_cases hdq : d <+: q
  · obtain ⟨r, rfl⟩ := hdq
    rw [get?_move_append hs0 hd0]
    by_cases hr : r = []
    · rw [hr, List.append_nil, List.append_nil, if_pos rfl, hs]
    · rw [h.none_below hsd hr, h.none_below hd hr, if_neg (by simpa using hr)]
      split <;> rfl
  · have hqd : q ≠ d := fun he => hdq (he ▸ List.prefix_rfl)
    rw [get?_move_elsewhere hs0 hd0 hdq, if_neg hqd]
    by_cases hsq : s <+: q
    · obtain ⟨r, rfl⟩ := hsq
      rw [if_pos (List.prefix_append s r)]
      by_cases hr : r = []
      · rw [if_pos (by simpa using hr)]
      · rw [h.none_below hsd hr]
        split <;> rfl
    · have hqs : q ≠ s := fun he => hsq (he ▸ List.prefix_rfl)
      rw [if_neg hsq, if_neg hqs]

end DeckPress.Tree
