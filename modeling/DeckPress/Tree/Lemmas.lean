import DeckPress.Tree.Basic

/-!
# What tree operations do

Every operation on a tree is described by what it does to the view `Tree.get?`.
-/

namespace DeckPress.Tree

variable {t : Tree} {k q : Loc} {n : Node}

@[simp] theorem get?_nil : t.get? [] = some .directory := by simp [get?]

theorem get?_of_ne_nil (h : q ≠ []) : t.get? q = t.nodes[q]? := by simp [get?, h]

theorem get?_set (hk : k ≠ []) : (t.set k n).get? q = if q = k then some n else t.get? q := by
  by_cases hq : q = []
  · subst hq; simp [Ne.symm hk]
  · simp only [get?, hq, set, Std.ExtTreeMap.getElem?_insert, Std.LawfulEqCmp.compare_eq_iff_eq,
      if_false, eq_comm (a := q) (b := k)]

theorem get?_erase (hk : k ≠ []) : (t.erase k).get? q = if q = k then none else t.get? q := by
  by_cases hq : q = []
  · subst hq; simp [Ne.symm hk]
  · simp only [get?, hq, erase, Std.ExtTreeMap.getElem?_erase, Std.LawfulEqCmp.compare_eq_iff_eq,
      if_false, eq_comm (a := q) (b := k)]

theorem get?_eraseFrom (hk : k ≠ []) :
    (t.eraseFrom k).get? q = if k <+: q then none else t.get? q := by
  by_cases hq : q = []
  · subst hq; simp [hk]
  · simp only [get?, hq, eraseFrom, Std.ExtTreeMap.getElem?_filter', if_false]
    by_cases h : k <+: q <;> cases t.nodes[q]? <;> simp [h, Option.filter]

theorem get?_eraseBelow :
    (t.eraseBelow k).get? q = if k <+: q ∧ q ≠ k then none else t.get? q := by
  by_cases hq : q = []
  · subst hq; simp +contextual [eq_comm]
  · simp only [get?, hq, eraseBelow, Std.ExtTreeMap.getElem?_filter', if_false]
    by_cases h : k <+: q <;> by_cases h' : q = k <;> cases t.nodes[q]? <;>
      simp_all [Option.filter]

end DeckPress.Tree
