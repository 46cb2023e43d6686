import DeckPress.Proofs.Links.NormalForm
import DeckPress.Proofs.Path.Text

/-!
# Relinking in parts

A character in which no rule is interested cannot be part of anything that is replaced.  So what
stands before it and what stands behind it are relinked without regard to each other, whatever is
put in on either side.

* `replace_append_cons` — one rule; an empty search is interested in no character at all.
* `relink_append_cons` — a list of rules, by induction on it: what one rule puts in may hold the
  character again, but it does not matter where the parts came from.
* `relink_intercalate` — a text is relinked by its pieces.
* `relink_local` — the whole, with the lines of a page for pieces.
-/

namespace DeckPress

namespace Text

variable {p r a b s : Text} {c : Char}

/-- No occurrence of a text reaches a character that is not in it. -/
theorem clear_singleton (hc : c ∉ p) : Clear p [c] where
  left x hx hxp hxc := by
    obtain rfl := hxc.eq_of_length_le (Nat.succ_le_of_lt (List.length_pos_iff.mpr hx))
    exact hc (hxp.mem (List.mem_singleton_self c))
  right x hx hxp hxc := by
    obtain rfl := hxc.eq_of_length_le (Nat.succ_le_of_lt (List.length_pos_iff.mpr hx))
    exact hc (hxp.mem (List.mem_singleton_self c))
  around h := hc (h.mem (List.mem_singleton_self c))

theorem interleave_append_cons (piece a b : Text) (c : Char) :
    interleave piece (a ++ c :: b) = interleave piece a ++ c :: interleave piece b := by
  induction a with
  | nil => rfl
  | cons d a ih => rw [List.cons_append, interleave, ih, interleave, List.append_assoc,
      List.cons_append]

/-- **Replacement works separately on both sides of a character that is not searched for.** -/
theorem replace_append_cons (hc : c ∉ p) (a b : Text) :
    replace p r (a ++ c :: b) = replace p r a ++ c :: replace p r b := by
  by_cases hp : p = []
  · subst hp
    exact interleave_append_cons r a b c
  · have hkept : scan p r 0 [c] = [c] :=
      scan_of_not_infix hp fun h => by
        obtain ⟨d, hd⟩ := List.exists_mem_of_ne_nil p hp
        exact hc (List.mem_singleton.mp (h.mem hd) ▸ hd)
    rw [replace_eq_scan hp, replace_eq_scan hp, replace_eq_scan hp, ← List.singleton_append,
      ← List.append_assoc, scan_append_clear hp (clear_singleton hc), hkept, List.append_assoc,
      List.singleton_append]

/-- The pieces of a text make it up again. -/
theorem intercalate_pieces (mark : Char) (s : Text) : [mark].intercalate (pieces mark s) = s := by
  induction s with
  | nil => rfl
  | cons c s ih =>
    obtain ⟨piece, rest, hs, hcons⟩ := pieces_cons mark c s
    rw [hs] at ih
    rw [hcons]
    by_cases hc : c = mark
    · rw [if_pos hc, List.intercalate_cons_cons, ih, hc]
      rfl
    · rw [if_neg hc]
      cases rest with
      | nil =>
        rw [List.intercalate_singleton] at ih ⊢
        rw [ih]
      | cons next rest =>
        rw [List.intercalate_cons_cons] at ih ⊢
        rw [← ih]
        rfl

theorem pieces_ne_nil (mark : Char) (s : Text) : pieces mark s ≠ [] := by
  cases s with
  | nil => exact List.cons_ne_nil _ _
  | cons c s =>
    obtain ⟨piece, rest, -, hcons⟩ := pieces_cons mark c s
    rw [hcons]
    split <;> exact List.cons_ne_nil _ _

end Text

namespace Links

open Text Rule

variable {rules : List Rule} {c : Char} {readme : Text}

/-- No rule searches for a text with the character in it. -/
def Unsearched (rules : List Rule) (c : Char) : Prop := ∀ r ∈ rules, c ∉ r.search

instance : Decidable (Unsearched rules c) := inferInstanceAs (Decidable (∀ r ∈ rules, c ∉ r.search))

theorem relink_append_cons (hc : Unsearched rules c) (a b : Text) :
    relink rules (a ++ c :: b) = relink rules a ++ c :: relink rules b := by
  induction rules generalizing a b with
  | nil => rfl
  | cons r rules ih =>
    obtain ⟨hr, hrest⟩ := List.forall_mem_cons.mp hc
    simp only [relink_cons]
    rw [replace_append_cons hr, ih hrest]

/-- A text is relinked by its pieces. -/
theorem relink_intercalate (hc : Unsearched rules c) {pieces : List Text} (hne : pieces ≠ []) :
    relink rules ([c].intercalate pieces) = [c].intercalate (pieces.map (relink rules)) := by
  induction pieces with
  | nil => exact absurd rfl hne
  | cons piece pieces ih =>
    cases pieces with
    | nil => rw [List.map_singleton, List.intercalate_singleton, List.intercalate_singleton]
    | cons next pieces =>
      have hcut : [c].intercalate (piece :: next :: pieces) =
          piece ++ c :: [c].intercalate (next :: pieces) := by
        rw [List.intercalate_cons_cons, List.append_assoc, List.singleton_append]
      rw [hcut, relink_append_cons hc, ih (List.cons_ne_nil _ _)]
      simp only [List.map_cons]
      rw [List.intercalate_cons_cons, List.append_assoc, List.singleton_append]

/-- The rules of a site search for no character but those of the readme document and their own. -/
theorem unsearched_forReadme (hreadme : c ∉ readme) (hassets : c ∉ assets.search)
    (hsources : c ∉ sources.search) (hpage : c ∉ ".html".toList) :
    Unsearched (forReadme readme) c := by
  simp only [Unsearched, forReadme, List.forall_mem_cons, index, List.mem_append, not_or]
  exact ⟨hassets, hsources, ⟨hreadme, hpage⟩, List.forall_mem_nil _⟩

/-- **Relinking is local.**  Whatever the rules, a character that none of them searches for divides
a text into parts that are relinked without regard to each other.  So the pages of a site can be
relinked line by line, unless there is a line feed in the name of the readme document. -/
theorem relink_local :
    (∀ (rules : List Rule) (c : Char), (∀ r ∈ rules, c ∉ r.search) → ∀ a b : Text,
      relink rules (a ++ c :: b) = relink rules a ++ c :: relink rules b) ∧
    ∀ readme : Text, '\n' ∉ readme → ∀ page : Text,
      relink (forReadme readme) page =
        ['\n'].intercalate ((pieces '\n' page).map (relink (forReadme readme))) := by
  refine ⟨fun rules c hc => relink_append_cons hc, fun readme hreadme page => ?_⟩
  have hc : Unsearched (forReadme readme) '\n' :=
    unsearched_forReadme hreadme (by decide) (by decide) (by decide)
  rw [← relink_intercalate hc (pieces_ne_nil _ _), intercalate_pieces]

/-- Rules that put in the character that divides the text, one of them everywhere. -/
def dashing : List Rule := [⟨"aa".toList, "a|".toList⟩, ⟨[], "-".toList⟩, ⟨"-a".toList, "|".toList⟩]

theorem relink_local_dashing : (∀ r ∈ dashing, '|' ∉ r.search) ∧
    relink dashing "aaa|aa".toList = "|-||-||-|-".toList ∧
    relink dashing ("aaa".toList ++ '|' :: "aa".toList) =
      relink dashing "aaa".toList ++ '|' :: relink dashing "aa".toList ∧
    '\n' ∉ defaultReadme ∧
    relink (forReadme defaultReadme) "README.md\n\n.md".toList =
      ['\n'].intercalate ((pieces '\n' "README.md\n\n.md".toList).map
        (relink (forReadme defaultReadme))) := by
  have hrules : ∀ r ∈ dashing, '|' ∉ r.search := by decide
  exact ⟨hrules, by decide, relink_local.1 dashing '|' hrules _ _, by decide,
    relink_local.2 defaultReadme (by decide) _⟩

end Links

end DeckPress
