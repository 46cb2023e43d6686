import DeckPress.Text.Replace
import Mathlib.Data.List.Infix

/-!
# Theory of literal replacement

Replacement scans a text from the left.  Two questions decide what a chain of replacements does:
where an occurrence may stand, and whether what is put in can become part of a new one.

* `Clear p l` — no occurrence of `p` runs over an end of `l`; `Detached p l` — moreover none lies
  within `l`.
* `scan_induct` — the induction that every proof about the scan follows: the text is empty, starts
  with an occurrence, or starts with a character that is kept.
* `scan_append` — the scan works on two parts of a text separately if no occurrence runs over the
  border between them; `scan_append_clear` — and so on what stands around a clear block.
* `not_infix_scan` and `not_infix_scan_self` — what is detached from the replacement is not made by
  the scan, and the searched text itself is gone.
-/

namespace DeckPress.Text

variable {p q r l a b s t : Text}

/-- No occurrence of `p` runs over an end of `l`. -/
structure Clear (p l : Text) : Prop where
  left : ∀ x, x ≠ [] → x <:+ p → ¬ x <+: l
  right : ∀ x, x ≠ [] → x <+: p → ¬ x <:+ l
  around : ¬ l <:+: p

/-- No occurrence of `p` shares a character with `l`. -/
structure Detached (p l : Text) : Prop extends Clear p l where
  within : ¬ p <:+: l

/-- No occurrence of `p` runs over the border between `a` and `t`. -/
def Apart (p a t : Text) : Prop :=
  ∀ x y, x ≠ [] → y ≠ [] → p = x ++ y → x <:+ a → ¬ y <+: t

theorem clear_iff : Clear p l ↔
    (∀ x ∈ p.tails, x ≠ [] → ¬ x <+: l) ∧ (∀ x ∈ p.inits, x ≠ [] → ¬ x <:+ l) ∧ ¬ l <:+: p := by
  simp only [List.mem_tails, List.mem_inits]
  exact ⟨fun h => ⟨fun x hx h0 => h.left x h0 hx, fun x hx h0 => h.right x h0 hx, h.around⟩,
    fun h => ⟨fun x h0 hx => h.1 x hx h0, fun x h0 hx => h.2.1 x hx h0, h.2.2⟩⟩

instance : Decidable (Clear p l) := decidable_of_iff _ clear_iff.symm

instance : Decidable (Detached p l) :=
  decidable_of_iff (Clear p l ∧ ¬ p <:+: l) ⟨fun h => ⟨h.1, h.2⟩, fun h => ⟨h.1, h.2⟩⟩

theorem Detached.search_ne_nil (h : Detached p l) : p ≠ [] := by
  rintro rfl
  exact h.within List.nil_infix

/-- An occurrence that starts before a clear block does not reach it. -/
theorem Clear.apart_left (h : Clear p l) (a b : Text) : Apart p a (l ++ b) := by
  intro x y _ hy hp _ hyl
  have hsuf : y <:+ p := ⟨x, hp.symm⟩
  rcases List.prefix_or_prefix_of_prefix hyl (List.prefix_append l b) with h1 | h1
  · exact h.left y hy hsuf h1
  · exact h.around (h1.isInfix.trans hsuf.isInfix)

/-- An occurrence that starts in a clear block does not leave it. -/
theorem Clear.apart_right (h : Clear p l) (b : Text) : Apart p l b :=
  fun x y hx _ hp hxl _ => h.right x hx ⟨y, hp.symm⟩ hxl

/-! ## One step of the scan -/

theorem scan_drop (n : Nat) (s : Text) : scan p r n s = scan p r 0 (s.drop n) := by
  induction s generalizing n with
  | nil => cases n <;> simp [scan]
  | cons c s ih =>
    cases n with
    | zero => rfl
    | succ n => rw [scan, ih, List.drop_succ_cons]

theorem scan_nil : scan p r 0 [] = [] := by rw [scan]

theorem scan_found (hp : p ≠ []) (s : Text) : scan p r 0 (p ++ s) = r ++ scan p r 0 s := by
  obtain ⟨c, p, rfl⟩ := List.exists_cons_of_ne_nil hp
  rw [List.cons_append, scan, if_pos (by simp [List.isPrefixOf_iff_prefix]), scan_drop]
  simp

theorem scan_kept {c : Char} (h : ¬ p <+: c :: s) : scan p r 0 (c :: s) = c :: scan p r 0 s := by
  rw [scan, if_neg (by simpa [List.isPrefixOf_iff_prefix] using h)]

/-- Induction along the scan for a nonempty text. -/
theorem scan_induct {motive : Text → Prop} (hp : p ≠ []) (nil : motive [])
    (found : ∀ s, motive s → motive (p ++ s))
    (kept : ∀ c s, ¬ p <+: c :: s → motive s → motive (c :: s)) (s : Text) : motive s := by
  have hpos : 0 < p.length := List.length_pos_iff.mpr hp
  induction hn : s.length using Nat.strongRecOn generalizing s with
  | ind n ih =>
    cases s with
    | nil => exact nil
    | cons c s =>
      by_cases h : p <+: c :: s
      · obtain ⟨u, hu⟩ := h
        rw [← hu]
        refine found u (ih u.length ?_ u rfl)
        rw [← hn, ← hu, List.length_append]
        omega
      · exact kept c s h (ih s.length (by rw [← hn, List.length_cons]; omega) s rfl)

/-! ## Parts of a text -/

theorem Apart.of_cons {c : Char} (h : Apart p (c :: a) t) : Apart p a t :=
  fun x y hx hy hp hxa => h x y hx hy hp (hxa.trans (List.suffix_cons c a))

theorem Apart.of_append {u : Text} (h : Apart p (u ++ a) t) : Apart p a t :=
  fun x y hx hy hp hxa => h x y hx hy hp (hxa.trans (List.suffix_append u a))

/-- **The scan works on two parts of a text separately, if no occurrence runs over the border.** -/
theorem scan_append (hp : p ≠ []) (h : Apart p a t) :
    scan p r 0 (a ++ t) = scan p r 0 a ++ scan p r 0 t := by
  induction a using scan_induct hp with
  | nil => rw [scan_nil]; rfl
  | found s ih => rw [List.append_assoc, scan_found hp, scan_found hp, ih h.of_append,
      List.append_assoc]
  | kept c s hc ih =>
    have hct : ¬ p <+: c :: (s ++ t) := by
      intro h1
      rcases List.prefix_or_prefix_of_prefix h1 (List.prefix_append (c :: s) t) with h2 | ⟨y, rfl⟩
      · exact hc h2
      · refine h (c :: s) y (by simp) ?_ rfl (List.suffix_refl _)
          ((List.prefix_append_right_inj (c :: s)).mp h1)
        rintro rfl
        exact hc (by simp)
    rw [List.cons_append, scan_kept hct, scan_kept hc, ih h.of_cons, List.cons_append]

/-- A clear block separates what stands before it from what comes after. -/
theorem scan_append_clear (hp : p ≠ []) (h : Clear p l) (a b : Text) :
    scan p r 0 (a ++ l ++ b) = scan p r 0 a ++ scan p r 0 l ++ scan p r 0 b := by
  rw [List.append_assoc, scan_append hp (h.apart_left a b), scan_append hp (h.apart_right b),
    List.append_assoc]

theorem scan_of_not_infix (hp : p ≠ []) (h : ¬ p <:+: s) : scan p r 0 s = s := by
  induction s using scan_induct hp with
  | nil => exact scan_nil
  | found s _ => exact absurd (List.prefix_append p s).isInfix h
  | kept c s hc ih => rw [scan_kept hc, ih fun h1 => h (h1.trans (List.suffix_cons c s).isInfix)]

/-- Where the first occurrence stood, the result differs. -/
theorem scan_ne_self (hp : p ≠ []) (hr : r ≠ []) (hpr : p.head? ≠ r.head?) (h : p <:+: s) :
    scan p r 0 s ≠ s := by
  induction s using scan_induct hp with
  | nil => exact absurd (List.infix_nil.mp h) hp
  | found s _ =>
    rw [scan_found hp]
    intro he
    have := congrArg List.head? he
    rw [List.head?_append_of_ne_nil _ hr, List.head?_append_of_ne_nil _ hp] at this
    exact hpr this.symm
  | kept c s hc ih =>
    rw [scan_kept hc]
    intro he
    rcases List.infix_cons_iff.mp h with h1 | h1
    · exact hc h1
    · exact ih h1 (List.cons.inj he).2

/-! ## What the scan cannot make -/

/-- A part of `q` with which the result starts was there before. -/
theorem prefix_of_prefix_scan (hp : p ≠ []) (hq : Clear q r) {x : Text} (hx : x <:+ q)
    (h : x <+: scan p r 0 s) : x <+: s := by
  induction s using scan_induct hp generalizing x with
  | nil => rwa [scan_nil] at h
  | found s _ =>
    rw [scan_found hp] at h
    cases x with
    | nil => exact List.nil_prefix
    | cons d x =>
      rcases List.prefix_or_prefix_of_prefix h (List.prefix_append r _) with h1 | h1
      · exact absurd h1 (hq.left _ (by simp) hx)
      · exact absurd (h1.isInfix.trans hx.isInfix) hq.around
  | kept c s hc ih =>
    rw [scan_kept hc] at h
    cases x with
    | nil => exact List.nil_prefix
    | cons d x =>
      obtain ⟨rfl, h1⟩ := List.cons_prefix_cons.mp h
      exact List.cons_prefix_cons.mpr ⟨rfl, ih ((List.suffix_cons d x).trans hx) h1⟩

/-- A text that is detached from the replacement occurs in the result only where it occurred at a
character that was kept. -/
theorem not_infix_scan_of_kept (hp : p ≠ []) (hq : Detached q r)
    (h : ∀ c u, c :: u <:+ s → ¬ p <+: c :: u → ¬ q <+: c :: u) : ¬ q <:+: scan p r 0 s := by
  have hq0 := hq.search_ne_nil
  induction s using scan_induct hp with
  | nil => rw [scan_nil, List.infix_nil]; exact hq0
  | found s ih =>
    have ih := ih fun c u hu => h c u (hu.trans (List.suffix_append p s))
    rw [scan_found hp, List.infix_append_iff_ne_nil]
    rintro (h1 | h1 | ⟨x, y, hx, _, rfl, hxr, -⟩)
    · exact hq.within h1
    · exact ih h1
    · exact hq.right x hx (List.prefix_append x y) hxr
  | kept c s hc ih =>
    have ih := ih fun d u hu => h d u (hu.trans (List.suffix_cons c s))
    rw [scan_kept hc, List.infix_cons_iff]
    rintro (h1 | h1)
    · obtain ⟨d, q, rfl⟩ := List.exists_cons_of_ne_nil hq0
      obtain ⟨rfl, h2⟩ := List.cons_prefix_cons.mp h1
      have h3 := prefix_of_prefix_scan hp hq.toClear (List.suffix_cons d q) h2
      exact h d s (List.suffix_refl _) hc (List.cons_prefix_cons.mpr ⟨rfl, h3⟩)
    · exact ih h1

theorem not_infix_scan (hp : p ≠ []) (hq : Detached q r) (h : ¬ q <:+: s) :
    ¬ q <:+: scan p r 0 s :=
  not_infix_scan_of_kept hp hq fun _ _ hu _ h1 => h (h1.isInfix.trans hu.isInfix)

theorem not_infix_scan_self (hp : Detached p r) (s : Text) : ¬ p <:+: scan p r 0 s :=
  not_infix_scan_of_kept hp.search_ne_nil hp fun _ _ _ h => h

/-- A text that is detached from a block occurs only before or behind it. -/
theorem not_infix_around (hq : Detached q l) (ha : ¬ q <:+: a) (hb : ¬ q <:+: b) :
    ¬ q <:+: a ++ l ++ b := by
  rw [List.append_assoc]
  intro h
  rcases List.infix_append_iff_ne_nil.mp h with h1 | h1 | ⟨x, y, hx, hy, rfl, hxa, hyl⟩
  · exact ha h1
  · rcases List.infix_append_iff_ne_nil.mp h1 with h2 | h2 | ⟨x, y, hx, _, rfl, hxl, _⟩
    · exact hq.within h2
    · exact hb h2
    · exact hq.right x hx (List.prefix_append x y) hxl
  · exact hq.apart_left a b x y hx hy rfl hxa hyl

/-! ## Replacement -/

theorem replace_eq_scan (hp : p ≠ []) : replace p r s = scan p r 0 s := by
  simp [replace, hp]

end DeckPress.Text
