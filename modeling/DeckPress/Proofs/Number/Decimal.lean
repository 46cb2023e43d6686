import DeckPress.Number.Literal
import Mathlib.Tactic.SplitIfs

/-!
# Decimal numerals read back

A whole number that can be written in decimal digits is read back as it was.  What has too many
digits to be written is not read either.

* `digitRun_digits`, `ofDigits_values` — a run of digits is read to its end, and for its number.
* `numeral` — the characters that write a number; `whole_numeral` — they are read for it.
* `whole_of_decimal`, `whole_of_not_decimal` — reading has the limit that writing has.
-/

namespace DeckPress.Literal

variable {c : Char} {cs : List Char} {m : Nat} {n : Int} {text quoted : String} {e : NumberError}

/-! ## Digits -/

/-- What a decimal digit counts. -/
def valueOf (c : Char) : Nat := c.toNat - '0'.toNat

theorem digit?_of_isDigit (hc : c.isDigit = true) : digit? 10 c = some (valueOf c) := by
  rw [Char.isDigit_iff_toNat] at hc
  have hvalue : Text.digitValue? c = some (valueOf c) := by
    have hfirst : Text.digitZeros.toList.head? = some '0'.toNat := rfl
    obtain ⟨zeros, hzeros⟩ := List.head?_eq_some_iff.mp hfirst
    have hfind : Text.digitZeros.find? (fun z => z ≤ c.toNat && c.toNat < z + 10) =
        some '0'.toNat := by
      rw [← Array.find?_toList, hzeros]
      refine List.find?_cons_of_pos ?_
      have hnine : '9'.toNat = '0'.toNat + 9 := rfl
      simp only [Bool.and_eq_true, decide_eq_true_eq]
      omega
    rw [Text.digitValue?, hfind]
    rfl
  have hlt : valueOf c < 10 := by
    have hnine : '9'.toNat = '0'.toNat + 9 := rfl
    rw [valueOf]
    omega
  rw [digit?, hvalue]
  exact Option.filter_eq_some_iff.mpr ⟨rfl, decide_eq_true hlt⟩

/-- A run of digits is read to its end. -/
theorem digitRun_digits (hcs : ∀ c ∈ cs, c.isDigit = true) :
    digitRun 10 cs = some (cs.map valueOf, []) := by
  have hrun : ∀ before, before ≠ .underscore →
      digitRunAfter 10 before cs = some (cs.map valueOf, []) := by
    induction cs with
    | nil =>
      intro before hbefore
      rw [digitRunAfter, if_neg hbefore]
      rfl
    | cons c cs ih =>
      intro before _
      rw [List.forall_mem_cons] at hcs
      rw [digitRunAfter, digit?_of_isDigit hcs.1]
      simp only [ih hcs.2 .digit (by decide)]
      rfl
  exact hrun .nothing (by decide)

theorem ofDigits_values (cs : List Char) :
    ofDigits 10 (cs.map valueOf) = Nat.ofDigitChars 10 cs 0 := by
  rw [ofDigits, List.foldl_map, Nat.ofDigitChars]
  simp only [Nat.mul_comm, valueOf]

/-! ## Blanks -/

theorem not_isBlank_of_isDigit (hc : c.isDigit = true) : Text.isBlank c = false := by
  rw [Char.isDigit_iff_toNat] at hc
  have hzero : '0'.toNat = 48 := rfl
  have hnine : '9'.toNat = 57 := rfl
  have hspace : Text.isSpace c = false := by
    simp only [Text.isSpace, Bool.or_eq_false_iff, Bool.and_eq_false_iff, decide_eq_false_iff_not,
      beq_eq_false_iff_ne]
    omega
  rw [Text.isBlank, hspace, Bool.false_and]

theorem dropWhile_isBlank (hcs : ∀ c ∈ cs, Text.isBlank c = false) :
    cs.dropWhile Text.isBlank = cs := by
  cases cs with
  | nil => rfl
  | cons c cs =>
    refine List.dropWhile_cons_of_neg ?_
    rw [hcs c List.mem_cons_self]
    decide

/-- A text without blanks is left as it is. -/
theorem trimBlanks_of_free (hcs : ∀ c ∈ cs, Text.isBlank c = false) : Text.trimBlanks cs = cs := by
  rw [Text.trimBlanks, dropWhile_isBlank hcs, dropWhile_isBlank, List.reverse_reverse]
  exact fun c hc => hcs c (List.mem_reverse.mp hc)

/-! ## Numerals -/

/-- The characters of a numeral: a sign, if the number is negative, and its digits. -/
def numeral (negative : Bool) (m : Nat) : List Char :=
  (if negative then ['-'] else []) ++ Nat.toDigits 10 m

theorem isDigit_toDigits (m : Nat) : ∀ c ∈ Nat.toDigits 10 m, c.isDigit = true :=
  fun _ hc => Nat.isDigit_of_mem_toDigits (by decide) (by decide) hc

theorem sign_numeral (negative : Bool) (m : Nat) :
    sign (Text.trimBlanks (numeral negative m)) = (negative, Nat.toDigits 10 m) := by
  have hfree : ∀ c ∈ numeral negative m, Text.isBlank c = false := by
    intro c hc
    rw [numeral, List.mem_append] at hc
    rcases hc with hc | hc
    · cases negative with
      | true =>
        rw [if_pos rfl, List.mem_singleton] at hc
        subst hc
        decide
      | false => cases hc
    · exact not_isBlank_of_isDigit (isDigit_toDigits m c hc)
  rw [trimBlanks_of_free hfree, numeral]
  cases negative with
  | true => rfl
  | false =>
    obtain ⟨d, ds, hds⟩ := List.exists_cons_of_ne_nil (Nat.toDigits_ne_nil (n := m) (b := 10))
    have hd : d.isDigit = true := isDigit_toDigits m d (hds ▸ List.mem_cons_self)
    rw [hds]
    -- A digit is none of the signs.
    show sign (d :: ds) = _
    rw [sign]
    · rintro _ ⟨⟩
      exact absurd hd (by decide)
    · rintro _ ⟨⟩
      exact absurd hd (by decide)

/-- A sign and the digits of a number are read for the number, if there are not too many digits. -/
theorem whole_numeral (negative : Bool) (m : Nat) (quoted : String) :
    whole 10 quoted (numeral negative m) =
      if digitLimit < (Nat.toDigits 10 m).length then
        .error (.tooManyDigits (Nat.toDigits 10 m).length)
      else .ok (if negative then -(m : Int) else m) := by
  have hrun : digitRun 10 (dropMark 10 (Nat.toDigits 10 m)) =
      some ((Nat.toDigits 10 m).map valueOf, []) := by
    have hmark : dropMark 10 (Nat.toDigits 10 m) = Nat.toDigits 10 m := by
      rw [dropMark]
      rintro _ _ _ - ⟨⟩
    rw [hmark]
    exact digitRun_digits (isDigit_toDigits m)
  have hempty : ((Nat.toDigits 10 m).map valueOf).isEmpty = false := by
    rw [List.isEmpty_map, List.isEmpty_eq_false_iff]
    exact Nat.toDigits_ne_nil
  have hnumber : ofDigits 10 ((Nat.toDigits 10 m).map valueOf) = m := by
    rw [ofDigits_values, Nat.ofDigitChars_ten_toDigits]
  rw [whole, sign_numeral]
  simp only [hrun, hempty, hnumber, List.length_map]
  by_cases hlong : digitLimit < (Nat.toDigits 10 m).length
  · simp [hlong, markOf, bind, Except.bind, throw, throwThe, MonadExceptOf.throw]
  · simp [hlong, markOf, pure, Except.pure]

theorem toList_toString (n : Int) : (toString n).toList = numeral (n < 0) n.natAbs := by
  show n.repr.toList = _
  rw [Int.repr_eq_if]
  split_ifs with hn
  · have hnat : n.toNat = n.natAbs := by omega
    rw [decide_eq_false (by omega), hnat, Nat.toList_repr]
    rfl
  · have hnat : (-n).toNat = n.natAbs := by omega
    rw [decide_eq_true (by omega), hnat, String.toList_append, Nat.toList_repr]
    rfl

theorem length_toDigits_le {limit : Nat} (hlimit : 0 < limit) :
    (Nat.toDigits 10 m).length ≤ limit ↔ m < Nat.pow 10 limit :=
  Nat.length_toDigits_le_iff (by decide) hlimit

theorem whole_toString (n : Int) (quoted : String) : whole 10 quoted (toString n).toList =
    if n.natAbs < Nat.pow 10 digitLimit then .ok n
    else .error (.tooManyDigits (Nat.toDigits 10 n.natAbs).length) := by
  have hn : (if decide (n < 0) = true then -(n.natAbs : Int) else n.natAbs) = n := by
    split_ifs with hneg
    · rw [decide_eq_true_eq] at hneg
      omega
    · rw [decide_eq_true_eq] at hneg
      omega
  have hlength := length_toDigits_le (m := n.natAbs) (show 0 < digitLimit by decide)
  rw [toList_toString, whole_numeral, hn]
  by_cases hlimit : n.natAbs < Nat.pow 10 digitLimit
  · rw [if_pos hlimit, if_neg (Nat.not_lt.mpr (hlength.mpr hlimit))]
  · rw [if_neg hlimit, if_pos (Nat.lt_of_not_le (mt hlength.mp hlimit))]

/-- A number that can be written is read back. -/
theorem whole_of_decimal (htext : decimal n = .ok text) (quoted : String) :
    whole 10 quoted text.toList = .ok n := by
  rw [decimal] at htext
  split_ifs at htext with hlimit
  cases htext
  rw [whole_toString, if_pos (Nat.lt_of_not_le hlimit)]

/-- The digits of a number that has too many of them to be written are not read. -/
theorem whole_of_not_decimal (htext : decimal n = .error e) (quoted : String) :
    ∃ count, whole 10 quoted (toString n).toList = .error (.tooManyDigits count) := by
  rw [decimal] at htext
  split_ifs at htext with hlimit
  exact ⟨_, by rw [whole_toString, if_neg (Nat.not_lt.mpr hlimit)]⟩

end DeckPress.Literal
