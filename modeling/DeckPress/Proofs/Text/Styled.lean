import DeckPress.Text.Styled

/-!
# Taking colours out of texts

A text without an escape is kept when codes are taken out, and so is what stands between codes.

* `plainAfter_append` — before the first escape all is kept.
* `plainAfter_code` — a code is taken out, whatever follows it.
* `plain_coloured` — the colours are taken out again.
-/

namespace DeckPress.Styled

variable {s t digits : Text} {c : Char}

/-- Where there is no escape there is no code. -/
theorem codeLength?_of_ne (hc : c ≠ '\x1b') : codeLength? (c :: s) = none := by
  rw [codeLength?]
  rintro _ he
  exact hc (List.cons.inj he).1

theorem plainAfter_append (hs : '\x1b' ∉ s) (t : Text) :
    plainAfter 0 (s ++ t) = s ++ plainAfter 0 t := by
  induction s with
  | nil => rfl
  | cons c s ih =>
    rw [List.mem_cons, not_or] at hs
    rw [List.cons_append, plainAfter, codeLength?_of_ne (Ne.symm hs.1), ih hs.2, List.cons_append]

theorem plainAfter_length (s t : Text) : plainAfter s.length (s ++ t) = plainAfter 0 t := by
  induction s with
  | nil => rfl
  | cons c s ih => exact ih

/-- The code that is written with the given digits. -/
def code (digits : Text) : Text := '\x1b' :: '[' :: (digits ++ ['m'])

/-- A code is taken out, whatever follows it. -/
theorem plainAfter_code (hdigits : digits.all isParameter = true) (t : Text) :
    plainAfter 0 (code digits ++ t) = plainAfter 0 t := by
  have hsplit : code digits ++ t = '\x1b' :: '[' :: (digits ++ 'm' :: t) := by simp [code]
  have hrun : (digits ++ 'm' :: t).takeWhile isParameter = digits := by
    rw [List.takeWhile_append_of_pos (List.all_eq_true.mp hdigits),
      List.takeWhile_cons_of_neg (by decide), List.append_nil]
  have hlength : codeLength? (code digits ++ t) = some (code digits).length := by
    rw [hsplit, codeLength?, hrun, List.drop_left]
    simp [code]
  rw [hsplit] at hlength ⊢
  rw [plainAfter, hlength]
  have hafter := plainAfter_length ('[' :: (digits ++ ['m'])) t
  simpa [code] using hafter

theorem plain_of_free {s : String} (hs : '\x1b' ∉ s.toList) : plain s = s := by
  have h := plainAfter_append hs []
  rw [List.append_nil, plainAfter, List.append_nil] at h
  rw [plain, h, String.ofList_toList]

/-- A text in colours stands between codes. -/
theorem toList_coloured (colour : Colour) (isBold : Bool) (s : String) :
    (coloured colour isBold s).toList = code (toString colour.code).toList ++
      ((if isBold then code ['1'] else []) ++ (s.toList ++ (code ['0'] ++ []))) := by
  have hstart : (toString "\x1b[").toList = ['\x1b', '['] := rfl
  have hend : (toString "m").toList = ['m'] := rfl
  cases isBold <;> simp [coloured, code, String.toList_append, hstart, hend]

/-- The colours of a text are taken out again. -/
theorem plain_coloured (colour : Colour) (isBold : Bool) {s : String} (hs : '\x1b' ∉ s.toList) :
    plain (coloured colour isBold s) = s := by
  have hcolour : (toString colour.code).toList.all isParameter = true := by
    cases colour <;> decide
  have hbold : ∀ t, plainAfter 0 ((if isBold then code ['1'] else []) ++ t) = plainAfter 0 t := by
    intro t
    cases isBold with
    | false => rfl
    | true => exact plainAfter_code (by decide) t
  rw [plain, toList_coloured, plainAfter_code hcolour, hbold, plainAfter_append hs,
    plainAfter_code (by decide), plainAfter, List.append_nil, String.ofList_toList]

end DeckPress.Styled
