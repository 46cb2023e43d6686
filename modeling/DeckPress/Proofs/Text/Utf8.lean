import DeckPress.Text.Utf8
import Mathlib.Data.List.Basic

/-!
# UTF-8 there and back

Decoding and encoding are inverse to each other: every text is read back from its bytes, and bytes
that can be read are those of the text that is read from them.

* `decode_encode` — a text is read back from its bytes.
* `decode_eq_ok` — bytes are read as a text just if they are the bytes of that text.
* `toNat_of_mem_utf8EncodeChar` — a byte of ASCII writes only the character that it stands for.
-/

namespace DeckPress.Utf8

variable {c : Char} {t : Text} {bytes : List UInt8} {b b₀ b₁ b₂ b₃ : UInt8} {n pos : Nat}

/-! ## Bytes -/

theorem toNat_ofNat_of_lt (h : n < 256) : (UInt8.ofNat n).toNat = n := by
  rw [UInt8.toNat_ofNat']
  omega

theorem ofNat_eq (h : n = b.toNat) : UInt8.ofNat n = b := by
  rw [h, UInt8.ofNat_toNat]

theorem isContinuation_iff : isContinuation b = true ↔ 0x80 ≤ b.toNat ∧ b.toNat < 0xC0 := by
  simp [isContinuation, UInt8.le_iff_toNat_le, UInt8.lt_iff_toNat_lt]

theorem isContinuation_ofNat (n : Nat) : isContinuation (UInt8.ofNat (n % 64 + 0x80)) = true := by
  rw [isContinuation_iff, UInt8.toNat_ofNat']
  omega

theorem payload_ofNat (n : Nat) : payload (UInt8.ofNat (n % 64 + 0x80)) = n % 64 := by
  rw [payload, UInt8.toNat_ofNat']
  omega

theorem mayFollow_iff : mayFollow b₀ b₁ = true ↔ isContinuation b₁ = true ∧
    (b₀.toNat = 0xE0 → 0xA0 ≤ b₁.toNat) ∧ (b₀.toNat = 0xED → b₁.toNat < 0xA0) ∧
    (b₀.toNat = 0xF0 → 0x90 ≤ b₁.toNat) ∧ (b₀.toNat = 0xF4 → b₁.toNat < 0x90) := by
  have heq : ∀ a : UInt8, b₀ = a ↔ b₀.toNat = a.toNat := fun a => UInt8.toNat_inj.symm
  simp [mayFollow, UInt8.le_iff_toNat_le, UInt8.lt_iff_toNat_lt, heq, and_assoc, imp_iff_not_or]

/-! ## From texts to bytes -/

theorem decodeFrom_one (h : b₀.toNat < 0x80) :
    decodeFrom pos (b₀ :: bytes) =
      (decodeFrom (pos + 1) bytes).map (Char.ofNat b₀.toNat :: ·) := by
  have h0 : b₀ < 0x80 := by simpa [UInt8.lt_iff_toNat_lt] using h
  rw [decodeFrom.eq_def]; simp only [if_pos h0]

theorem decodeFrom_two (h : 0xC2 ≤ b₀.toNat ∧ b₀.toNat < 0xE0) (h₁ : isContinuation b₁ = true) :
    decodeFrom pos (b₀ :: b₁ :: bytes) =
      (decodeFrom (pos + 2) bytes).map
        (Char.ofNat (b₀.toNat % 32 * 64 + payload b₁) :: ·) := by
  have h1 : ¬ b₀ < 0x80 := by simp [UInt8.lt_iff_toNat_lt]; omega
  have h2 : ¬ (b₀ < 0xC2 || 0xF4 < b₀) = true := by simp [UInt8.lt_iff_toNat_lt]; omega
  have h3 : b₀ < 0xE0 := by simp [UInt8.lt_iff_toNat_lt]; omega
  rw [decodeFrom.eq_def]
  simp [h1, h2, h3, h₁]

theorem decodeFrom_three (h : 0xE0 ≤ b₀.toNat ∧ b₀.toNat < 0xF0) (h₁ : mayFollow b₀ b₁ = true)
    (h₂ : isContinuation b₂ = true) :
    decodeFrom pos (b₀ :: b₁ :: b₂ :: bytes) =
      (decodeFrom (pos + 3) bytes).map
        (Char.ofNat (b₀.toNat % 16 * 4096 + payload b₁ * 64 + payload b₂) :: ·) := by
  have h1 : ¬ b₀ < 0x80 := by simp [UInt8.lt_iff_toNat_lt]; omega
  have h2 : ¬ (b₀ < 0xC2 || 0xF4 < b₀) = true := by simp [UInt8.lt_iff_toNat_lt]; omega
  have h3 : ¬ b₀ < 0xE0 := by simp [UInt8.lt_iff_toNat_lt]; omega
  have h4 : b₀ < 0xF0 := by simp [UInt8.lt_iff_toNat_lt]; omega
  rw [decodeFrom.eq_def]
  simp [h1, h2, h3, h4, h₁, h₂]

theorem decodeFrom_four (h : 0xF0 ≤ b₀.toNat ∧ b₀.toNat < 0xF5) (h₁ : mayFollow b₀ b₁ = true)
    (h₂ : isContinuation b₂ = true) (h₃ : isContinuation b₃ = true) :
    decodeFrom pos (b₀ :: b₁ :: b₂ :: b₃ :: bytes) =
      (decodeFrom (pos + 4) bytes).map
        (Char.ofNat (b₀.toNat % 8 * 262144 + payload b₁ * 4096 + payload b₂ * 64 +
          payload b₃) :: ·) := by
  have h1 : ¬ b₀ < 0x80 := by simp [UInt8.lt_iff_toNat_lt]; omega
  have h2 : ¬ (b₀ < 0xC2 || 0xF4 < b₀) = true := by simp [UInt8.lt_iff_toNat_lt]; omega
  have h3 : ¬ b₀ < 0xE0 := by simp [UInt8.lt_iff_toNat_lt]; omega
  have h4 : ¬ b₀ < 0xF0 := by simp [UInt8.lt_iff_toNat_lt]; omega
  rw [decodeFrom.eq_def]
  simp [h1, h2, h3, h4, h₁, h₂, h₃]

/-- The first character of a text is read from its bytes. -/
theorem decodeFrom_utf8EncodeChar_append (c : Char) (bytes : List UInt8) (pos : Nat) :
    decodeFrom pos (String.utf8EncodeChar c ++ bytes) =
      (decodeFrom (pos + (String.utf8EncodeChar c).length) bytes).map (c :: ·) := by
  have hvalid : c.toNat.isValidChar := c.valid
  have hc : Char.ofNat c.toNat = c := Char.ofNat_toNat c
  rw [String.utf8EncodeChar, Char.toNat_val]
  generalize c.toNat = v at hvalid hc
  -- One case for each number of bytes; the bits of the bytes make up the number of the character.
  rw [Nat.isValidChar] at hvalid
  split
  · rename_i h1
    have h0 : (UInt8.ofNat v).toNat = v := toNat_ofNat_of_lt (by omega)
    rw [List.singleton_append, decodeFrom_one (by omega), h0, hc]
    rfl
  · split
    · have h0 : (UInt8.ofNat (v / 64 % 32 + 0xC0)).toNat = v / 64 % 32 + 0xC0 :=
        toNat_ofNat_of_lt (by omega)
      have hv : (v / 64 % 32 + 0xC0) % 32 * 64 + v % 64 = v := by omega
      rw [List.cons_append, List.singleton_append,
        decodeFrom_two (by omega) (isContinuation_ofNat _), h0, payload_ofNat, hv, hc]
      rfl
    · split
      · have h0 : (UInt8.ofNat (v / 4096 % 16 + 0xE0)).toNat = v / 4096 % 16 + 0xE0 :=
          toNat_ofNat_of_lt (by omega)
        have h1 : (UInt8.ofNat (v / 64 % 64 + 0x80)).toNat = v / 64 % 64 + 0x80 :=
          toNat_ofNat_of_lt (by omega)
        have hfollow : mayFollow (UInt8.ofNat (v / 4096 % 16 + 0xE0))
            (UInt8.ofNat (v / 64 % 64 + 0x80)) = true := by
          rw [mayFollow_iff, h0, h1]
          exact ⟨isContinuation_ofNat _, by omega, by omega, by omega, by omega⟩
        have hv : (v / 4096 % 16 + 0xE0) % 16 * 4096 + v / 64 % 64 * 64 + v % 64 = v := by omega
        rw [List.cons_append, List.cons_append, List.singleton_append,
          decodeFrom_three (by omega) hfollow (isContinuation_ofNat _), h0, payload_ofNat,
          payload_ofNat, hv, hc]
        rfl
      · have h0 : (UInt8.ofNat (v / 262144 % 8 + 0xF0)).toNat = v / 262144 % 8 + 0xF0 :=
          toNat_ofNat_of_lt (by omega)
        have h1 : (UInt8.ofNat (v / 4096 % 64 + 0x80)).toNat = v / 4096 % 64 + 0x80 :=
          toNat_ofNat_of_lt (by omega)
        have hfollow : mayFollow (UInt8.ofNat (v / 262144 % 8 + 0xF0))
            (UInt8.ofNat (v / 4096 % 64 + 0x80)) = true := by
          rw [mayFollow_iff, h0, h1]
          exact ⟨isContinuation_ofNat _, by omega, by omega, by omega, by omega⟩
        have hv : (v / 262144 % 8 + 0xF0) % 8 * 262144 + v / 4096 % 64 * 4096 +
            v / 64 % 64 * 64 + v % 64 = v := by omega
        rw [List.cons_append, List.cons_append, List.cons_append, List.singleton_append,
          decodeFrom_four (by omega) hfollow (isContinuation_ofNat _) (isContinuation_ofNat _), h0,
          payload_ofNat, payload_ofNat, payload_ofNat, hv, hc]
        rfl

theorem decodeFrom_encode (t : Text) (pos : Nat) : decodeFrom pos (encode t) = .ok t := by
  induction t generalizing pos with
  | nil => rfl
  | cons c t ih =>
    have hcons : encode (c :: t) = String.utf8EncodeChar c ++ encode t := rfl
    rw [hcons, decodeFrom_utf8EncodeChar_append, ih]
    rfl

/-- **A text is read back from its bytes.** -/
@[simp] theorem decode_encode (t : Text) : decode (encode t) = .ok t := by
  rw [decode, decodeFrom_encode]

/-! ## From bytes to texts -/

theorem utf8EncodeChar_ofNat (h : n.isValidChar) : String.utf8EncodeChar (Char.ofNat n) =
    if n ≤ 0x7F then [UInt8.ofNat n]
    else if n ≤ 0x7FF then [UInt8.ofNat (n / 64 % 32 + 0xC0), UInt8.ofNat (n % 64 + 0x80)]
    else if n ≤ 0xFFFF then
      [UInt8.ofNat (n / 4096 % 16 + 0xE0), UInt8.ofNat (n / 64 % 64 + 0x80),
        UInt8.ofNat (n % 64 + 0x80)]
    else
      [UInt8.ofNat (n / 262144 % 8 + 0xF0), UInt8.ofNat (n / 4096 % 64 + 0x80),
        UInt8.ofNat (n / 64 % 64 + 0x80), UInt8.ofNat (n % 64 + 0x80)] := by
  have hn : (Char.ofNat n).val.toNat = n := by
    rw [Char.ofNat, dif_pos h]
    rfl
  rw [String.utf8EncodeChar, hn]

theorem encode_of_one (h : b₀.toNat < 0x80) :
    String.utf8EncodeChar (Char.ofNat b₀.toNat) = [b₀] := by
  rw [utf8EncodeChar_ofNat (.inl (by omega)), if_pos (by omega), UInt8.ofNat_toNat]

theorem encode_of_two (h : 0xC2 ≤ b₀.toNat ∧ b₀.toNat < 0xE0) (h₁ : isContinuation b₁ = true) :
    String.utf8EncodeChar (Char.ofNat (b₀.toNat % 32 * 64 + payload b₁)) = [b₀, b₁] := by
  rw [isContinuation_iff] at h₁
  simp only [payload]
  rw [utf8EncodeChar_ofNat (.inl (by omega)), if_neg (by omega), if_pos (by omega),
    ofNat_eq (b := b₀) (by omega), ofNat_eq (b := b₁) (by omega)]

theorem encode_of_three (h : 0xE0 ≤ b₀.toNat ∧ b₀.toNat < 0xF0) (h₁ : mayFollow b₀ b₁ = true)
    (h₂ : isContinuation b₂ = true) :
    String.utf8EncodeChar (Char.ofNat (b₀.toNat % 16 * 4096 + payload b₁ * 64 + payload b₂)) =
      [b₀, b₁, b₂] := by
  rw [mayFollow_iff, isContinuation_iff] at h₁
  rw [isContinuation_iff] at h₂
  simp only [payload]
  rw [utf8EncodeChar_ofNat (by rw [Nat.isValidChar]; omega), if_neg (by omega), if_neg (by omega),
    if_pos (by omega), ofNat_eq (b := b₀) (by omega), ofNat_eq (b := b₁) (by omega),
    ofNat_eq (b := b₂) (by omega)]

theorem encode_of_four (h : 0xF0 ≤ b₀.toNat ∧ b₀.toNat < 0xF5) (h₁ : mayFollow b₀ b₁ = true)
    (h₂ : isContinuation b₂ = true) (h₃ : isContinuation b₃ = true) :
    String.utf8EncodeChar (Char.ofNat (b₀.toNat % 8 * 262144 + payload b₁ * 4096 +
      payload b₂ * 64 + payload b₃)) = [b₀, b₁, b₂, b₃] := by
  rw [mayFollow_iff, isContinuation_iff] at h₁
  rw [isContinuation_iff] at h₂ h₃
  simp only [payload]
  rw [utf8EncodeChar_ofNat (by rw [Nat.isValidChar]; omega), if_neg (by omega), if_neg (by omega),
    if_neg (by omega), ofNat_eq (b := b₀) (by omega), ofNat_eq (b := b₁) (by omega),
    ofNat_eq (b := b₂) (by omega), ofNat_eq (b := b₃) (by omega)]

theorem map_cons_eq_ok {r : Except Fault Text} (h : r.map (c :: ·) = .ok t) :
    ∃ s, r = .ok s ∧ t = c :: s := by
  cases r with
  | error f => cases h
  | ok s =>
    cases h
    exact ⟨s, rfl, rfl⟩

/-- Bytes that are read as a text are the bytes of that text. -/
theorem encode_of_decodeFrom (h : decodeFrom pos bytes = .ok t) : encode t = bytes := by
  have hcons : ∀ c t, encode (c :: t) = String.utf8EncodeChar c ++ encode t := fun _ _ => rfl
  have hlow : ∀ b : UInt8, ¬ (decide (b < 0xC2) || decide (0xF4 < b)) = true →
      0xC2 ≤ b.toNat ∧ b.toNat < 0xF5 := fun b hb => by
    simp [UInt8.lt_iff_toNat_lt] at hb
    omega
  fun_induction decodeFrom pos bytes generalizing t with
  | case1 =>
    cases h
    rfl
  | case2 pos b₀ s₀ h0 ih =>
    obtain ⟨t, ht, rfl⟩ := map_cons_eq_ok h
    rw [hcons, ih ht, encode_of_one (by simpa [UInt8.lt_iff_toNat_lt] using h0)]
    rfl
  | case5 pos b₀ _ hb b₁ s₁ h0 h1 ih =>
    obtain ⟨t, ht, rfl⟩ := map_cons_eq_ok h
    have h0 : b₀.toNat < 0xE0 := by simpa [UInt8.lt_iff_toNat_lt] using h0
    rw [hcons, ih ht, encode_of_two ⟨(hlow b₀ hb).1, h0⟩ h1]
    rfl
  | case10 pos b₀ _ hb b₁ h0 h1 b₂ s₂ h2 h3 ih =>
    obtain ⟨t, ht, rfl⟩ := map_cons_eq_ok h
    have h0 : 0xE0 ≤ b₀.toNat := by simpa [UInt8.lt_iff_toNat_lt] using h0
    have h3 : b₀.toNat < 0xF0 := by simpa [UInt8.lt_iff_toNat_lt] using h3
    rw [hcons, ih ht, encode_of_three ⟨h0, h3⟩ (by simpa using h1) (by simpa using h2)]
    rfl
  | case13 pos b₀ _ hb b₁ h0 h1 b₂ h2 h3 b₃ s₃ h4 ih =>
    obtain ⟨t, ht, rfl⟩ := map_cons_eq_ok h
    have h3 : 0xF0 ≤ b₀.toNat := by simpa [UInt8.lt_iff_toNat_lt] using h3
    rw [hcons, ih ht, encode_of_four ⟨h3, (hlow b₀ hb).2⟩ (by simpa using h1) (by simpa using h2)
      (by simpa using h4)]
    rfl
  | case3 | case4 | case6 | case7 | case8 | case9 | case11 | case12 => cases h

/-- **Bytes that can be read are those of the text that is read from them.** -/
theorem decode_eq_ok : decode bytes = .ok t ↔ bytes = encode t := by
  constructor
  · intro h
    rw [decode] at h
    split at h
    · cases h
      exact (encode_of_decodeFrom ‹_›).symm
    · cases h
  · rintro rfl
    exact decode_encode t

/-! ## Characters of one byte -/

/-- A character that is written with a byte of ASCII is the character of that byte. -/
theorem toNat_of_mem_utf8EncodeChar (hb : b ∈ String.utf8EncodeChar c) (h : b.toNat < 0x80) :
    c.toNat = b.toNat := by
  have hlater : ∀ n, (UInt8.ofNat (n % 64 + 0x80)).toNat = n % 64 + 0x80 :=
    fun n => toNat_ofNat_of_lt (by omega)
  rw [String.utf8EncodeChar, Char.toNat_val] at hb
  split at hb
  · rw [List.mem_singleton.mp hb, toNat_ofNat_of_lt (by omega)]
  -- All the bytes of a longer character are above those of ASCII.
  · exfalso
    split at hb
    · have h0 : (UInt8.ofNat (c.toNat / 64 % 32 + 0xC0)).toNat = c.toNat / 64 % 32 + 0xC0 :=
        toNat_ofNat_of_lt (by omega)
      simp only [List.mem_cons, List.not_mem_nil, or_false] at hb
      rcases hb with rfl | rfl <;> simp only [h0, hlater] at h <;> omega
    · split at hb
      · have h0 : (UInt8.ofNat (c.toNat / 4096 % 16 + 0xE0)).toNat = c.toNat / 4096 % 16 + 0xE0 :=
          toNat_ofNat_of_lt (by omega)
        simp only [List.mem_cons, List.not_mem_nil, or_false] at hb
        rcases hb with rfl | rfl | rfl <;> simp only [h0, hlater] at h <;> omega
      · have h0 : (UInt8.ofNat (c.toNat / 262144 % 8 + 0xF0)).toNat =
            c.toNat / 262144 % 8 + 0xF0 := toNat_ofNat_of_lt (by omega)
        simp only [List.mem_cons, List.not_mem_nil, or_false] at hb
        rcases hb with rfl | rfl | rfl | rfl <;> simp only [h0, hlater] at h <;> omega

/-- A character of ASCII is its only byte. -/
theorem utf8EncodeChar_ascii (h : c.toNat < 0x80) :
    String.utf8EncodeChar c = [UInt8.ofNat c.toNat] := by
  rw [String.utf8EncodeChar, Char.toNat_val, if_pos (by omega)]

end DeckPress.Utf8
