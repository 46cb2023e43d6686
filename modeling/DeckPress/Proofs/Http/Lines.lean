import DeckPress.Http.Response
import Mathlib.Data.List.Basic

/-!
# Lines in requests and addresses

A line that ended inside a field would let a request write fields of its own into the answer.  No
white space is in the words of a request, so no line ends in its target, nor in an address that is
made from the target.

* `Text.IsLine` — no line ends in a text.
* `Request.isLine_target` — no line ends in the target of a request.
* `Target.isLine_of_split`, `Address.isLine_text` — nor in the parts of an address, or in the
  address that is put together from such parts.
-/

namespace DeckPress

/-! ## Lines -/

namespace Text

variable {s : Text}

/-- No line ends in the text. -/
def IsLine (s : Text) : Prop := ∀ c ∈ s, c ≠ '\r' ∧ c ≠ '\n'

instance : Decidable (IsLine s) := List.decidableBAll (fun c => c ≠ '\r' ∧ c ≠ '\n') s

theorem IsLine.subset {t : Text} (h : IsLine s) (hst : t ⊆ s) : IsLine t :=
  fun c hc => h c (hst hc)

theorem isLine_append {t : Text} : IsLine (s ++ t) ↔ IsLine s ∧ IsLine t := List.forall_mem_append

theorem isLine_cons {c : Char} : IsLine (c :: s) ↔ (c ≠ '\r' ∧ c ≠ '\n') ∧ IsLine s :=
  List.forall_mem_cons

/-- There is no white space in a word. -/
theorem not_isSpace_of_mem_words {w : Text} (h : w ∈ words s) : ∀ c ∈ w, isSpace c = false := by
  have hmem := (List.mem_filter.mp h).1
  refine (List.foldrRecOn (motive := fun words => words ≠ [] ∧
    ∀ w ∈ words, ∀ c ∈ w, isSpace c = false) s _ ?_ ?_).2 w hmem
  · simp
  · rintro words ⟨hne, hwords⟩ c -
    obtain ⟨word, rest, rfl⟩ := List.exists_cons_of_ne_nil hne
    rw [List.forall_mem_cons] at hwords
    by_cases hc : isSpace c = true
    · simp only [hc, if_true]
      exact ⟨by simp, by simpa using hwords⟩
    · rw [Bool.not_eq_true] at hc
      simp only [hc]
      exact ⟨by simp, by simpa [hc] using hwords⟩

theorem isLine_of_not_isSpace (h : ∀ c ∈ s, isSpace c = false) : IsLine s := by
  intro c hc
  constructor
  · rintro rfl
    have := h _ hc
    revert this
    decide
  · rintro rfl
    have := h _ hc
    revert this
    decide

theorem isLine_toString (n : Nat) : IsLine (toString n).toList := by
  intro c hc
  have hdigit : c.isDigit = true := by
    have hrepr : toString n = String.ofList (Nat.toDigits 10 n) := rfl
    rw [hrepr, String.toList_ofList] at hc
    exact Nat.isDigit_of_mem_toDigits (by decide) (by decide) hc
  constructor
  · rintro rfl
    revert hdigit
    decide
  · rintro rfl
    revert hdigit
    decide

end Text

namespace Http

variable {raw target : Text} {q : Request}

/-! ## Requests -/

namespace Request

theorem target_of_ofWords {words : List Text} {wantsHead : Bool} {rest : Text}
    (hq : ofWords words wantsHead rest = .request q) :
    ∃ target ∈ words, q.target = singleSlash target := by
  have hfields : ∀ method target, withFields method target wantsHead rest = .request q →
      q.target = singleSlash target := by
    intro method target h
    rw [withFields] at h
    split at h
    · cases h
    · cases h
      rfl
  rw [ofWords.eq_def] at hq
  split at hq
  · split at hq
    · exact ⟨_, by simp, hfields _ _ hq⟩
    · cases hq
  · exact ⟨_, by simp, hfields _ _ hq⟩
  · cases hq

theorem singleSlash_subset (target : Text) : singleSlash target ⊆ '/' :: target := by
  rw [singleSlash]
  split
  · exact List.cons_subset_cons _ (List.dropWhile_subset _)
  · exact List.subset_cons_self _ _

/-- No line ends in the target of a request. -/
theorem isLine_target (hq : read raw = .request q) : Text.IsLine q.target := by
  have hwords : ∃ l wantsHead rest, ofWords (Text.words l) wantsHead rest = .request q := by
    rw [read] at hq
    dsimp only at hq
    split at hq
    · cases hq
    · split at hq
      · cases hq
      · rename_i hw
        split at hq
        · cases hq
        · split at hq
          · cases hq
          · exact ⟨_, _, _, hw ▸ hq⟩
      · exact ⟨_, _, _, hq⟩
  obtain ⟨l, wantsHead, rest, hq⟩ := hwords
  obtain ⟨target, hmem, htarget⟩ := target_of_ofWords hq
  have hline : Text.IsLine target :=
    Text.isLine_of_not_isSpace (Text.not_isSpace_of_mem_words hmem)
  rw [htarget]
  refine Text.IsLine.subset ?_ (singleSlash_subset target)
  exact Text.isLine_cons.mpr ⟨by decide, hline⟩

end Request

/-! ## Addresses -/

namespace Target

variable {a : Address}

theorem cut_subset (mark : Char) (s : Text) : (cut mark s).1 ⊆ s ∧ (cut mark s).2 ⊆ s := by
  refine ⟨List.takeWhile_subset _, ?_⟩
  exact List.Subset.trans (List.drop_subset _ _) (List.dropWhile_subset _)

/-- Writing a text in lower case ends no lines. -/
theorem isLine_map_toLower {s : Text} (h : Text.IsLine s) : Text.IsLine (s.map Char.toLower) := by
  have hlower : ∀ c d : Char, d.toNat < 32 → c.toLower = d → c = d := by
    intro c d hd he
    unfold Char.toLower at he
    split at he
    · rename_i hc
      have hle : c.val.toNat ≤ 90 := by
        have := UInt32.le_iff_toNat_le.mp hc.2
        simpa using this
      have hval : c.val.toNat + 32 = d.toNat := by
        have := congrArg Char.toNat he
        simp only [Char.toNat, UInt32.toNat_add] at this
        rw [← Char.toNat_val (c := d), ← this]
        simp only [UInt32.reduceToNat, UInt32.reduceSub, Char.reduceVal]
        omega
      omega
    · exact he
  intro c hc
  obtain ⟨d, hd, rfl⟩ := List.mem_map.mp hc
  refine ⟨fun he => ?_, fun he => ?_⟩
  · exact (h d hd).1 (hlower d '\r' (by decide) he)
  · exact (h d hd).2 (hlower d '\n' (by decide) he)

/-- No line ends in the parts of an address that is written on one line. -/
theorem isLine_of_split (h : Text.IsLine target) (ha : split target = .ok a) :
    Text.IsLine a.scheme ∧ Text.IsLine a.host ∧ Text.IsLine a.path ∧ Text.IsLine a.query ∧
      Text.IsLine a.fragment := by
  rw [split] at ha
  extract_lets isHost at ha
  have hs : Text.IsLine (target.dropWhile (· ≤ ' ')) := h.subset (List.dropWhile_subset _)
  split at ha
  rename_i scheme s₁ h₁
  have h₁ : Text.IsLine scheme ∧ Text.IsLine s₁ := by
    split at h₁
    · cases h₁
      exact ⟨isLine_map_toLower (hs.subset (List.takeWhile_subset _)),
        hs.subset (List.drop_subset _ _)⟩
    · cases h₁
      exact ⟨by simp [Text.IsLine], hs⟩
  split at ha
  rename_i host s₂ h₂
  have h₂ : Text.IsLine host ∧ Text.IsLine s₂ := by
    have hdrop : Text.IsLine (s₁.drop 2) := h₁.2.subset (List.drop_subset _ _)
    split at h₂
    · cases h₂
      exact ⟨hdrop.subset (List.takeWhile_subset _), hdrop.subset (List.dropWhile_subset _)⟩
    · cases h₂
      exact ⟨by simp [Text.IsLine], h₁.2⟩
  have hfragment := cut_subset '#' s₂
  have hquery := cut_subset '?' (cut '#' s₂).1
  cases hhost : checkHost host with
  | error e =>
    rw [hhost] at ha
    cases ha
  | ok u =>
    rw [hhost] at ha
    cases ha
    have hpath : Text.IsLine (cut '#' s₂).1 := h₂.2.subset hfragment.1
    exact ⟨h₁.1, h₂.1, hpath.subset hquery.1, hpath.subset hquery.2, h₂.2.subset hfragment.2⟩

end Target

/-- No line ends in an address whose parts are without line ends. -/
theorem Address.isLine_text {a : Address} (hscheme : Text.IsLine a.scheme)
    (hhost : Text.IsLine a.host) (hpath : Text.IsLine a.path) (hquery : Text.IsLine a.query)
    (hfragment : Text.IsLine a.fragment) : Text.IsLine a.text := by
  have hcons : ∀ (c : Char) (s : Text), c ≠ '\r' ∧ c ≠ '\n' → Text.IsLine s →
      Text.IsLine (c :: s) := fun c s hc hs => Text.isLine_cons.mpr ⟨hc, hs⟩
  have hnil : Text.IsLine [] := by simp [Text.IsLine]
  have hslash : ∀ b : Bool, Text.IsLine (if b = true then '/' :: a.path else a.path) := by
    intro b
    split
    · exact hcons _ _ (by decide) hpath
    · exact hpath
  rw [Address.text]
  simp only [Text.isLine_append]
  refine ⟨⟨⟨?_, ?_⟩, ?_⟩, ?_⟩
  · split
    · exact hnil
    · exact Text.isLine_append.mpr ⟨hscheme, by decide⟩
  · split
    · exact Text.isLine_append.mpr ⟨Text.isLine_append.mpr ⟨by decide, hhost⟩, hslash _⟩
    · exact hslash _
  · split
    · exact hnil
    · exact hcons _ _ (by decide) hquery
  · split
    · exact hnil
    · exact hcons _ _ (by decide) hfragment

end Http

end DeckPress
