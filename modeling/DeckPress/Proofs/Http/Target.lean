import DeckPress.Http.Target
import DeckPress.Proofs.Host.Seen
import DeckPress.Proofs.Text.Utf8
import Mathlib.Data.List.TakeWhile

/-!
# Where targets lead

However the path of a target is written, with escapes, dots or many slashes, it leads along names
that entries of directories can have, and so never out of the directory that is served.

* `CodePoint.eq_ofText_of_nameBytes` — a name of ASCII has only one spelling in code points.
* `Target.isPiece_of_mem_pieces` — the pieces that a target leads along are neither empty nor dots,
  and no slash is in them.
* `Target.place_eq_ok` — a target leads below the directory, along names of entries.
-/

namespace DeckPress

/-! ## Names that code points write -/

namespace CodePoint

variable {x : CodePoint} {name : List CodePoint} {n : String} {t : Text} {c : Char}

theorem isWritable_of_fault? (h : fault? name = none) : ∀ x ∈ name, x.isWritable = true := by
  have hdrop : (name.takeWhile isWritable ++ name.dropWhile isWritable).drop
      (name.takeWhile isWritable).length = name.dropWhile isWritable := List.drop_left
  rw [List.takeWhile_append_dropWhile] at hdrop
  have hhead := List.head?_dropWhile_not isWritable name
  rw [fault?, hdrop] at h
  cases hrest : name.dropWhile isWritable with
  | nil => exact List.dropWhile_eq_nil_iff.mp hrest
  | cons x rest =>
    rw [hrest] at h hhead
    cases x with
    | char c => cases hhead
    | half code => cases h

/-- The bytes that a code point adds to a name. -/
def bytes : CodePoint → List UInt8
  | char c => Utf8.encode [c]
  | half code => (half code).byte?.toList

theorem nameBytes_cons (x : CodePoint) (name : List CodePoint) :
    nameBytes (x :: name) = x.bytes ++ nameBytes name := by
  cases x <;> rfl

theorem mem_nameBytes {b : UInt8} : b ∈ nameBytes name ↔ ∃ x ∈ name, b ∈ x.bytes := by
  induction name with
  | nil => simp [nameBytes]
  | cons x name ih => simp [nameBytes_cons, ih]

/-- The half of a pair stands for a byte above ASCII. -/
theorem le_of_mem_bytes_half {code : Nat} {b : UInt8} (h : b ∈ (half code).bytes) :
    0x80 ≤ b.toNat := by
  rw [bytes, byte?] at h
  split at h
  · rename_i hcode
    simp only [Bool.and_eq_true, decide_eq_true_eq] at hcode
    rw [Option.toList_some, List.mem_singleton] at h
    rw [h, UInt8.toNat_ofNat']
    omega
  · cases h

/-- A byte of ASCII comes from the character that it stands for. -/
theorem eq_char_of_mem_bytes {b : UInt8} (hb : b ∈ x.bytes) (hc : b.toNat = c.toNat)
    (h : c.toNat < 0x80) : x = char c := by
  cases x with
  | char d =>
    have hd : d.toNat = b.toNat := Utf8.toNat_of_mem_utf8EncodeChar
      (by simpa [bytes, Utf8.encode] using hb) (by omega)
    rw [Char.toNat_inj.mp (hd.trans hc)]
  | half code =>
    have := le_of_mem_bytes_half hb
    omega

theorem bytes_ne_nil (h : x.isWritable = true) : x.bytes ≠ [] := by
  cases x with
  | char c => simp [bytes, Utf8.encode]
  | half code =>
    have hsome : (half code).byte?.isSome = true := by simpa [isWritable, isHalf] using h
    obtain ⟨b, hb⟩ := Option.isSome_iff_exists.mp hsome
    rw [bytes, hb]
    simp

/-- A name of ASCII has only one spelling in code points. -/
theorem eq_ofText_of_nameBytes (hw : ∀ x ∈ name, x.isWritable = true)
    (h : nameBytes name = Utf8.encode t) (ht : ∀ c ∈ t, c.toNat < 0x80) : name = ofText t := by
  induction name generalizing t with
  | nil =>
    cases t with
    | nil => rfl
    | cons c t =>
      have hc := String.utf8EncodeChar_ne_nil (c := c)
      rw [Utf8.encode, List.flatMap_cons] at h
      exact absurd (List.append_eq_nil_iff.mp h.symm).1 hc
  | cons x name ih =>
    have hx : x.bytes ≠ [] := bytes_ne_nil (hw x List.mem_cons_self)
    rw [nameBytes_cons] at h
    cases t with
    | nil => exact absurd (List.append_eq_nil_iff.mp h).1 hx
    | cons c t =>
      have hc : c.toNat < 0x80 := ht c List.mem_cons_self
      have hbyte : (UInt8.ofNat c.toNat).toNat = c.toNat := Utf8.toNat_ofNat_of_lt (by omega)
      rw [Utf8.encode, List.flatMap_cons, Utf8.utf8EncodeChar_ascii hc, ← Utf8.encode] at h
      have hmem : UInt8.ofNat c.toNat ∈ x.bytes := by
        obtain ⟨b, bs, hbs⟩ := List.exists_cons_of_ne_nil hx
        rw [hbs, List.cons_append, List.singleton_append, List.cons.injEq] at h
        rw [hbs, ← h.1]
        exact List.mem_cons_self
      obtain rfl : x = char c := eq_char_of_mem_bytes hmem hbyte hc
      have hxb : (char c).bytes = [UInt8.ofNat c.toNat] := by
        rw [bytes, Utf8.encode, List.flatMap_singleton, Utf8.utf8EncodeChar_ascii hc]
      rw [hxb, List.singleton_append, List.singleton_append, List.cons.injEq] at h
      rw [ih (fun y hy => hw y (List.mem_cons_of_mem _ hy)) h.2
        (fun d hd => ht d (List.mem_cons_of_mem _ hd))]
      rfl

theorem name?_eq_some : name? name = some n ↔ nameBytes name = Utf8.encode n.toList := by
  rw [name?, Option.map_eq_some_iff]
  constructor
  · rintro ⟨t, ht, rfl⟩
    rw [String.toList_ofList]
    cases hd : Utf8.decode (nameBytes name) with
    | error e =>
      rw [hd] at ht
      cases ht
    | ok s =>
      rw [hd] at ht
      cases ht
      exact Utf8.decode_eq_ok.mp hd
  · intro h
    refine ⟨n.toList, ?_, String.ofList_toList⟩
    rw [h, Utf8.decode_encode]
    rfl

/-- A character of ASCII in a name stands in its spelling. -/
theorem char_mem_of_name? (h : name? name = some n) (hc : c.toNat < 0x80) (hmem : c ∈ n.toList) :
    char c ∈ name := by
  have hbyte : (UInt8.ofNat c.toNat).toNat = c.toNat := Utf8.toNat_ofNat_of_lt (by omega)
  have hb : UInt8.ofNat c.toNat ∈ nameBytes name := by
    rw [name?_eq_some.mp h, Utf8.encode, List.mem_flatMap]
    exact ⟨c, hmem, by rw [Utf8.utf8EncodeChar_ascii hc]; exact List.mem_cons_self⟩
  obtain ⟨x, hx, hbx⟩ := mem_nameBytes.mp hb
  rwa [← eq_char_of_mem_bytes hbx hbyte hc]

end CodePoint

namespace Http.Target

variable {directory p : Path} {target : Text} {names : List (List CodePoint)}

/-! ## The pieces of a path -/

/-- A piece that leads on to an entry of a directory. -/
structure IsPiece (piece : List CodePoint) : Prop where
  ne_nil : piece ≠ []
  ne_here : piece ≠ CodePoint.ofText ['.']
  ne_up : piece ≠ CodePoint.ofText ['.', '.']
  noSlash : .char '/' ∉ piece

theorem betweenSlashes_cons (c : CodePoint) (s : List CodePoint) : ∃ piece rest,
    betweenSlashes s = piece :: rest ∧ betweenSlashes (c :: s) =
      if c = .char '/' then [] :: piece :: rest else (c :: piece) :: rest := by
  induction s generalizing c with
  | nil => exact ⟨[], [], rfl, rfl⟩
  | cons d s ih =>
    obtain ⟨piece, rest, -, h⟩ := ih d
    by_cases hd : d = .char '/'
    · rw [if_pos hd] at h
      exact ⟨[], piece :: rest, h, by rw [betweenSlashes, List.foldr_cons, ← betweenSlashes, h]⟩
    · rw [if_neg hd] at h
      exact ⟨d :: piece, rest, h, by rw [betweenSlashes, List.foldr_cons, ← betweenSlashes, h]⟩

theorem noSlash_of_mem_betweenSlashes {s piece : List CodePoint} (h : piece ∈ betweenSlashes s) :
    .char '/' ∉ piece := by
  induction s generalizing piece with
  | nil =>
    cases List.mem_singleton.mp h
    exact List.not_mem_nil
  | cons c s ih =>
    obtain ⟨first, rest, h1, h2⟩ := betweenSlashes_cons c s
    rw [h2] at h
    rw [h1] at ih
    split at h
    · rcases List.mem_cons.mp h with rfl | h
      · exact List.not_mem_nil
      · exact ih h
    · rename_i hc
      rcases List.mem_cons.mp h with rfl | h
      · rw [List.mem_cons, not_or]
        exact ⟨Ne.symm hc, ih List.mem_cons_self⟩
      · exact ih (List.mem_cons_of_mem _ h)

/-- One more piece of a path keeps the pieces such that lead on to entries. -/
theorem isPiece_step {piece : List CodePoint} (hnames : ∀ n ∈ names, IsPiece n)
    (hpiece : .char '/' ∉ piece) : ∀ n ∈ step names piece, IsPiece n := by
  intro n hn
  rw [step] at hn
  split at hn
  · exact hnames n hn
  · split at hn
    · exact hnames n (List.dropLast_subset _ hn)
    · rename_i h1 h2
      simp only [Bool.or_eq_true, decide_eq_true_eq, not_or] at h1
      rcases List.mem_append.mp hn with hn | hn
      · exact hnames n hn
      · cases List.mem_singleton.mp hn
        exact ⟨h1.1, h1.2, h2, hpiece⟩

/-- **The pieces that a target leads along are neither empty nor dots.** -/
theorem isPiece_of_mem_pieces {piece : List CodePoint} (h : piece ∈ pieces target) :
    IsPiece piece := by
  have hfold : ∀ (ps names : List (List CodePoint)), (∀ n ∈ names, IsPiece n) →
      (∀ q ∈ ps, .char '/' ∉ q) → ∀ n ∈ ps.foldl step names, IsPiece n := by
    intro ps
    induction ps with
    | nil => exact fun names hnames _ => hnames
    | cons q ps ih =>
      intro names hnames hps
      exact ih (step names q) (isPiece_step hnames (hps q List.mem_cons_self))
        fun q' hq' => hps q' (List.mem_cons_of_mem _ hq')
  exact hfold _ [] (by simp) (fun q hq => noSlash_of_mem_betweenSlashes hq) piece h

/-! ## Places -/

theorem isEntryName_of_name? {piece : List CodePoint} {name : String} (hpiece : IsPiece piece)
    (hw : ∀ x ∈ piece, x.isWritable = true) (hnul : .char '\x00' ∉ piece)
    (h : CodePoint.name? piece = some name) : Tree.IsEntryName name := by
  have hascii : ∀ s : String, s.toList.all (·.toNat < 0x80) = true → name = s →
      piece = CodePoint.ofText s.toList := by
    rintro s hs rfl
    have hs' : ∀ c ∈ name.toList, c.toNat < 0x80 := by simpa using hs
    exact CodePoint.eq_ofText_of_nameBytes hw (CodePoint.name?_eq_some.mp h) hs'
  refine ⟨fun he => ?_, fun he => ?_, fun he => ?_, fun hmem => ?_, fun hmem => ?_⟩
  · exact hpiece.ne_nil (hascii "" (by decide) he)
  · exact hpiece.ne_here (hascii "." (by decide) he)
  · exact hpiece.ne_up (hascii ".." (by decide) he)
  · exact hpiece.noSlash (CodePoint.char_mem_of_name? h (by decide) hmem)
  · exact hnul (CodePoint.char_mem_of_name? h (by decide) hmem)

theorem isEntryName_of_mapM {ns : List String} (hpiece : ∀ x ∈ names, IsPiece x)
    (hw : ∀ piece ∈ names, ∀ x ∈ piece, x.isWritable = true)
    (hnul : ∀ piece ∈ names, .char '\x00' ∉ piece)
    (h : names.mapM CodePoint.name? = some ns) : ∀ n ∈ ns, Tree.IsEntryName n := by
  induction names generalizing ns with
  | nil =>
    cases h
    simp
  | cons piece names ih =>
    rw [List.mapM_cons] at h
    obtain ⟨n, hn, h⟩ := Option.bind_eq_some_iff.mp h
    obtain ⟨rest, hrest, h⟩ := Option.bind_eq_some_iff.mp h
    cases h
    have hname := isEntryName_of_name? (hpiece piece List.mem_cons_self)
      (hw piece List.mem_cons_self) (hnul piece List.mem_cons_self) hn
    rw [List.forall_mem_cons]
    exact ⟨hname, ih (fun x hx => hpiece x (List.mem_cons_of_mem _ hx))
      (fun x hx => hw x (List.mem_cons_of_mem _ hx))
      (fun x hx => hnul x (List.mem_cons_of_mem _ hx)) hrest⟩

theorem isWritable_of_written (h : CodePoint.fault? (written directory names) = none) :
    ∀ piece ∈ names, ∀ x ∈ piece, x.isWritable = true := by
  intro piece hpiece x hx
  refine CodePoint.isWritable_of_fault? h x ?_
  rw [written, List.mem_append, List.mem_flatMap]
  exact .inr ⟨piece, hpiece, List.mem_cons_of_mem _ hx⟩

/-- **A target leads below the directory that is served**, along names of entries. -/
theorem place_eq_ok (h : place directory target = .ok (some p)) :
    ∃ ns, (pieces target).mapM CodePoint.name? = some ns ∧ p = directory.below ns ∧
      ∀ n ∈ ns, Tree.IsEntryName n := by
  rw [place] at h
  cases hfault : CodePoint.fault? (written directory (pieces target)) with
  | some f =>
    rw [hfault] at h
    cases h
  | none =>
    simp only [hfault] at h
    split at h
    · cases h
    · rename_i hnul
      rw [Except.ok.injEq, Option.map_eq_some_iff] at h
      obtain ⟨ns, hns, rfl⟩ := h
      have hnul' : ∀ piece ∈ pieces target, .char '\x00' ∉ piece := by
        simpa [List.any_eq_true] using hnul
      exact ⟨ns, hns, rfl, isEntryName_of_mapM (fun _ => isPiece_of_mem_pieces)
        (isWritable_of_written hfault) hnul' hns⟩

end Http.Target

end DeckPress
