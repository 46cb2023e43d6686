import DeckPress.Path
import Mathlib.Data.List.Basic

/-!
# Paths as texts

* `ofString_name` — a single name is read as the path of that name, and `div_name` — going on along
  it is going to the entry of that name.
* `exists_last_name` — where a text ends in a name, the path that is read from it does.
* `ofString_toString` — a path whose names are proper is read back from its text.
* `size_toString_le_child` — the text of a path is no longer than that of an entry of it.
-/

namespace DeckPress

namespace Text

variable {mark : Char} {a b : Text}

theorem pieces_cons (mark c : Char) (s : Text) : ∃ piece rest, pieces mark s = piece :: rest ∧
    pieces mark (c :: s) = if c = mark then [] :: piece :: rest else (c :: piece) :: rest := by
  induction s generalizing c with
  | nil => exact ⟨[], [], rfl, rfl⟩
  | cons d s ih =>
    obtain ⟨piece, rest, -, h⟩ := ih d
    by_cases hd : d = mark
    · rw [if_pos hd] at h
      exact ⟨[], piece :: rest, h, by rw [pieces, List.foldr_cons, ← pieces, h]⟩
    · rw [if_neg hd] at h
      exact ⟨d :: piece, rest, h, by rw [pieces, List.foldr_cons, ← pieces, h]⟩

theorem pieces_cons_mark (s : Text) : pieces mark (mark :: s) = [] :: pieces mark s := by
  obtain ⟨piece, rest, h1, h2⟩ := pieces_cons mark mark s
  rw [h2, if_pos rfl, h1]

theorem pieces_of_not_mem (h : mark ∉ a) : pieces mark a = [a] := by
  induction a with
  | nil => rfl
  | cons c a ih =>
    obtain ⟨piece, rest, h1, h2⟩ := pieces_cons mark c a
    simp only [List.mem_cons, not_or] at h
    rw [ih h.2] at h1
    cases h1
    rw [h2, if_neg (Ne.symm h.1)]

theorem pieces_append (h : mark ∉ a) (b : Text) :
    pieces mark (a ++ mark :: b) = a :: pieces mark b := by
  induction a with
  | nil => exact pieces_cons_mark b
  | cons c a ih =>
    simp only [List.mem_cons, not_or] at h
    obtain ⟨piece, rest, h1, h2⟩ := pieces_cons mark c (a ++ mark :: b)
    rw [ih h.2] at h1
    cases h1
    rw [List.cons_append, h2, if_neg (Ne.symm h.1)]

/-- Pieces have no other characters than the text. -/
theorem mem_of_mem_pieces {piece : Text} {c : Char} (h : piece ∈ pieces mark a) (hc : c ∈ piece) :
    c ∈ a := by
  induction a generalizing piece with
  | nil =>
    cases List.mem_singleton.mp h
    cases hc
  | cons d a ih =>
    obtain ⟨first, rest, h1, h2⟩ := pieces_cons mark d a
    rw [h1] at ih
    rw [h2] at h
    split at h
    · rcases List.mem_cons.mp h with rfl | h
      · cases hc
      · exact List.mem_cons_of_mem _ (ih h hc)
    · rcases List.mem_cons.mp h with rfl | h
      · rcases List.mem_cons.mp hc with rfl | hc
        · exact List.mem_cons_self
        · exact List.mem_cons_of_mem _ (ih List.mem_cons_self hc)
      · exact List.mem_cons_of_mem _ (ih (List.mem_cons_of_mem _ h) hc)

/-- No character but the mark is lost. -/
theorem exists_mem_pieces {c : Char} (hc : c ∈ a) (hmark : c ≠ mark) :
    ∃ piece ∈ pieces mark a, c ∈ piece := by
  induction a with
  | nil => cases hc
  | cons d a ih =>
    obtain ⟨piece, rest, h1, h2⟩ := pieces_cons mark d a
    rw [h1] at ih
    rw [h2]
    rcases List.mem_cons.mp hc with rfl | hrest
    · exact ⟨c :: piece, by simp [hmark], by simp⟩
    · obtain ⟨piece', hpiece', hmem⟩ := ih hrest
      split
      · exact ⟨piece', List.mem_cons_of_mem _ hpiece', hmem⟩
      · rcases List.mem_cons.mp hpiece' with rfl | hpiece'
        · exact ⟨d :: piece', by simp, List.mem_cons_of_mem _ hmem⟩
        · exact ⟨piece', List.mem_cons_of_mem _ hpiece', hmem⟩

/-- What follows a text without a mark follows its last piece. -/
theorem pieces_append_of_not_mem (h : mark ∉ b) (a : Text) : ∃ front last,
    pieces mark a = front ++ [last] ∧ pieces mark (a ++ b) = front ++ [last ++ b] := by
  induction a with
  | nil => exact ⟨[], [], rfl, pieces_of_not_mem h⟩
  | cons c a ih =>
    obtain ⟨front, last, ha, hb⟩ := ih
    obtain ⟨piece, rest, h1, h2⟩ := pieces_cons mark c a
    obtain ⟨piece', rest', h1', h2'⟩ := pieces_cons mark c (a ++ b)
    rw [List.cons_append, h2, h2']
    rw [h1] at ha
    rw [h1'] at hb
    by_cases hc : c = mark
    · rw [if_pos hc, if_pos hc]
      exact ⟨[] :: front, last, by rw [ha]; rfl, by rw [hb]; rfl⟩
    · rw [if_neg hc, if_neg hc]
      cases front with
      | nil =>
        cases ha
        cases hb
        exact ⟨[], c :: last, rfl, rfl⟩
      | cons first front =>
        cases ha
        cases hb
        exact ⟨(c :: piece) :: front, last, rfl, rfl⟩

theorem not_mem_of_mem_pieces {piece : Text} (h : piece ∈ pieces mark a) : mark ∉ piece := by
  induction a generalizing piece with
  | nil =>
    cases List.mem_singleton.mp h
    exact List.not_mem_nil
  | cons c a ih =>
    obtain ⟨first, rest, h1, h2⟩ := pieces_cons mark c a
    rw [h2] at h
    rw [h1] at ih
    split at h
    · rcases List.mem_cons.mp h with rfl | h
      · exact List.not_mem_nil
      · exact ih h
    · rename_i hc
      rcases List.mem_cons.mp h with rfl | h
      · rw [List.mem_cons, not_or]
        exact ⟨Ne.symm hc, ih List.mem_cons_self⟩
      · exact ih (List.mem_cons_of_mem _ h)

end Text

namespace Path

variable {p : Path} {name : String} {s : List Char}

/-- A name as it is read from a text. -/
def IsProperName (name : String) : Prop := name ≠ "" ∧ name ≠ "." ∧ '/' ∉ name.toList

instance : Decidable (IsProperName name) := inferInstanceAs (Decidable (_ ∧ _))

/-- Every name of the path is one as it is read from a text. -/
def IsProper (p : Path) : Prop := ∀ name ∈ p.names, IsProperName name

instance : Decidable p.IsProper := inferInstanceAs (Decidable (∀ name ∈ p.names, _))

theorem isName_toList (h : IsProperName name) : isName name.toList = true := by
  have h1 : name.toList ≠ [] := fun he => h.1 (String.toList_inj.mp he)
  have h2 : name.toList ≠ ['.'] := fun he => h.2.1 (String.toList_inj.mp he)
  simp [isName, h1, h2]

theorem rootOf_name (h : IsProperName name) (s : List Char) :
    rootOf (name.toList ++ s) = .here := by
  have h1 : name.toList ≠ [] := fun he => h.1 (String.toList_inj.mp he)
  obtain ⟨c, cs, hc⟩ := List.exists_cons_of_ne_nil h1
  have hslash : c ≠ '/' := by
    rintro rfl
    exact h.2.2 (by simp [hc])
  rw [hc, List.cons_append, rootOf]
  all_goals simp [hslash]

theorem ofString_name (h : IsProperName name) : ofString name = ⟨.here, [name]⟩ := by
  have hr := rootOf_name h []
  rw [List.append_nil] at hr
  simp [ofString, hr, Text.pieces_of_not_mem h.2.2, isName_toList h]

theorem div_name (p : Path) (h : IsProperName name) : p / name = p.child name := by
  show p.append (ofString name) = _
  rw [ofString_name h]
  rfl

/-- A path that is read from a text with a name at its end has a last name with that end. -/
theorem exists_last_name (p : Path) (s : String) {b : String} (hslash : '/' ∉ b.toList)
    (hlength : 2 ≤ b.toList.length) : ∃ name, (p / (s ++ b)).names.getLast? = some name ∧
      b.toList <:+ name.toList := by
  obtain ⟨front, last, -, hpieces⟩ := Text.pieces_append_of_not_mem hslash s.toList
  have hname : isName (last ++ b.toList) = true := by
    rw [isName, Bool.not_eq_true', Bool.or_eq_false_iff]
    constructor
    · rw [List.isEmpty_eq_false_iff, ← List.length_pos_iff, List.length_append]
      omega
    · rw [beq_eq_false_iff_ne]
      intro he
      have hone := congrArg List.length he
      rw [List.length_append, List.length_singleton] at hone
      omega
  have hlast : (ofString (s ++ b)).names =
      (front.filter isName).map String.ofList ++ [String.ofList (last ++ b.toList)] := by
    rw [ofString, String.toList_append, hpieces, List.filter_append, List.map_append,
      List.filter_singleton, hname]
    rfl
  refine ⟨String.ofList (last ++ b.toList), ?_, by simp⟩
  show (p.append (ofString (s ++ b))).names.getLast? = _
  rw [append]
  split
  · rw [hlast, List.getLast?_concat]
  · rw [hlast, ← List.append_assoc, List.getLast?_concat]

/-- What is read from a text has proper names. -/
theorem isProper_ofString (s : String) : (ofString s).IsProper := by
  intro name hname
  simp only [ofString, List.mem_map, List.mem_filter] at hname
  obtain ⟨piece, ⟨hpiece, hisName⟩, rfl⟩ := hname
  refine ⟨?_, ?_, ?_⟩
  · rintro he
    have : piece = [] := by simpa using congrArg String.toList he
    subst this
    cases hisName
  · rintro he
    have : piece = ['.'] := by simpa using congrArg String.toList he
    subst this
    cases hisName
  · rw [String.toList_ofList]
    exact Text.not_mem_of_mem_pieces hpiece

theorem isAbsolute_div (h : p.isAbsolute = true) (s : String) : (p / s).isAbsolute = true := by
  show (p.append (ofString s)).isAbsolute = true
  rw [append]
  split
  · assumption
  · exact h

theorem isProper_div (h : p.IsProper) (s : String) : (p / s).IsProper := by
  show (p.append (ofString s)).IsProper
  rw [append]
  split
  · exact isProper_ofString s
  · intro name hname
    rcases List.mem_append.mp hname with h1 | h1
    · exact h name h1
    · exact isProper_ofString s name h1

/-! ## From a path to its text and back -/

theorem rootOf_text_append (r : Root) (h : rootOf s = .here) : rootOf (r.text.toList ++ s) = r := by
  have hs : s.head? ≠ some '/' := by
    rintro hs
    obtain ⟨s, rfl⟩ := List.head?_eq_some_iff.mp hs
    unfold rootOf at h
    split at h <;> simp_all
  cases r with
  | here => exact h
  | top =>
    cases s with
    | nil => rfl
    | cons c s => simp_all [Root.text, rootOf]
  | doubled =>
    cases s with
    | nil => rfl
    | cons c s => simp_all [Root.text, rootOf]

theorem filter_pieces_text_append (r : Root) (s : List Char) :
    (Text.pieces '/' (r.text.toList ++ s)).filter isName = (Text.pieces '/' s).filter isName := by
  cases r with
  | here => rfl
  | top =>
    show (Text.pieces '/' ('/' :: s)).filter isName = _
    rw [Text.pieces_cons_mark, List.filter_cons_of_neg (by decide)]
  | doubled =>
    show (Text.pieces '/' ('/' :: '/' :: s)).filter isName = _
    rw [Text.pieces_cons_mark, Text.pieces_cons_mark, List.filter_cons_of_neg (by decide),
      List.filter_cons_of_neg (by decide)]

theorem toList_slash : "/".toList = ['/'] := by decide

theorem rootOf_intercalate {names : List String} (h : ∀ name ∈ names, IsProperName name) :
    rootOf ("/".intercalate names).toList = .here := by
  cases names with
  | nil => rw [String.intercalate_nil]; rfl
  | cons name names =>
    have hname := h name (by simp)
    cases names with
    | nil =>
      have hr := rootOf_name hname []
      rwa [List.append_nil, ← String.intercalate_singleton (s := "/") (t := name)] at hr
    | cons name' names =>
      rw [String.intercalate_cons_cons, String.toList_append, String.toList_append,
        List.append_assoc]
      exact rootOf_name hname _

theorem filter_pieces_intercalate {names : List String} (h : ∀ name ∈ names, IsProperName name) :
    (Text.pieces '/' ("/".intercalate names).toList).filter isName = names.map String.toList := by
  induction names with
  | nil => rw [String.intercalate_nil]; decide
  | cons name names ih =>
    have hname := h name (by simp)
    cases names with
    | nil =>
      rw [String.intercalate_singleton, Text.pieces_of_not_mem hname.2.2,
        List.filter_cons_of_pos (isName_toList hname)]
      rfl
    | cons name' names =>
      rw [String.intercalate_cons_cons, String.toList_append, String.toList_append, toList_slash,
        List.append_assoc, List.singleton_append, Text.pieces_append hname.2.2,
        List.filter_cons_of_pos (isName_toList hname), ih fun n hn => h n (by simp [hn])]
      rfl

/-- A path whose names are proper is read back from its text. -/
theorem ofString_toString (h : p.IsProper) : ofString p.toString = p := by
  obtain ⟨root, names⟩ := p
  rw [toString]
  split
  · rename_i hempty
    obtain ⟨hroot, hnames⟩ := hempty
    simp only at hroot hnames
    rw [hroot, hnames]
    rfl
  · simp only [ofString, String.toList_append]
    rw [rootOf_text_append root (rootOf_intercalate h), filter_pieces_text_append,
      filter_pieces_intercalate h, List.map_map]
    simp

/-- Paths are told apart by their texts. -/
theorem eq_of_toString_eq {q : Path} (hp : p.IsProper) (hq : q.IsProper)
    (h : p.toString = q.toString) : p = q := by
  rw [← ofString_toString hp, h, ofString_toString hq]

/-! ## The length of a path -/

theorem size_intercalate_cons (name : String) (names : List String) :
    ("/".intercalate (name :: names)).utf8ByteSize =
      name.utf8ByteSize +
        if names = [] then 0 else 1 + ("/".intercalate names).utf8ByteSize := by
  cases names with
  | nil => simp
  | cons name' names =>
    have h1 : "/".utf8ByteSize = 1 := by decide
    rw [String.intercalate_cons_cons, String.utf8ByteSize_append, String.utf8ByteSize_append, h1,
      if_neg (by simp)]
    omega

theorem size_intercalate_le_append (names rest : List String) :
    ("/".intercalate names).utf8ByteSize ≤ ("/".intercalate (names ++ rest)).utf8ByteSize := by
  induction names with
  | nil => simp
  | cons name names ih =>
    rw [List.cons_append, size_intercalate_cons, size_intercalate_cons]
    by_cases h : names = []
    · rw [if_pos h]
      omega
    · rw [if_neg h, if_neg (by simp [h])]
      omega

theorem size_intercalate_le_of_le {o s : String} (h : o.utf8ByteSize ≤ s.utf8ByteSize)
    (names rest : List String) :
    ("/".intercalate (names ++ o :: rest)).utf8ByteSize
      ≤ ("/".intercalate (names ++ s :: rest)).utf8ByteSize := by
  induction names with
  | nil =>
    rw [List.nil_append, List.nil_append, size_intercalate_cons, size_intercalate_cons]
    omega
  | cons name names ih =>
    rw [List.cons_append, List.cons_append, size_intercalate_cons, size_intercalate_cons,
      if_neg (by simp), if_neg (by simp)]
    omega

theorem toString_of_ne_nil (h : p.names ≠ []) :
    p.toString = p.root.text ++ "/".intercalate p.names := by
  rw [toString, if_neg (by simp [h])]

/-- The text of a path is no longer than that of an entry of it. -/
theorem size_toString_le_child (p : Path) (h : name ≠ "") :
    p.toString.utf8ByteSize ≤ (p.child name).toString.utf8ByteSize := by
  have hchild : (p.child name).names ≠ [] := by simp
  rw [toString_of_ne_nil hchild, names_child, root_child, String.utf8ByteSize_append, toString]
  split
  · rename_i hp
    have hname : name.utf8ByteSize ≠ 0 := by rwa [Ne, String.utf8ByteSize_eq_zero_iff]
    have h1 : ".".utf8ByteSize = 1 := by decide
    rw [hp.2, List.nil_append, String.intercalate_singleton, h1]
    omega
  · have := size_intercalate_le_append p.names [name]
    rw [String.utf8ByteSize_append]
    omega

end Path

end DeckPress
