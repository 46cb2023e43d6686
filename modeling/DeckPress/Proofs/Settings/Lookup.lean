import DeckPress.Proofs.Host.Course
import DeckPress.Settings.Document

/-!
# Looking settings up

The settings of a project are the defaults with its document over them.  The keys of a document may
be any values, and which of two keys are the same is a matter of their types; but the key of a
setting is a text, and no other value is the same key as a text.

* `Value.lookup?_insert`, `Value.lookup?_insertMany` — what is found after an insertion.
* `Settings.get?_set`, `Settings.get?_ofDocument` — the value of a setting.
* `Settings.IsComplete` — every setting that a build needs has a value; this is so for the defaults,
  whatever is laid over them (`isComplete_ofDocument?`).
* `Settings.Reads` — what the document of a project says; `load_eq_ok` is when the settings can be
  loaded, and what they are.
-/

namespace DeckPress

open Act

namespace Value

variable {k v w : Value} {key : String} {entries more : List (Value × Value)}

@[simp] theorem isSameKey_str : k.isSameKey (.str key) = true ↔ k = .str key := by
  cases k <;> simp [isSameKey, asInt?]

@[simp] theorem str_isSameKey : (Value.str key).isSameKey k = true ↔ k = .str key := by
  cases k with
  | str s => simp [isSameKey, eq_comm (a := key)]
  | _ => simp [isSameKey, asInt?]

theorem lookup?_cons : lookup? ((k, v) :: entries) key =
    if k = .str key then some v else lookup? entries key := by
  rw [lookup?, List.find?_cons]
  dsimp only
  by_cases hk : k = .str key
  · rw [isSameKey_str.mpr hk, if_pos hk]
    rfl
  · rw [Bool.eq_false_iff.mpr (mt isSameKey_str.mp hk), if_neg hk]
    rfl

/-- What is inserted is found, and all else is found as before. -/
theorem lookup?_insert : lookup? (insert entries k w) key =
    if k = .str key then some w else lookup? entries key := by
  induction entries with
  | nil => rw [insert, lookup?_cons]
  | cons entry entries ih =>
    obtain ⟨k', v⟩ := entry
    rw [insert]
    by_cases hsame : k'.isSameKey k = true
    · rw [if_pos hsame, lookup?_cons, lookup?_cons]
      -- Two keys that are the same are both the text, or neither is.
      by_cases hk : k = .str key
      · subst hk
        rw [if_pos (isSameKey_str.mp hsame), if_pos rfl]
      · have hk' : k' ≠ .str key := by
          rintro rfl
          exact hk (str_isSameKey.mp hsame)
        rw [if_neg hk', if_neg hk, if_neg hk']
    · rw [if_neg hsame, lookup?_cons, lookup?_cons, ih]
      by_cases hk' : k' = .str key
      · have hk : k ≠ .str key := by
          rintro rfl
          exact hsame (isSameKey_str.mpr hk')
        rw [if_pos hk', if_neg hk, if_pos hk']
      · rw [if_neg hk', if_neg hk']

/-- The value of the last entry with a key. -/
def last? (entries : List (Value × Value)) (key : String) : Option Value :=
  (entries.reverse.find? (·.1 = .str key)).map (·.2)

theorem last?_append : last? (entries ++ [(k, v)]) key =
    if k = .str key then some v else last? entries key := by
  rw [last?, List.reverse_append, List.reverse_singleton, List.singleton_append, List.find?_cons]
  by_cases hk : k = .str key <;> simp [hk, last?]

/-- Of the entries that are inserted the last one with a key counts. -/
theorem lookup?_insertMany :
    lookup? (insertMany entries more) key = (last? more key <|> lookup? entries key) := by
  induction more using List.reverseRecOn with
  | nil => rfl
  | append_singleton more entry ih =>
    obtain ⟨k, v⟩ := entry
    have hinsert : insertMany entries (more ++ [(k, v)]) =
        insert (insertMany entries more) k v := by
      simp [insertMany]
    rw [hinsert, lookup?_insert, last?_append, ih]
    split_ifs <;> rfl

end Value

namespace Settings

variable {s : Settings} {h h' : Host} {root : Path} {key : String} {v : Value} {c : Cause}
  {d : Document} {document? : Option Document}

theorem get?_set (s : Settings) (key other : String) (v : Value) :
    (s.set key v).get? other = if key = other then some v else s.get? other := by
  rw [get?, set, Value.lookup?_insert]
  simp only [Value.str.injEq]
  rfl

/-- What a document says of a setting, if it is a mapping. -/
def said? (d : Document) (key : String) : Option Value := d.entries?.bind (Value.last? · key)

/-- The settings of a project with the given document, or with none. -/
def ofDocument? : Option Document → Settings
  | some d => ofDocument d
  | none => default

theorem get?_ofDocument (d : Document) (key : String) :
    (ofDocument d).get? key = (said? d key <|> default.get? key) := by
  rw [ofDocument, said?]
  cases d.entries? with
  | none => rfl
  | some entries => exact Value.lookup?_insertMany

theorem get?_ofDocument? (document? : Option Document) (key : String) :
    (ofDocument? document?).get? key =
      (document?.bind (said? · key) <|> default.get? key) := by
  cases document? with
  | none => rfl
  | some d => exact get?_ofDocument d key

/-! ## Complete settings -/

/-- The settings that a build needs. -/
def needed : List String := [renderer, contentDir, theme, outputDir, readme]

/-- There is a value for every setting that a build needs. -/
def IsComplete (s : Settings) : Prop := ∀ key ∈ needed, (s.get? key).isSome = true

/-- There is a value for the setting, but it has no text. -/
def Unwritable (s : Settings) (key : String) (e : NumberError) : Prop :=
  ∃ v, s.get? key = some v ∧ v.text s.collections = .error e

/-- The defaults are complete, and whatever is laid over them cannot take a setting away. -/
theorem isComplete_ofDocument? (document? : Option Document) :
    (ofDocument? document?).IsComplete := by
  have hdefault : ∀ key ∈ needed, (default.get? key).isSome = true := by decide
  intro key hkey
  rw [get?_ofDocument?, Option.orElse_eq_orElse, Option.orElse_eq_or, Option.isSome_or,
    hdefault key hkey, Bool.or_true]

theorem text_of_get? (hv : s.get? key = some v) :
    s.text key = (v.text s.collections).mapError .number := by
  rw [text, hv]

/-- A setting with a value has a text, or the value has none. -/
theorem unwritable_of_text (hkey : (s.get? key).isSome = true) (htext : s.text key = .error c) :
    ∃ e, c = .number e ∧ s.Unwritable key e := by
  obtain ⟨v, hv⟩ := Option.isSome_iff_exists.mp hkey
  rw [text_of_get? hv] at htext
  cases hform : v.text s.collections with
  | ok form =>
    rw [hform] at htext
    cases htext
  | error e =>
    rw [hform] at htext
    cases htext
    exact ⟨e, rfl, v, hv, hform⟩

theorem Unwritable.text {e : NumberError} (he : s.Unwritable key e) :
    s.text key = .error (.number e) := by
  obtain ⟨v, hv, hform⟩ := he
  rw [text_of_get? hv, hform]
  rfl

/-! ## Loading -/

/-- What the project at `root` has for a document: none, or one that can be read and makes
sense. -/
inductive Reads (h : Host) (root : Path) : Option Document → Prop where
  | absent (hlook : h.look (root.child fileName) = .ok none) : Reads h root none
  | present (n : Node) (f : File) (d : Document)
    (hlook : h.look (root.child fileName) = .ok (some n))
    (hopen : (openFile (root.child fileName)).on h = (.ok f, h))
    (hdocument : Yaml.documentOf (.ofBytes f.bytes) = .ok d) : Reads h root (some d)

/-- A document is read if its text comes to it. -/
theorem Reads.of_text {f : File} (hlook : h.look (root.child fileName) = .ok (some (.file f)))
    (hopen : (openFile (root.child fileName)).on h = (.ok f, h))
    (htext : (Yaml.documentOf (.ofBytes f.bytes)).toOption = some d) : Reads h root (some d) := by
  refine .present (.file f) f d hlook hopen ?_
  cases hdocument : Yaml.documentOf (.ofBytes f.bytes) with
  | ok d' =>
    rw [hdocument] at htext
    cases htext
    rfl
  | error c =>
    rw [hdocument] at htext
    cases htext

/-- The settings of a project can be loaded if it has no document, or one that makes sense. -/
theorem load_eq_ok : (load root).on h = (.ok s, h') ↔
    h' = h ∧ ∃ document?, Reads h root document? ∧ s = ofDocument? document? := by
  rw [load, on_bind_eq_ok]
  constructor
  · rintro ⟨seen, h₁, hseen, hrest⟩
    obtain ⟨rfl, n?, hlook, rfl⟩ := on_isThere_eq_ok.mp hseen
    cases n? with
    | none =>
      obtain ⟨rfl, rfl⟩ := on_pure_eq_ok.mp hrest
      exact ⟨rfl, none, .absent hlook, rfl⟩
    | some n =>
      obtain ⟨f, h₂, hopen, hparse⟩ := on_bind_eq_ok.mp hrest
      cases (isQuery_lookUp _ _).eq hopen
      obtain ⟨d, h₃, hlift, hend⟩ := on_bind_eq_ok.mp hparse
      obtain ⟨hdocument, rfl⟩ := on_lift_eq_ok.mp hlift
      obtain ⟨rfl, rfl⟩ := on_pure_eq_ok.mp hend
      exact ⟨rfl, some d, .present n f d hlook hopen hdocument, rfl⟩
  · rintro ⟨rfl, document?, hread, rfl⟩
    cases hread with
    | absent hlook =>
      exact ⟨false, _, on_isThere_eq_ok.mpr ⟨rfl, none, hlook, rfl⟩, on_pure_eq_ok.mpr ⟨rfl, rfl⟩⟩
    | present n f d hlook hopen hdocument =>
      refine ⟨true, _, on_isThere_eq_ok.mpr ⟨rfl, some n, hlook, rfl⟩, ?_⟩
      exact on_bind_eq_ok.mpr ⟨f, _, hopen, on_bind_eq_ok.mpr
        ⟨d, _, on_lift_eq_ok.mpr ⟨hdocument, rfl⟩, on_pure_eq_ok.mpr ⟨rfl, rfl⟩⟩⟩

end Settings

end DeckPress
