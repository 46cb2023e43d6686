import DeckPress.Command.Run
import Mathlib.Data.List.TakeWhile

/-!
# Reading options back

An option with a value is spelled in two ways: the value is the next word, or it stands in the same
word after an equals sign.  Either way any text can be the value, also one that looks like an option
itself.

* `Spelling.words` — the words of an option; `ofWords_spelling` reads them back.
* `Given` — an option of a build, with its value; `last?` is the value that counts.
* `ofWords_build` — what a command line that builds asks for.
-/

namespace DeckPress.Command

/-- Whether the value of an option is the next word, or stands in the same word. -/
inductive Spelling where
  | apart
  | joined

/-- The words that give an option a value. -/
def Spelling.words (name value : String) : Spelling → List String
  | apart => [name, value]
  | joined => [name ++ "=" ++ value]

/-- The option is known, takes a value, and has a name that is read back. -/
structure KnownOption.IsValued (o : KnownOption) (known : List KnownOption) : Prop where
  found : known.find? (·.name = o.name) = some o
  takesValue : o.value?.isSome = true
  isOption : Scanned.isOption o.name = true
  ne : o.name ≠ "--"
  equals : '=' ∉ o.name.toList

instance (o : KnownOption) (known : List KnownOption) : Decidable (o.IsValued known) :=
  decidable_of_iff (known.find? (·.name = o.name) = some o ∧ o.value?.isSome = true ∧
      Scanned.isOption o.name = true ∧ o.name ≠ "--" ∧ '=' ∉ o.name.toList)
    ⟨fun ⟨h1, h2, h3, h4, h5⟩ => ⟨h1, h2, h3, h4, h5⟩,
      fun ⟨h1, h2, h3, h4, h5⟩ => ⟨h1, h2, h3, h4, h5⟩⟩

namespace Scanned

variable {known : List KnownOption} {o : KnownOption} {name value : String} {rest : List String}

theorem ne_equals (hname : '=' ∉ name.toList) : ∀ c ∈ name.toList, decide (c ≠ '=') = true := by
  rintro c hc
  rw [decide_eq_true_eq]
  rintro rfl
  exact hname hc

theorem splitValue_name (hname : '=' ∉ name.toList) : splitValue name = (name, none) := by
  have htake : name.toList.takeWhile (· ≠ '=') = name.toList :=
    List.takeWhile_eq_self_iff.mpr (ne_equals hname)
  rw [splitValue, htake, if_neg (by simpa using hname), String.ofList_toList]

theorem splitValue_joined (hname : '=' ∉ name.toList) (value : String) :
    splitValue (name ++ "=" ++ value) = (name, some value) := by
  have hword : (name ++ "=" ++ value).toList = name.toList ++ '=' :: value.toList := by
    rw [String.toList_append, String.toList_append, List.append_assoc]
    rfl
  have htake : (name.toList ++ '=' :: value.toList).takeWhile (· ≠ '=') = name.toList := by
    rw [List.takeWhile_append_of_pos (ne_equals hname)]
    simp
  have hdrop : (name.toList ++ '=' :: value.toList).drop (name.toList.length + 1) =
      value.toList := by
    rw [← List.drop_drop, List.drop_left]
    rfl
  rw [splitValue, hword, htake, if_pos (by simp), hdrop, String.ofList_toList, String.ofList_toList]

theorem isOption_append (hname : isOption name = true) (rest : String) :
    isOption (name ++ rest) = true := by
  rw [isOption, String.toList_append]
  unfold isOption at hname
  split at hname
  · rename_i hlist
    rw [hlist]
    rfl
  · cases hname

theorem joined_ne (name value : String) : name ++ "=" ++ value ≠ "--" := by
  intro he
  have hmem : '=' ∈ (name ++ "=" ++ value).toList := by simp
  rw [he] at hmem
  exact absurd hmem (by decide)

/-- An option is read back, however it is spelled and whatever its value is. -/
theorem ofWords_spelling (ho : o.IsValued known) (s : Spelling) (value : String)
    (rest : List String) : ofWords known true (s.words o.name value ++ rest) =
      (ofWords known true rest).map (addOption o.name value) := by
  cases s with
  | apart =>
    show ofWords known true (o.name :: value :: rest) = _
    rw [ofWords, if_neg ho.ne, if_pos ho.isOption, splitValue_name ho.equals]
    simp only [ho.found, if_pos ho.takesValue]
  | joined =>
    show ofWords known true ((o.name ++ "=" ++ value) :: rest) = _
    rw [ofWords, if_neg (joined_ne o.name value), String.append_assoc,
      if_pos (isOption_append ho.isOption _), ← String.append_assoc, splitValue_joined ho.equals]
    simp only [ho.found, if_pos ho.takesValue]

end Scanned

/-! ## The options of a build -/

/-- The options of a build. -/
inductive BuildOption where
  | contentDir
  | theme
  | outputDir
deriving DecidableEq

namespace BuildOption

/-- What is known about the option. -/
def known : BuildOption → KnownOption
  | contentDir => Description.contentDirOption
  | theme => Description.themeOption
  | outputDir => Description.outputDirOption

/-- The setting that the option goes before. -/
def key : BuildOption → String
  | contentDir => Settings.contentDir
  | theme => Settings.theme
  | outputDir => Settings.outputDir

theorem isValued (o : BuildOption) : o.known.IsValued Description.build.options := by
  cases o <;> decide

theorem name_inj {o o' : BuildOption} : o.known.name = o'.known.name ↔ o = o' := by
  cases o <;> cases o' <;> decide

theorem ne_help (o : BuildOption) : o.known.name ≠ Description.helpOption.name := by
  cases o <;> decide

end BuildOption

/-- An option of a build that is given, with its value. -/
structure Given where
  option : BuildOption
  value : String
  spelling : Spelling

namespace Given

/-- The words that give the option. -/
def words (g : Given) : List String := g.spelling.words g.option.known.name g.value

/-- The value of an option; the last one, if it is given several times. -/
def last? (given : List Given) (o : BuildOption) : Option String :=
  (given.reverse.find? (·.option = o)).map (·.value)

/-- The options as they are read back. -/
def scanned (given : List Given) : Scanned where
  options := given.map fun g => (g.option.known.name, g.value)

variable {given : List Given}

/-- What is read back are the options in their order, and nothing else. -/
theorem ofWords_words (given : List Given) :
    Scanned.ofWords Description.build.options true (given.flatMap words) =
      .ok (scanned given) := by
  induction given with
  | nil => rfl
  | cons g given ih =>
    rw [List.flatMap_cons, words, Scanned.ofWords_spelling g.option.isValued, ih]
    rfl

theorem value?_scanned (given : List Given) (o : BuildOption) :
    (scanned given).value? o.known.name = last? given o := by
  rw [Scanned.value?, last?, scanned, ← List.map_reverse, List.find?_map]
  simp only [Function.comp_def, BuildOption.name_inj, Option.map_map]

theorem not_has_help (given : List Given) :
    (scanned given).has Description.helpOption.name = false := by
  rw [Scanned.has, scanned, List.any_map, List.any_eq_false]
  intro g _
  simpa using g.option.ne_help

/-- What the options ask a build to do differently. -/
def overrides (given : List Given) : Overrides where
  contentDir? := last? given .contentDir
  theme? := last? given .theme
  outputDir? := last? given .outputDir

end Given

/-- A command line with any options of a build asks for a build in which the last value of each
option counts. -/
theorem ofWords_build (given : List Given) :
    Invocation.ofWords ("build" :: given.flatMap Given.words) =
      .ok (.build (Given.overrides given)) := by
  have hread : Invocation.ofCommand Description.build (given.flatMap Given.words)
      Invocation.buildOf = .ok (.build (Given.overrides given)) := by
    have hbuild : Invocation.buildOf (Given.scanned given) =
        .ok (.build (Given.overrides given)) := by
      rw [Invocation.buildOf, Given.overrides, ← Given.value?_scanned, ← Given.value?_scanned,
        ← Given.value?_scanned]
      rfl
    rw [Invocation.ofCommand, Invocation.ofCommand.read, Given.ofWords_words]
    simp only [bind, Except.bind, Given.not_has_help, hbuild]
    rfl
  exact hread

end DeckPress.Command
