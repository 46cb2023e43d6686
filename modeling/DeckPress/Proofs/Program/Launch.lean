import DeckPress.Program.Writing
import DeckPress.Rendering
import DeckPress.Proofs.Host.Act
import DeckPress.Proofs.Path.Text

/-!
# Starting programs

The system looks at a command line and at the directory before it starts a program
(`Rendering.refusal?`), so a call of the renderer comes to a run of the program, or to a refusal that
leaves the tree alone.

* `refusal?_eq_none` — what the words and the directory need; `Starts` — the program is started.
* `isOs_or_nulInPath` — a refusal is a failure of the file system, unless a word or the directory
  holds the character NUL.
* `launch_cases`, `launch_eq_ok` — what a call comes to; `of_launch` — what it keeps.
* `FailsPlainly` — a program fails, for one command line, for causes of the file system only;
  `failsPlainly_writer` — those that write fixed files do.  `isOs_or_nul_of_launch` — so does a call
  then, unless a path in its command line holds a NUL.
-/

namespace DeckPress.Rendering

open Act

variable {h : Host} {command : List String} {directory contentDir outputDir theme : Path} {t : Tree}
  {c : Cause} {program : String}

/-! ## Words -/

theorem nul_mem_intercalate (names : List String) :
    '\x00' ∈ ("/".intercalate names).toList ↔ ∃ name ∈ names, '\x00' ∈ name.toList := by
  induction names with
  | nil => simp
  | cons name names ih =>
    cases names with
    | nil => simp
    | cons name' names =>
      rw [String.intercalate_cons_cons, String.toList_append, String.toList_append,
        List.mem_append, List.mem_append, ih, List.exists_mem_cons_iff]
      simp [Path.toList_slash]

/-- The text of a path is a word if the path has no NUL in it. -/
theorem isWord_toString (p : Path) : isWord p.toString = !p.hasNul := by
  have hroot : ∀ r : Path.Root, '\x00' ∉ r.text.toList := by
    rintro ⟨⟩ <;> decide
  have hnul : '\x00' ∈ p.toString.toList ↔ ∃ name ∈ p.names, '\x00' ∈ name.toList := by
    rw [Path.toString]
    split
    · rename_i hempty
      simp [hempty.2]
    · rw [String.toList_append, List.mem_append, nul_mem_intercalate]
      simp [hroot]
  rw [isWord, Path.hasNul, Bool.not_inj_iff, Bool.eq_iff_iff, List.contains_iff_mem, hnul]
  simp

/-- The words of the command line for a site. -/
theorem forall_mem_command :
    (∀ w ∈ Rendering.command program contentDir outputDir theme, isWord w = true) ↔
      isWord program = true ∧ contentDir.hasNul = false ∧ outputDir.hasNul = false ∧
        theme.hasNul = false := by
  have hstatic : isWord "--static" = true := by decide
  have htheme : isWord "--theme" = true := by decide
  simp [Rendering.command, isWord_toString, hstatic, htheme]

/-- A text that is read as a path is a word if the path has no NUL in it. -/
theorem isWord_eq_ofString (s : String) : isWord s = !(Path.ofString s).hasNul := by
  rw [isWord, Bool.not_inj_iff, Bool.eq_iff_iff, List.contains_iff_mem, Path.hasNul,
    List.any_eq_true]
  constructor
  · intro hmem
    obtain ⟨piece, hpiece, hin⟩ : ∃ piece ∈ Text.pieces '/' s.toList, '\x00' ∈ piece :=
      Text.exists_mem_pieces hmem (by decide)
    have hname : Path.isName piece = true := by
      rw [Path.isName, Bool.not_eq_true', Bool.or_eq_false_iff]
      refine ⟨List.isEmpty_eq_false_iff.mpr (List.ne_nil_of_mem hin), ?_⟩
      rw [beq_eq_false_iff_ne]
      rintro rfl
      simp at hin
    exact ⟨_, List.mem_map_of_mem (List.mem_filter.mpr ⟨hpiece, hname⟩), by simpa using hin⟩
  · rintro ⟨name, hname, hin⟩
    obtain ⟨piece, hpiece, rfl⟩ := List.mem_map.mp hname
    exact Text.mem_of_mem_pieces (List.mem_filter.mp hpiece).1 (by simpa using hin)

/-- A program that is found can be the first word of a command line. -/
theorem isWord_of_find? {name : String} {root : Path} {h' : Host}
    (hfind : (Program.find? name (some root) true).on h = (.ok (some program), h')) :
    isWord program = true := by
  simp only [Program.find?, on_bind_eq_ok, on_isThere_eq_ok, on_get_bind, on_pure_eq_ok,
    if_true] at hfind
  obtain ⟨_, _, ⟨rfl, n?, hlook, rfl⟩, _, _, ⟨rfl, rfl⟩, hfound, -⟩ := hfind
  cases n? with
  | some n =>
    cases hfound
    rw [isWord_toString, hasNul_of_look hlook]
    rfl
  | none =>
    have hhost : Program.onHost? _ name = some program := hfound.symm
    obtain ⟨file, hfile, rfl⟩ := Option.map_eq_some_iff.mp hhost
    have hcan := List.find?_some hfile
    rw [Program.canRun, Bool.and_eq_true] at hcan
    obtain ⟨-, hcan⟩ := hcan
    split at hcan
    · rename_i hlook
      rw [isWord_eq_ofString, hasNul_of_look hlook]
      rfl
    · cases hcan

/-! ## Refusals -/

/-- A program is started with words that can be handed on, in a directory that is there. -/
theorem refusal?_eq_none : refusal? h command directory = none ↔
    directory.hasNul = false ∧ (∀ w ∈ command, isWord w = true) ∧
      ∃ k, h.locate directory = .ok k ∧ h.tree.get? k = some .directory := by
  rw [refusal?]
  split
  · rename_i hnul
    simp only [Bool.or_eq_true, Bool.not_eq_true', List.all_eq_false] at hnul
    simp only [reduceCtorEq, false_iff]
    rintro ⟨hdirectory, hwords, -⟩
    rcases hnul with hnul | ⟨w, hw, hnul⟩
    · simp [hdirectory] at hnul
    · exact hnul (hwords w hw)
  · rename_i hnul
    simp only [Bool.or_eq_true, Bool.not_eq_true', not_or, Bool.not_eq_false, Bool.not_eq_true,
      List.all_eq_true] at hnul
    rw [and_iff_right hnul.1, and_iff_right hnul.2]
    cases hl : h.locate directory with
    | error e => simp [bind, Except.bind]
    | ok k =>
      have henter : h.tree.enter k = .ok () ↔ h.tree.get? k = some .directory := by
        rw [Tree.enter]
        split <;> simp_all
      simp only [bind, Except.bind, Except.ok.injEq, exists_eq_left', ← henter]
      cases h.tree.enter k <;> simp

/-- A refusal is a failure of the file system, or a NUL is in the way. -/
theorem isOs_or_nulInPath (hc : refusal? h command directory = some c) :
    c.isOs = true ∨ c = .nulInPath ∧
      (directory.hasNul = true ∨ ∃ w ∈ command, isWord w = false) := by
  rw [refusal?] at hc
  split at hc
  · rename_i hnul
    cases hc
    exact .inr ⟨rfl, by simpa using hnul⟩
  · split at hc <;> cases hc
    exact .inl rfl

/-! ## Calls -/

/-- The system starts the program of the host. -/
def Starts (h : Host) (command : List String) (directory : Path) : Prop :=
  h.program.isPlayed = true ∨ refusal? h command directory = none

/-- A program runs, or the system refuses to start it and nothing changes. -/
theorem launch_cases (h : Host) (command : List String) (directory : Path) :
    Starts h command directory ∧
      launch h command directory = h.program.run command directory.names h.tree ∨
    ∃ c, refusal? h command directory = some c ∧
      launch h command directory = (.error c, h.tree) := by
  rw [launch, Starts]
  cases h.program.isPlayed with
  | true => exact .inl ⟨.inl rfl, rfl⟩
  | false =>
    cases hc : refusal? h command directory with
    | none => exact .inl ⟨.inr rfl, rfl⟩
    | some c => exact .inr ⟨c, rfl, rfl⟩

theorem launch_of_starts (hstarts : Starts h command directory) :
    launch h command directory = h.program.run command directory.names h.tree := by
  rw [launch]
  rcases hstarts with hplayed | hnone
  · rw [hplayed]
    rfl
  · rw [hnone, ite_self]

/-- What holds of the tree, and after the program has run as well, holds after a call. -/
theorem of_launch {P : Tree → Prop} (h0 : P h.tree)
    (hrun : P (h.program.run command directory.names h.tree).2) :
    P (launch h command directory).2 := by
  obtain ⟨-, hlaunch⟩ | ⟨c, -, hlaunch⟩ := launch_cases h command directory
  · rwa [hlaunch]
  · rwa [hlaunch]

/-- A program ends with a status if it is started and then does. -/
theorem launch_eq_ok {status : Int} : launch h command directory = (.ok status, t) ↔
    Starts h command directory ∧
      h.program.run command directory.names h.tree = (.ok status, t) := by
  constructor
  · intro hlaunch
    obtain ⟨hstarts, hrun⟩ | ⟨c, -, hrefused⟩ := launch_cases h command directory
    · exact ⟨hstarts, hrun.symm.trans hlaunch⟩
    · cases hrefused.symm.trans hlaunch
  · rintro ⟨hstarts, hrun⟩
    exact (launch_of_starts hstarts).trans hrun

/-! ## Failures of calls -/

/-- The command line and the directory can be handed on to a program. -/
def CanBeHandedOn (command : List String) (directory : Path) : Prop :=
  directory.hasNul = false ∧ ∀ w ∈ command, isWord w = true

/-- A run with a command line in a directory fails for causes of the file system only.  What the
system does not hand on matters only for a program that is played. -/
def FailsPlainly (program : Program) (command : List String) (directory : Path) : Prop :=
  program.isPlayed = true ∨ CanBeHandedOn command directory → ∀ t c u,
    program.run command directory.names t = (.error c, u) → c.isOs = true

/-- A file operation that breaks is a failure of the file system. -/
theorem isOs_of_broken {written : Except Tree.Broken Tree}
    (hbroken : written.mapError Program.failureOf = .error (c, t)) : c.isOs = true := by
  cases written with
  | ok t' => cases hbroken
  | error broken =>
    cases hbroken
    rfl

/-- A program that writes fixed files fails for causes of the file system only, where it can name the
directory for the site. -/
theorem isOs_of_writeFiles {files : List (String × Node)} {status : Int} {cwd : Loc} {u : Tree}
    (hnul : (Program.outputOf command cwd).hasNul = false)
    (hrun : Program.writeFiles files status command cwd t = (.error c, u)) : c.isOs = true := by
  rw [Program.writeFiles, hnul, if_neg Bool.false_ne_true] at hrun
  split at hrun
  · cases hrun
  · rename_i hbroken
    cases hrun
    exact isOs_of_broken hbroken

/-- Programs that write fixed files fail for causes of the file system only. -/
theorem failsPlainly_writer (files : List (String × Node)) (status : Int) (command : List String)
    (directory : Path) : FailsPlainly (.writer files status) command directory := by
  rintro hhanded t c u hrun
  obtain ⟨hdirectory, hwords⟩ := hhanded.resolve_left Bool.false_ne_true
  have hnamed : (Path.ofString (command[3]?.getD "")).hasNul = false := by
    have hword : isWord (command[3]?.getD "") = true := by
      cases hthird : command[3]? with
      | none => decide
      | some w => exact hwords w (List.mem_of_getElem? hthird)
    simpa [isWord_eq_ofString] using hword
  refine isOs_of_writeFiles ?_ hrun
  rw [Program.outputOf, Path.append]
  split
  · exact hnamed
  · rw [Path.hasNul, List.any_append, Bool.or_eq_false_iff]
    exact ⟨hdirectory, hnamed⟩

/-- A call of the renderer for a site fails for a cause of the file system, or a NUL is in the
way. -/
theorem isOs_or_nul_of_launch (hword : isWord program = true)
    (hplain : FailsPlainly h.program (Rendering.command program contentDir outputDir theme)
      directory)
    (hlaunch : launch h (Rendering.command program contentDir outputDir theme) directory =
      (.error c, t)) :
    c.isOs = true ∨
      c = .nulInPath ∧ [directory, contentDir, outputDir, theme].any Path.hasNul = true := by
  obtain ⟨hstarts, hran⟩ | ⟨c', hrefused, hleft⟩ :=
    launch_cases h (Rendering.command program contentDir outputDir theme) directory
  · refine .inl (hplain (hstarts.imp_right fun hnone => ?_) _ _ _ (hran.symm.trans hlaunch))
    obtain ⟨hdirectory, hwords, -⟩ := refusal?_eq_none.mp hnone
    exact ⟨hdirectory, hwords⟩
  cases hleft.symm.trans hlaunch
  refine (isOs_or_nulInPath hrefused).imp_right (And.imp_right fun hnul => ?_)
  by_contra hfree
  simp only [List.any_cons, List.any_nil, Bool.or_false, Bool.or_eq_true, not_or,
    Bool.not_eq_true] at hfree
  obtain ⟨hdirectory, hcontent, houtput, htheme⟩ := hfree
  have hwords := forall_mem_command.mpr ⟨hword, hcontent, houtput, htheme⟩
  rcases hnul with hnul | ⟨w, hw, hnul⟩
  · cases hdirectory.symm.trans hnul
  · cases (hwords w hw).symm.trans hnul

end DeckPress.Rendering
