import DeckPress.Proofs.Host.Course
import DeckPress.Proofs.Tree.Spare

/-!
# Files that outlast an act

A file outlasts every act that touches neither its place nor the way to it.  Whether an act does can
be read off the places of its paths, and nothing has to be known of how the act ends.

* `Host.Keeps` — the host has a given program, and a given file at a given place.
* `Preserves P a` — what `P` says of a host before the act is true of it afterwards, too;
  `after_edit`, `preserves_move_of`, `preserves_removeTree_of`, `preserves_makeDirectories_of` — it
  is enough that `P` is true of the trees that the operations leave.
* `preserves_unlink`, `preserves_writePage`, `preserves_rename`, `preserves_replace`,
  `preserves_removeTree`, `preserves_makeDirectories` — the operations.
-/

namespace DeckPress

namespace Host

variable {program : Program} {h h₁ : Host} {q : Loc} {f : File}

/-- The host has the program, and the file `f` at the place `q`. -/
structure Keeps (program : Program) (q : Loc) (f : File) (h : Host) : Prop where
  program : h.program = program
  hasFile : h.tree.HasFile q f

theorem Keeps.of_same (hk : Keeps program q f h) (hprogram : h₁.program = h.program)
    (htree : h₁.tree = h.tree) : Keeps program q f h₁ :=
  ⟨hprogram.trans hk.program, htree ▸ hk.hasFile⟩

/-- A file is still there where a course kept off it and the way to it. -/
theorem Keeps.of_course (hk : Keeps program q f h) (hc : Course (fun r => ¬ r <+: q) h h₁) :
    Keeps program q f h₁ :=
  ⟨hc.program.trans hk.program, hk.hasFile.spared hc.tree.spares⟩

end Host

open Host

namespace Act

variable {α β : Type} {P : Host → Prop} {program : Program} {h : Host} {p p' : Path} {q : Loc}
  {f : File}

/-- Whatever comes of the act, what `P` says of the host before is true of it afterwards. -/
def Preserves (P : Host → Prop) (a : Act α) : Prop := ∀ h, P h → P (a.on h).2

theorem Preserves.bind {a : Act α} {g : α → Act β} (ha : Preserves P a)
    (hg : ∀ x, Preserves P (g x)) : Preserves P (a >>= g) := by
  intro h h0
  apply after_bind (ha h h0)
  intro x h₁ _ h1
  exact hg x h₁ h1

theorem IsQuery.preserves {a : Act α} (ha : IsQuery a) (P : Host → Prop) : Preserves P a := by
  intro h h0
  rwa [ha h]

/-! ## The trees that operations leave -/

theorem hasNul_of_guardPath {u : Unit} {h' : Host} (hrun : (guardPath p).on h = (.ok u, h')) :
    p.hasNul = false := by
  rw [guardPath] at hrun
  cases hnul : p.hasNul with
  | false => rfl
  | true =>
    rw [hnul] at hrun
    cases on_fail_eq_ok.mp hrun

/-- What follows a check of a path may rely on it. -/
theorem preserves_guardPath_bind {f : Unit → Act α} (hf : p.hasNul = false → Preserves P (f ())) :
    Preserves P (guardPath p >>= f) := by
  intro h h0
  refine after_bind ((isQuery_guardPath p).preserves P h h0) fun _ h₁ hguard h1 => ?_
  exact hf (hasNul_of_guardPath hguard) h₁ h1

theorem after_edit {change : Tree → Loc → Except Errno Tree} (h0 : P h)
    (hchange : ∀ k t, p.hasNul = false → h.locate p = .ok k → change h.tree k = .ok t →
      P (h.commit t)) : P ((edit p change).on h).2 := by
  refine after_bind ((isQuery_guardPath p).preserves P h h0) fun _ h₁ hguard _ => ?_
  have hnul := hasNul_of_guardPath hguard
  cases (isQuery_guardPath p).eq hguard
  rw [on_get_bind]
  cases hl : h.locate p with
  | error e => exact h0
  | ok k =>
    cases ht : change h.tree k with
    | error e =>
      simp only [bind, Except.bind, ht]
      exact h0
    | ok t =>
      simp only [bind, Except.bind, ht]
      exact hchange k t hnul hl ht

theorem preserves_move_of
    (hmove : ∀ h t, P h → p'.hasNul = false → h.tree.rename h.cwd.names p p' = .ok t →
      P (h.commit t)) : Preserves P (move p p') := by
  refine preserves_guardPath_bind fun _ => preserves_guardPath_bind fun hnul h h0 => ?_
  rw [on_get_bind]
  cases ht : h.tree.rename h.cwd.names p p' with
  | error e => exact h0
  | ok t => exact hmove h t h0 hnul ht

theorem preserves_removeTree_of
    (hok : ∀ h t, P h → h.tree.removeTree h.cwd.names p = .ok t → P (h.commit t))
    (herror : ∀ h e t, P h → h.tree.removeTree h.cwd.names p = .error (e, t) → P (h.commit t)) :
    Preserves P (removeTree p) := by
  refine ((isQuery_heed _ p).preserves P).bind fun _ => preserves_guardPath_bind fun _ h h0 => ?_
  rw [on_get_bind]
  cases ht : h.tree.removeTree h.cwd.names p with
  | ok t => exact hok h t h0 ht
  | error b =>
    refine after_bind (a := commit b.2) (herror h b.1 b.2 h0 ht) fun _ h₁ _ h1 => ?_
    split_ifs
    · exact h1
    · exact h1

theorem preserves_makeDirectories_of
    (hok : ∀ h t, P h → p.hasNul = false → h.tree.makeDirectories h.cwd.names h.shows p = .ok t →
      P (h.commit t))
    (herror : ∀ h e q t, P h → p.hasNul = false →
      h.tree.makeDirectories h.cwd.names h.shows p = .error (e, q, t) → P (h.commit t)) :
    Preserves P (makeDirectories p) := by
  refine preserves_guardPath_bind fun hnul h h0 => ?_
  rw [on_get_bind]
  cases ht : h.tree.makeDirectories h.cwd.names h.shows p with
  | ok t => exact hok h t h0 hnul ht
  | error b =>
    exact after_bind (a := commit b.2.2) (herror h b.1 b.2.1 b.2.2 h0 hnul ht) fun _ _ _ h1 => h1

/-! ## The operations -/

theorem preserves_unlink (hp : p.isAbsolute = true) (hq : ¬ p.place <+: q) :
    Preserves (Keeps program q f) (unlink p) := by
  intro h hk
  apply hk.of_course
  apply course_unlink
  intro k hl
  rwa [Tree.place_of_locate hp hl]

theorem preserves_writePage (hp : p.isAbsolute = true) (hq : ¬ p.place <+: q)
    (bytes : List UInt8) : Preserves (Keeps program q f) (writePage p bytes) := by
  intro h hk
  apply hk.of_course
  apply course_writePage
  intro k hl
  rwa [Tree.place_of_locate hp hl]

/-- What lies below the place of a path is not on the way to a file, if the place is not. -/
theorem not_prefix_of_locate {t : Tree} {cwd k : Loc} (hp : p.isAbsolute = true)
    (hq : ¬ p.place <+: q) (hl : t.locate cwd p = .ok k) (r : Loc) (hr : Tree.Below k r) :
    ¬ r <+: q := by
  rw [Tree.place_of_locate hp hl] at hr
  exact Tree.not_prefix_of_below hq hr

theorem sameBut_of_moving {t u : Tree} {cwd : Loc} (hp : p.isAbsolute = true)
    (hp' : p'.isAbsolute = true) (hq : ¬ p.place <+: q) (hq' : ¬ p'.place <+: q)
    (hu : t.rename cwd p p' = .ok u) : Tree.SameBut (fun r => ¬ r <+: q) t u :=
  Tree.sameBut_of_rename hu (fun _ => not_prefix_of_locate hp hq)
    fun _ => not_prefix_of_locate hp' hq'

theorem preserves_rename (hp : p.isAbsolute = true) (hp' : p'.isAbsolute = true)
    (hq : ¬ p.place <+: q) (hq' : ¬ p'.place <+: q) :
    Preserves (Keeps program q f) (rename p p') := by
  intro h hk
  exact hk.of_course (course_rename fun t ht => sameBut_of_moving hp hp' hq hq' ht)

theorem preserves_replace (hp : p.isAbsolute = true) (hp' : p'.isAbsolute = true)
    (hq : ¬ p.place <+: q) (hq' : ¬ p'.place <+: q) :
    Preserves (Keeps program q f) (replace p p') := by
  intro h hk
  exact hk.of_course (course_replace fun t ht => sameBut_of_moving hp hp' hq hq' ht)

theorem preserves_removeTree (hp : p.isAbsolute = true) (hq : ¬ p.place <+: q) :
    Preserves (Keeps program q f) (removeTree p) := by
  intro h hk
  have hplace : ∀ k, h.tree.locate h.cwd.names p = .ok k → ∀ r, Tree.Below k r → ¬ r <+: q :=
    fun k hl => not_prefix_of_locate hp hq hl
  obtain ⟨hok, herror⟩ := Tree.sameBut_removeTree hplace
  exact hk.of_course (course_removeTree_of hok herror)

/-- A file is never in the way of directories that are made. -/
theorem preserves_makeDirectories (p : Path) :
    Preserves (Keeps program q f) (makeDirectories p) := by
  intro h hk
  apply hk.of_course
  apply course_makeDirectories_of
  · intro t ht
    have hspares := (Tree.spares_makeDirectories p).1 t ht
    exact hk.hasFile.sameBut (hspares.mono fun _ => False.elim)
  · intro e q' t ht
    have hspares := (Tree.spares_makeDirectories p).2 e q' t ht
    exact hk.hasFile.sameBut (hspares.mono fun _ => False.elim)

end Act

end DeckPress
