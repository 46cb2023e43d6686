import DeckPress.Proofs.Host.Keep
import DeckPress.Proofs.Tree.Files

/-!
# Acts that touch only some files

* `Host.Contained` — the host has a given program, and the files of its tree are those of a given
  tree, but for those at some places.
* `contained_writePage`, `contained_unlink`, `contained_rename`, `contained_replace`,
  `contained_removeTree`, `contained_makeDirectories` — the operations, whatever comes of them.
-/

namespace DeckPress

namespace Host

variable {program : Program} {D : Loc → Prop} {t u : Tree} {h h' : Host}

/-- The host has the program, and its tree holds the same files as `t` outside `D`. -/
structure Contained (program : Program) (D : Loc → Prop) (t : Tree) (h : Host) : Prop where
  program : h.program = program
  files : Tree.FilesWithin D t h.tree

theorem Contained.of_same (hc : Contained program D t h) (hprogram : h'.program = h.program)
    (htree : h'.tree = h.tree) : Contained program D t h' :=
  ⟨hprogram.trans hc.program, htree ▸ hc.files⟩

theorem Contained.commit (hc : Contained program D t h) (hu : Tree.FilesWithin D h.tree u) :
    Contained program D t (h.commit u) :=
  ⟨hc.program, hc.files.trans hu⟩

end Host

open Host

namespace Act

variable {program : Program} {D : Loc → Prop} {t : Tree} {h : Host} {p p' : Path} {k : Loc}
  {f : File}

/-- A page that is there is written anew. -/
theorem contained_writePage (hc : Contained program D t h) (hl : h.locate p = .ok k)
    (hfile : h.tree.get? k = some (.file f)) (hD : D k) (bytes : List UInt8) :
    Contained program D t ((writePage p bytes).on h).2 := by
  refine after_bind ((isQuery_heed _ p).preserves _ h hc) fun _ h₁ hheed _ => ?_
  cases (isQuery_heed _ p).eq hheed
  rw [on_get_bind]
  refine after_bind (after_edit hc fun k' u _ hl' hu => ?_) fun _ g _ hg => hg.of_same rfl rfl
  rw [hl] at hl'
  cases hl'
  obtain ⟨-, rfl⟩ := Tree.writeFile_eq_ok.mp hu
  exact hc.commit ((Tree.filesWithin_set hfile).mono fun q hq => hq ▸ hD)

theorem contained_unlink (hp : p.IsPlain) (hD : D p.names) :
    Preserves (Contained program D t) (unlink p) := by
  refine ((isQuery_heed _ p).preserves _).bind fun _ h hc =>
    after_edit hc fun k u _ hl hu => ?_
  obtain ⟨-, -, rfl⟩ := (Tree.locate_eq_ok hp).mp hl
  exact hc.commit ((Tree.filesWithin_of_unlink hu).mono fun q hq => hq ▸ hD)

theorem contained_move (hp : p.IsPlain) (hp' : p'.IsPlain) (hD : ∀ q, Tree.Below p.names q → D q)
    (hD' : ∀ q, Tree.Below p'.names q → D q) : Preserves (Contained program D t) (move p p') := by
  apply preserves_move_of
  intro h u hc hnul hu
  exact hc.commit ((Tree.filesWithin_of_rename hp hp' hnul hu).mono fun q hq =>
    hq.elim (hD q) (hD' q))

theorem contained_rename (hp : p.IsPlain) (hp' : p'.IsPlain)
    (hD : ∀ q, Tree.Below p.names q → D q) (hD' : ∀ q, Tree.Below p'.names q → D q) :
    Preserves (Contained program D t) (rename p p') :=
  ((isQuery_heed _ p).preserves _).bind fun _ => contained_move hp hp' hD hD'

theorem contained_replace (hp : p.IsPlain) (hp' : p'.IsPlain)
    (hD : ∀ q, Tree.Below p.names q → D q) (hD' : ∀ q, Tree.Below p'.names q → D q) :
    Preserves (Contained program D t) (replace p p') :=
  ((isQuery_heed _ p).preserves _).bind fun _ => contained_move hp hp' hD hD'

theorem contained_removeTree (hp : p.IsPlain) (hne : p.names ≠ [])
    (hD : ∀ q, Tree.Below p.names q → D q) : Preserves (Contained program D t) (removeTree p) := by
  apply preserves_removeTree_of
  · intro h u hc hu
    exact hc.commit (((Tree.filesWithin_of_removeTree hp hne).1 u hu).mono hD)
  · intro h e u hc hu
    exact hc.commit (((Tree.filesWithin_of_removeTree hp hne).2 e u hu).mono hD)

/-- Directories are made wherever no file is in the way. -/
theorem contained_makeDirectories (hp : p.IsPlain) :
    Preserves (Contained program D t) (makeDirectories p) := by
  apply preserves_makeDirectories_of
  · intro h u hc hnul hu
    exact hc.commit ((Tree.filesWithin_of_makeDirectories hp hnul).1 u hu)
  · intro h e q u hc hnul hu
    exact hc.commit ((Tree.filesWithin_of_makeDirectories hp hnul).2 e q u hu)

end Act

end DeckPress
