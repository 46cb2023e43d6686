import DeckPress.Proofs.Host.Keep

/-!
# Acts on files only

The operations on files neither look at the program that is installed, the clock, how far the
preview has come and what was seen so far, nor change them.

* `Host.Surroundings` — all of that; `Host.among` is a host in other surroundings.
* `IsLocal` — in other surroundings the act does the same, and leaves them as they are;
  `IsLocal.surroundings`, `IsLocal.preserves` — what follows for one host.
* `isLocal_writePage`, `isLocal_unlink`, `isLocal_rename`, `isLocal_replace`, `isLocal_removeTree`,
  `isLocal_makeDirectories` — the operations.
-/

namespace DeckPress

namespace Host

/-- What a host has besides its files. -/
structure Surroundings where
  program : Program
  clock : Int
  progress : Preview.Progress
  events : List Event

def surroundings (h : Host) : Surroundings := ⟨h.program, h.clock, h.progress, h.events⟩

/-- The host in other surroundings. -/
def among (h : Host) (s : Surroundings) : Host :=
  { h with program := s.program, clock := s.clock, progress := s.progress, events := s.events }

end Host

open Host

namespace Act

variable {α β : Type} {P : Host → Prop} {h : Host} {s : Surroundings}

/-- In other surroundings the act does the same, and leaves them as they are. -/
def IsLocal (a : Act α) : Prop :=
  ∀ h s, a.on (h.among s) = ((a.on h).1, (a.on h).2.among s)

theorem IsLocal.surroundings {a : Act α} (ha : IsLocal a) (h : Host) :
    (a.on h).2.surroundings = h.surroundings := by
  have hsame : a.on h = ((a.on h).1, (a.on h).2.among h.surroundings) := ha h h.surroundings
  rw [hsame]
  rfl

/-- What `P` says of the surroundings is still true after a local act. -/
theorem IsLocal.preserves {a : Act α} (ha : IsLocal a)
    (hP : ∀ g g' : Host, g'.surroundings = g.surroundings → P g → P g') : Preserves P a :=
  fun h => hP h _ (ha.surroundings h)

/-! ## Sequences -/

theorem isLocal_pure (x : α) : IsLocal (pure x : Act α) := fun _ _ => rfl

theorem isLocal_throw (e : Failure) : IsLocal (throw e : Act α) := fun _ _ => rfl

theorem isLocal_fail (c : Cause) : IsLocal (fail c : Act α) := isLocal_throw _

theorem isLocal_commit (t : Tree) : IsLocal (commit t) := fun _ _ => rfl

theorem IsLocal.bind {a : Act α} {f : α → Act β} (ha : IsLocal a) (hf : ∀ x, IsLocal (f x)) :
    IsLocal (a >>= f) := by
  intro h s
  rw [on_bind, on_bind, ha h s]
  cases hrun : a.on h with
  | mk r h₁ =>
    cases r with
    | ok x => exact hf x h₁ s
    | error e => rfl

/-- What is done with the host may depend on its files. -/
theorem isLocal_get_bind {f : Host → Act α} (hf : ∀ h, IsLocal (f h))
    (hsame : ∀ h s, f (h.among s) = f h) : IsLocal (get >>= f) := by
  intro h s
  rw [on_get_bind, on_get_bind, hsame]
  exact hf h h s

theorem IsLocal.attempt {a : Act α} (ha : IsLocal a) : IsLocal (attempt a) := by
  intro h s
  rw [on_attempt, on_attempt, ha h s]

theorem isLocal_resume (r : Except Failure α) : IsLocal (resume r) := by
  cases r with
  | ok x => exact isLocal_pure x
  | error e => exact isLocal_throw e

theorem isLocal_lift (r : Except Cause α) : IsLocal (lift r) := by
  cases r with
  | ok x => exact isLocal_pure x
  | error c => exact isLocal_fail c

/-- An act behind a check. -/
theorem IsLocal.check {b : Bool} {e : Failure} {a : Act α} (ha : IsLocal a) :
    IsLocal (if (!b) = true then (throw e : Act Unit) >>= fun _ => a else a) := by
  split
  · exact (isLocal_throw e).bind fun _ => ha
  · exact ha

/-! ## Looking things up -/

theorem isLocal_heed (call : Call) (p : Path) : IsLocal (heed call p) := by
  refine isLocal_get_bind (fun h => ?_) fun _ _ => rfl
  split
  · exact isLocal_fail _
  · exact isLocal_pure _

theorem isLocal_guardPath (p : Path) : IsLocal (guardPath p) := by
  rw [guardPath]
  split
  · exact isLocal_fail _
  · exact isLocal_pure _

theorem isLocal_lookUp (p : Path) (find : Tree → Loc → Except Errno α) :
    IsLocal (lookUp p find) := by
  refine (isLocal_guardPath p).bind fun _ => isLocal_get_bind (fun h => ?_) fun _ _ => rfl
  split
  · exact isLocal_pure _
  · exact isLocal_fail _

theorem isLocal_probe (p : Path) : IsLocal (probe p) :=
  isLocal_get_bind (fun _ => isLocal_lift _) fun _ _ => rfl

theorem isLocal_isThere (p : Path) : IsLocal (isThere p) :=
  (isLocal_probe p).bind fun _ => isLocal_pure _

theorem isLocal_isFile (p : Path) : IsLocal (isFile p) :=
  (isLocal_probe p).bind fun _ => isLocal_pure _

theorem isLocal_isDirectory (p : Path) : IsLocal (isDirectory p) :=
  (isLocal_probe p).bind fun _ => isLocal_pure _

theorem isLocal_keep {test : Path → Act Bool} (htest : ∀ p, IsLocal (test p)) (ps : List Path) :
    IsLocal (keep test ps) := by
  induction ps with
  | nil => exact isLocal_pure _
  | cons p ps ih => exact (htest p).bind fun _ => ih.bind fun _ => isLocal_pure _

theorem isLocal_list (p : Path) : IsLocal (list p) :=
  (isLocal_heed _ p).bind fun _ => isLocal_lookUp p _

theorem isLocal_readPage (p : Path) : IsLocal (readPage p) :=
  (isLocal_heed _ p).bind fun _ => (isLocal_lookUp p _).bind fun _ => isLocal_pure _

/-! ## Changing the tree -/

theorem isLocal_edit (p : Path) (change : Tree → Loc → Except Errno Tree) :
    IsLocal (edit p change) := by
  refine (isLocal_guardPath p).bind fun _ => isLocal_get_bind (fun h => ?_) fun _ _ => rfl
  split
  · exact isLocal_commit _
  · exact isLocal_fail _

theorem isLocal_writePage (p : Path) (bytes : List UInt8) : IsLocal (writePage p bytes) := by
  refine (isLocal_heed _ p).bind fun _ => isLocal_get_bind (fun h => ?_) fun _ _ => rfl
  exact (isLocal_edit p _).bind fun _ _ _ => rfl

theorem isLocal_unlink (p : Path) : IsLocal (unlink p) :=
  (isLocal_heed _ p).bind fun _ => isLocal_edit p _

theorem isLocal_move (p q : Path) : IsLocal (move p q) := by
  refine (isLocal_guardPath p).bind fun _ => (isLocal_guardPath q).bind fun _ =>
    isLocal_get_bind (fun h => ?_) fun _ _ => rfl
  split
  · exact isLocal_commit _
  · exact isLocal_fail _

theorem isLocal_rename (p q : Path) : IsLocal (rename p q) :=
  (isLocal_heed _ p).bind fun _ => isLocal_move p q

theorem isLocal_replace (p q : Path) : IsLocal (replace p q) :=
  (isLocal_heed _ p).bind fun _ => isLocal_move p q

theorem isLocal_removeTree (p : Path) : IsLocal (removeTree p) := by
  refine (isLocal_heed _ p).bind fun _ => (isLocal_guardPath p).bind fun _ =>
    isLocal_get_bind (fun h => ?_) fun _ _ => rfl
  split
  · exact isLocal_commit _
  · refine (isLocal_commit _).bind fun _ => ?_
    split_ifs
    · exact isLocal_fail _
    · exact isLocal_fail _

theorem isLocal_makeDirectories (p : Path) : IsLocal (makeDirectories p) := by
  refine (isLocal_guardPath p).bind fun _ => isLocal_get_bind (fun h => ?_) fun _ _ => rfl
  split
  · exact isLocal_commit _
  · exact (isLocal_commit _).bind fun _ => isLocal_fail _

end Act

end DeckPress
