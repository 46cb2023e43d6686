import DeckPress.Proofs.Host.Course

/-!
# What acts fail with

A file operation fails for a cause of the file system, for a failure that waits for it, or because
its path holds a character that no name can have.  From this follows for whole acts what they can
fail with, on all hosts of a kind.

* `Host.Awaits` — on hosts of a kind, the failures that wait for a call are expected;
  `Host.ExpectsOs` — so is all that the file system can come up with.
* `Host.Expects` — so are all failures that wait, and those of the build.
* `Act.Raises` — on hosts of a kind, the act fails with nothing else, and leaves a host of the kind.
* `Raises.bind`, `Raises.seq` — a sequence of acts; what follows may rely on what came of the first
  act.  `on_bind_eq_error` — when a sequence fails.
* `raises_heed`, `raises_guardPath`, `raises_edit`, `raises_lookUp`, `raises_probe` — the forms of
  file operations, and after them the operations.
-/

namespace DeckPress

namespace Host

/-- On the hosts that `I` is true of, the failures that wait for a call are expected. -/
def Awaits (I : Host → Prop) (P : Failure → Prop) (call : Call) : Prop :=
  ∀ h, I h → ∀ f ∈ h.faults, f.call = call → P (.cause f.cause)

theorem Awaits.of_waiting? {I : Host → Prop} {P : Failure → Prop} {call : Call} {h : Host} {p : Path}
    {c : Cause} (hwait : Awaits I P call) (hI : I h) (hwaits : h.waiting? call p = some c) :
    P (.cause c) := by
  obtain ⟨f, hf, hcall, rfl⟩ := exists_of_waiting? hwaits
  exact hwait h hI f hf hcall

/-- On the hosts that `I` is true of, all that the file system can come up with is expected.  An act
that changes files only leaves a host of this kind. -/
structure ExpectsOs (I : Host → Prop) (P : Failure → Prop) : Prop where
  kept : ∀ {h h₁}, Course (fun _ => True) h h₁ → I h → I h₁
  os : ∀ e, P (.cause (.os e))

/-- On the hosts that `I` is true of, the failures that wait are expected, and so are failures of
the build and all that the file system can come up with. -/
structure Expects (I : Host → Prop) (P : Failure → Prop) : Prop extends ExpectsOs I P where
  waiting : ∀ {h}, I h → ∀ f ∈ h.faults, P (.cause f.cause)
  site : ∀ e, P (.site e)

theorem Expects.awaits {I : Host → Prop} {P : Failure → Prop} (hx : Expects I P) (call : Call) :
    Awaits I P call := fun _ hI f hf _ => hx.waiting hI f hf

theorem Expects.mono {I : Host → Prop} {P Q : Failure → Prop} (hx : Expects I P)
    (hPQ : ∀ f, P f → Q f) : Expects I Q :=
  ⟨⟨hx.kept, fun e => hPQ _ (hx.os e)⟩, fun hI f hf => hPQ _ (hx.waiting hI f hf),
    fun e => hPQ _ (hx.site e)⟩

end Host

open Host

namespace Act

variable {α β : Type} {I : Host → Prop} {P : Failure → Prop} {p q : Path} {h h' : Host}

/-- On the hosts that `I` is true of, the act fails only with what `P` is true of, and `I` is true
afterwards, too. -/
def Raises (I : Host → Prop) (P : Failure → Prop) (a : Act α) : Prop :=
  ∀ h, I h → I (a.on h).2 ∧ ∀ f, (a.on h).1 = .error f → P f

theorem Raises.mono {Q : Failure → Prop} {a : Act α} (ha : Raises I P a) (hPQ : ∀ f, P f → Q f) :
    Raises I Q a :=
  fun h hI => ⟨(ha h hI).1, fun f hf => hPQ f ((ha h hI).2 f hf)⟩

theorem Raises.of_error {a : Act α} (ha : Raises I P a) (hI : I h) {f : Failure}
    (hrun : a.on h = (.error f, h')) : P f :=
  (ha h hI).2 f (by rw [hrun])

/-! ## Sequences -/

/-- A sequence fails as its first act does, or as what follows it does. -/
theorem on_bind_eq_error {a : Act α} {f : α → Act β} {e : Failure} :
    (a >>= f).on h = (.error e, h') ↔ a.on h = (.error e, h') ∨
      ∃ x h₁, a.on h = (.ok x, h₁) ∧ (f x).on h₁ = (.error e, h') := by
  rw [on_bind]
  rcases a.on h with ⟨r, h₁⟩
  cases r <;> simp

theorem raises_pure (x : α) : Raises I P (pure x : Act α) :=
  fun _ hI => ⟨hI, fun _ hf => nomatch hf⟩

theorem raises_throw {f : Failure} (hf : P f) : Raises I P (throw f : Act α) := by
  refine fun h hI => ⟨hI, fun f' hf' => ?_⟩
  cases hf'
  exact hf

theorem raises_lift {r : Except Cause α} (hr : ∀ c, r = .error c → P (.cause c)) :
    Raises I P (lift r) := by
  cases r with
  | ok x => exact raises_pure x
  | error c => exact raises_throw (hr c rfl)

/-- What follows an act may rely on what came of it. -/
theorem Raises.bind {a : Act α} {f : α → Act β} (ha : Raises I P a)
    (hf : ∀ x h h', I h → a.on h = (.ok x, h') → Raises I P (f x)) : Raises I P (a >>= f) := by
  intro h hI
  obtain ⟨hI₁, hfail⟩ := ha h hI
  rw [on_bind]
  cases hrun : a.on h with
  | mk r h₁ =>
    rw [hrun] at hI₁ hfail
    cases r with
    | ok x => exact hf x h h₁ hI hrun h₁ hI₁
    | error e =>
      refine ⟨hI₁, fun e' he' => hfail e' ?_⟩
      cases he'
      rfl

/-- What follows an act need not rely on what came of it. -/
theorem Raises.seq {a : Act α} {f : α → Act β} (ha : Raises I P a) (hf : ∀ x, Raises I P (f x)) :
    Raises I P (a >>= f) :=
  ha.bind fun x _ _ _ _ => hf x

/-- What is done with the host may rely on its kind. -/
theorem raises_get_bind {f : Host → Act α} (hf : ∀ h, I h → Raises I P (f h)) :
    Raises I P (get >>= f) :=
  fun h hI => hf h hI h hI

/-- An act behind a check may rely on the check. -/
theorem Raises.check {b : Bool} {e : Failure} {a : Act α} (he : P e)
    (ha : b = true → Raises I P a) :
    Raises I P (if (!b) = true then (throw e : Act Unit) >>= fun _ => a else a) := by
  cases b with
  | true => exact ha rfl
  | false => exact raises_throw he

/-- An act that cannot fail. -/
theorem raises_modify (hx : ExpectsOs I P) {f : Host → Host}
    (hf : ∀ h, Course (fun _ => True) h (f h)) : Raises I P (modify f) :=
  fun h hI => ⟨hx.kept (hf h) hI, fun _ hc => nomatch hc⟩

theorem raises_commit (hx : ExpectsOs I P) (t : Tree) : Raises I P (commit t) :=
  raises_modify hx fun _ => .commit (sameBut_true _ _)

/-! ## The forms of file operations -/

theorem raises_heed {call : Call} (hwait : Awaits I P call) (p : Path) :
    Raises I P (heed call p) := by
  refine raises_get_bind fun h hI => ?_
  split
  · rename_i c hwaits
    exact raises_throw (hwait.of_waiting? hI hwaits)
  · exact raises_pure _

theorem raises_guardPath (hnul : p.hasNul = true → P (.cause .nulInPath)) :
    Raises I P (guardPath p) := by
  rw [guardPath]
  split
  · rename_i hp
    exact raises_throw (hnul hp)
  · exact raises_pure _

theorem raises_edit (hx : ExpectsOs I P) (hnul : p.hasNul = true → P (.cause .nulInPath))
    (change : Tree → Loc → Except Errno Tree) : Raises I P (edit p change) := by
  refine (raises_guardPath hnul).seq fun _ => raises_get_bind fun h _ => ?_
  split
  · exact raises_commit hx _
  · exact raises_throw (hx.os _)

theorem raises_lookUp (hos : ∀ e, P (.cause (.os e)))
    (hnul : p.hasNul = true → P (.cause .nulInPath)) (find : Tree → Loc → Except Errno α) :
    Raises I P (lookUp p find) := by
  refine (raises_guardPath hnul).seq fun _ => raises_get_bind fun h _ => ?_
  split
  · exact raises_pure _
  · exact raises_throw (hos _)

theorem raises_probe (hunseen : ∀ h c, I h → h.Unseen p c → P (.cause c)) :
    Raises I P (probe p) :=
  raises_get_bind fun h hI => raises_lift fun c hlook => hunseen h c hI (unseen_of_look hlook)

theorem raises_probe_of_os (hos : ∀ e, P (.cause (.os e))) (hwait : Awaits I P .stat) (p : Path) :
    Raises I P (probe p) := by
  refine raises_probe fun h c hI hunseen => ?_
  cases hunseen with
  | waiting hwaits => exact hwait.of_waiting? hI hwaits
  | tooLong => exact hos _

theorem raises_isThere (hos : ∀ e, P (.cause (.os e))) (hwait : Awaits I P .stat) (p : Path) :
    Raises I P (isThere p) :=
  (raises_probe_of_os hos hwait p).seq fun _ => raises_pure _

theorem raises_isFile (hos : ∀ e, P (.cause (.os e))) (hwait : Awaits I P .stat) (p : Path) :
    Raises I P (isFile p) :=
  (raises_probe_of_os hos hwait p).seq fun _ => raises_pure _

theorem raises_keep {test : Path → Act Bool} {ps : List Path}
    (htest : ∀ p ∈ ps, Raises I P (test p)) : Raises I P (keep test ps) := by
  induction ps with
  | nil => exact raises_pure _
  | cons p ps ih =>
    obtain ⟨hp, hps⟩ := List.forall_mem_cons.mp htest
    exact hp.seq fun _ => (ih hps).seq fun _ => raises_pure _

theorem hasNul_of_isThere (hrun : (isThere p).on h = (.ok true, h')) : p.hasNul = false := by
  obtain ⟨-, n?, hlook, hsome⟩ := on_isThere_eq_ok.mp hrun
  cases n? with
  | none => cases hsome
  | some n => exact hasNul_of_look hlook

theorem hasNul_of_seesFile (hsees : h.seesFile p = true) : p.hasNul = false := by
  rw [seesFile] at hsees
  cases hlook : h.look p with
  | error e =>
    rw [hlook] at hsees
    cases hsees
  | ok n? =>
    cases n? with
    | none =>
      rw [hlook] at hsees
      cases hsees
    | some n => exact hasNul_of_look hlook

theorem hasNul_of_isFile (hrun : (isFile p).on h = (.ok true, h')) : p.hasNul = false :=
  hasNul_of_seesFile (on_isFile_eq_ok.mp hrun).2.2.symm

/-! ## The operations -/

theorem raises_list (hos : ∀ e, P (.cause (.os e))) (hwait : Awaits I P .list)
    (hnul : p.hasNul = true → P (.cause .nulInPath)) : Raises I P (list p) :=
  (raises_heed hwait p).seq fun _ => raises_lookUp hos hnul _

theorem raises_readPage (hos : ∀ e, P (.cause (.os e))) (hwait : Awaits I P .read)
    (hnul : p.hasNul = true → P (.cause .nulInPath)) : Raises I P (readPage p) :=
  (raises_heed hwait p).seq fun _ => (raises_lookUp hos hnul _).seq fun _ =>
    raises_pure _

theorem raises_writePage (hx : ExpectsOs I P) (hwait : Awaits I P .write)
    (hnul : p.hasNul = true → P (.cause .nulInPath)) (bytes : List UInt8) :
    Raises I P (writePage p bytes) := by
  refine (raises_heed hwait p).seq fun _ => raises_get_bind fun h _ => ?_
  refine (raises_edit hx hnul _).seq fun _ => raises_modify hx fun h => ?_
  exact ⟨rfl, rfl, rfl, rfl, rfl, ⟨[], rfl, by simp⟩, .of_trees rfl⟩

theorem raises_unlink (hx : ExpectsOs I P) (hwait : Awaits I P .unlink)
    (hnul : p.hasNul = true → P (.cause .nulInPath)) : Raises I P (unlink p) :=
  (raises_heed hwait p).seq fun _ => raises_edit hx hnul _

theorem raises_move (hx : ExpectsOs I P) (hp : p.hasNul = true → P (.cause .nulInPath))
    (hq : q.hasNul = true → P (.cause .nulInPath)) : Raises I P (move p q) := by
  refine (raises_guardPath hp).seq fun _ => (raises_guardPath hq).seq fun _ =>
    raises_get_bind fun h _ => ?_
  split
  · exact raises_commit hx _
  · exact raises_throw (hx.os _)

theorem raises_rename (hx : ExpectsOs I P) (hwait : Awaits I P .rename)
    (hp : p.hasNul = true → P (.cause .nulInPath))
    (hq : q.hasNul = true → P (.cause .nulInPath)) : Raises I P (rename p q) :=
  (raises_heed hwait p).seq fun _ => raises_move hx hp hq

theorem raises_replace (hx : ExpectsOs I P) (hwait : Awaits I P .replace)
    (hp : p.hasNul = true → P (.cause .nulInPath))
    (hq : q.hasNul = true → P (.cause .nulInPath)) : Raises I P (replace p q) :=
  (raises_heed hwait p).seq fun _ => raises_move hx hp hq

theorem raises_removeTree (hx : ExpectsOs I P) (hwait : Awaits I P .removeTree)
    (hnul : p.hasNul = true → P (.cause .nulInPath)) : Raises I P (removeTree p) := by
  refine (raises_heed hwait p).seq fun _ => (raises_guardPath hnul).seq fun _ =>
    raises_get_bind fun h _ => ?_
  split
  · exact raises_commit hx _
  · refine (raises_commit hx _).seq fun _ => ?_
    split_ifs
    · exact raises_throw (hx.os _)
    · exact raises_throw (hx.os _)

theorem raises_makeDirectories (hx : ExpectsOs I P) (hwait : Awaits I P .stat)
    (hnul : p.hasNul = true → P (.cause .nulInPath)) : Raises I P (makeDirectories p) := by
  refine (raises_guardPath hnul).seq fun _ => raises_get_bind fun h hI => ?_
  split
  · exact raises_commit hx _
  · refine (raises_commit hx _).seq fun _ => raises_throw ?_
    rw [whyNotMade]
    split
    · split
      · exact hx.os _
      · exact hwait.of_waiting? hI ‹_›
    · exact hx.os _

end Act

end DeckPress
