import DeckPress.Host.Files
import DeckPress.Proofs.Tree.Access

/-!
# When acts succeed

An act either succeeds or fails, and every act is described by when it succeeds and what it then
leaves: `a.on h = (.ok x, h')` is rewritten step by step into facts about the tree of `h`.

* `Host.Unseen` — why a path is asked about in vain.
* `on_bind`, `on_bind_eq_ok` — a sequence of acts, and that it succeeds if one after the other does.
* `on_edit_eq_ok`, `on_lookUp_eq_ok`, `on_probe_eq_ok` — the three forms of file operations.
* `on_list_eq_ok`, `on_readPage_eq_ok`, `on_writePage_eq_ok`, `on_unlink_eq_ok`, `on_rename_eq_ok`,
  `on_replace_eq_ok` and `on_removeTree_eq_ok` — the operations, on a host where no failure waits.
-/

namespace DeckPress

/-- The host with another tree; the present one becomes the last of the past. -/
def Host.commit (h : Host) (t : Tree) : Host := { h with tree := t, past := h.tree :: h.past }

theorem Host.faults_commit (h : Host) (t : Tree) : (h.commit t).faults = h.faults := rfl

namespace Host

variable {h : Host} {call : Call} {p : Path}

theorem waiting?_eq_none : h.waiting? call p = none ↔
    ∀ f ∈ h.faults, ¬ (f.call = call ∧ h.cwd.append f.path = h.cwd.append p) := by
  simp [waiting?]

theorem waiting?_of_faults (hf : h.faults = []) : h.waiting? call p = none := by
  rw [waiting?, hf]
  rfl

theorem exists_of_waiting? {c : Cause} (hwaits : h.waiting? call p = some c) :
    ∃ f ∈ h.faults, f.call = call ∧ f.cause = c := by
  obtain ⟨f, hf, hc⟩ := Option.map_eq_some_iff.mp hwaits
  have hcall := List.find?_some hf
  simp only [decide_eq_true_eq] at hcall
  exact ⟨f, List.mem_of_find?_eq_some hf, hcall.1, hc⟩

theorem waiting?_congr {h' : Host} (hf : h'.faults = h.faults) (hcwd : h'.cwd = h.cwd) :
    h'.waiting? call p = h.waiting? call p := by
  rw [waiting?, waiting?, hf, hcwd]

end Host

/-- Whether a path is seen to be a file. -/
def Host.seesFile (h : Host) (p : Path) : Bool :=
  match h.look p with
  | .ok n? => n?.any Node.isFile
  | .error _ => false

/-- Whether a path is seen to be a directory. -/
def Host.seesDirectory (h : Host) (p : Path) : Bool :=
  match h.look p with
  | .ok n? => n?.any Node.isDirectory
  | .error _ => false

/-- Why a path is asked about in vain. -/
inductive Host.Unseen (h : Host) (p : Path) : Cause → Prop where
  /-- A failure waits for the look that does not mean that nothing is there. -/
  | waiting {c : Cause} (hwaits : h.waiting? .stat p = some c) (hc : c.isAbsence = false) :
    Unseen h p c
  /-- The path is too long. -/
  | tooLong (htoo : h.locate p = .error .nameTooLong) : Unseen h p (Errno.nameTooLong.on p)

open Host

namespace Act

variable {α β : Type} {h h' : Host} {p q : Path} {x : α} {y : β}

/-! ## Sequences -/

theorem on_bind {a : Act α} {f : α → Act β} : (a >>= f).on h =
    match a.on h with
    | (.ok x, h₁) => (f x).on h₁
    | (.error e, h₁) => (.error e, h₁) := by
  show (match a.on h with | (r, h₁) => (ExceptT.bindCont f r).run h₁) = _
  rcases a.on h with ⟨r, h₁⟩
  cases r <;> rfl

theorem on_bind_of_ok {a : Act α} {f : α → Act β} (ha : a.on h = (.ok x, h')) :
    (a >>= f).on h = (f x).on h' := by
  rw [on_bind, ha]

theorem on_bind_of_error {a : Act α} {f : α → Act β} {e : Failure}
    (ha : a.on h = (.error e, h')) : (a >>= f).on h = (.error e, h') := by
  rw [on_bind, ha]

theorem on_bind_eq_ok {a : Act α} {f : α → Act β} :
    (a >>= f).on h = (.ok y, h') ↔ ∃ x h₁, a.on h = (.ok x, h₁) ∧ (f x).on h₁ = (.ok y, h') := by
  rw [on_bind]
  rcases a.on h with ⟨r, h₁⟩
  cases r <;> simp

theorem on_pure_eq_ok {y : α} : (pure x : Act α).on h = (.ok y, h') ↔ y = x ∧ h' = h := by
  show ((.ok x, h) : Except Failure α × Host) = _ ↔ _
  simp [eq_comm]

theorem on_throw_eq_ok {e : Failure} : (throw e : Act α).on h = (.ok x, h') ↔ False := by
  show ((.error e, h) : Except Failure α × Host) = _ ↔ _
  simp

theorem on_fail_eq_ok {c : Cause} : (fail c : Act α).on h = (.ok x, h') ↔ False := on_throw_eq_ok

/-- An act behind a check succeeds if the check and the act do. -/
theorem on_check_eq_ok {b : Bool} {e : Failure} {a : Act α} :
    (if (!b) = true then (throw e : Act Unit) >>= fun _ => a else a).on h = (.ok x, h') ↔
      b = true ∧ a.on h = (.ok x, h') := by
  cases b with
  | true => simp
  | false => simp [on_throw_eq_ok]

theorem on_get_bind {f : Host → Act α} : (get >>= f).on h = (f h).on h := rfl

theorem on_modify (f : Host → Host) : (modify f : Act Unit).on h = (.ok (), f h) := rfl

theorem on_commit (t : Tree) : (commit t).on h = (.ok (), h.commit t) := rfl

theorem on_attempt (a : Act α) : (attempt a).on h = (.ok (a.on h).1, (a.on h).2) := rfl

theorem on_attempt_bind {a : Act α} {f : Except Failure α → Act β} :
    (attempt a >>= f).on h = (f (a.on h).1).on (a.on h).2 := rfl

theorem on_lift_eq_ok {r : Except Cause α} : (lift r).on h = (.ok x, h') ↔ r = .ok x ∧ h' = h := by
  cases r with
  | ok y => rw [lift, on_pure_eq_ok, Except.ok.injEq, eq_comm]
  | error c => simp [lift, on_fail_eq_ok]

/-- An act whose result is no failure succeeds. -/
theorem exists_of_isOk {a : Act α} (hok : (a.on h).1.isOk = true) :
    ∃ x h', a.on h = (.ok x, h') := by
  cases hrun : a.on h with
  | mk result h' =>
    cases result with
    | ok x => exact ⟨x, h', rfl⟩
    | error e => simp [hrun, Except.isOk, Except.toBool] at hok

/-! ## The three forms of file operations -/

theorem on_heed (h : Host) (call : Call) (p : Path) : (heed call p).on h =
    match h.waiting? call p with
    | some c => (.error (.cause c), h)
    | none => (.ok (), h) := by
  rw [heed, on_get_bind]
  cases h.waiting? call p <;> rfl

theorem on_heed_bind (hf : h.faults = []) (call : Call) (p : Path) {f : Unit → Act α} :
    (heed call p >>= f).on h = (f ()).on h := by
  rw [heed, bind_assoc, on_get_bind, waiting?_of_faults hf]
  rfl

theorem on_guardPath (hp : p.hasNul = false) : (guardPath p).on h = (.ok (), h) := by
  rw [guardPath, hp]
  rfl

theorem on_guardPath_bind_eq_ok {f : Unit → Act α} :
    (guardPath p >>= f).on h = (.ok x, h') ↔ p.hasNul = false ∧ (f ()).on h = (.ok x, h') := by
  rw [guardPath, on_bind_eq_ok]
  cases hp : p.hasNul with
  | false =>
    constructor
    · rintro ⟨⟨⟩, h₁, h1, h2⟩
      obtain ⟨-, rfl⟩ := on_pure_eq_ok.mp h1
      exact ⟨rfl, h2⟩
    · rintro ⟨-, h2⟩
      exact ⟨(), h, on_pure_eq_ok.mpr ⟨rfl, rfl⟩, h2⟩
  | true => simp [on_fail_eq_ok]

theorem on_edit_eq_ok {change : Tree → Loc → Except Errno Tree} {u : Unit} :
    (edit p change).on h = (.ok u, h') ↔ p.hasNul = false ∧
      ∃ k t, h.locate p = .ok k ∧ change h.tree k = .ok t ∧ h' = h.commit t := by
  rw [edit, on_guardPath_bind_eq_ok, on_get_bind]
  refine and_congr_right fun _ => ?_
  cases hl : h.locate p with
  | error e => simp [bind, Except.bind, on_fail_eq_ok]
  | ok k =>
    cases ht : change h.tree k with
    | error e => simp [bind, Except.bind, ht, on_fail_eq_ok]
    | ok t => simp [bind, Except.bind, ht, on_commit, eq_comm]

theorem on_lookUp_eq_ok {find : Tree → Loc → Except Errno α} :
    (lookUp p find).on h = (.ok x, h') ↔ p.hasNul = false ∧ h' = h ∧
      ∃ k, h.locate p = .ok k ∧ find h.tree k = .ok x := by
  rw [lookUp, on_guardPath_bind_eq_ok, on_get_bind]
  refine and_congr_right fun _ => ?_
  cases hl : h.locate p with
  | error e => simp [bind, Except.bind, on_fail_eq_ok]
  | ok k =>
    cases hx : find h.tree k with
    | error e => simp [bind, Except.bind, hx, on_fail_eq_ok]
    | ok y =>
      simp only [bind, Except.bind, hx, on_pure_eq_ok]
      constructor
      · rintro ⟨rfl, rfl⟩
        exact ⟨rfl, k, rfl, hx⟩
      · rintro ⟨rfl, _, h1, h2⟩
        cases h1
        rw [hx] at h2
        cases h2
        exact ⟨rfl, rfl⟩

theorem on_probe (h : Host) (p : Path) : (probe p).on h =
    match h.look p with
    | .ok n? => (.ok n?, h)
    | .error c => (.error (.cause c), h) := by
  rw [probe, on_get_bind]
  cases h.look p <;> rfl

theorem on_probe_eq_ok {n? : Option Node} :
    (probe p).on h = (.ok n?, h') ↔ h' = h ∧ h.look p = .ok n? := by
  rw [probe, on_get_bind, on_lift_eq_ok, and_comm]

theorem shows_of_faults (hf : h.faults = []) : h.shows = fun _ => true := by
  funext p
  rw [shows, waiting?_of_faults hf]
  rfl

/-- Nothing is seen at a path that no file can have. -/
theorem look_of_hasNul (hnul : p.hasNul = true) : h.look p = .ok none := by
  rw [look, if_pos hnul]

/-- What can be seen has no character in its path that no name can have. -/
theorem hasNul_of_look {n : Node} (hlook : h.look p = .ok (some n)) : p.hasNul = false := by
  cases hnul : p.hasNul with
  | false => rfl
  | true => cases (look_of_hasNul hnul).symm.trans hlook

/-- What is seen is at the place that the path leads to. -/
theorem of_look_some {n : Node} (hlook : h.look p = .ok (some n)) :
    ∃ k, h.locate p = .ok k ∧ h.tree.get? k = some n := by
  rw [look] at hlook
  split at hlook
  · cases hlook
  · split at hlook
    · split at hlook <;> cases hlook
    · split at hlook
      · rename_i k hl
        exact ⟨k, hl, Except.ok.inj hlook⟩
      · split at hlook <;> cases hlook

/-- What is seen where no failure waits for the look. -/
theorem look_of_free (hwait : h.waiting? .stat p = none) (hnul : p.hasNul = false) :
    h.look p = match h.locate p with
      | .ok k => .ok (h.tree.get? k)
      | .error e => if e = .nameTooLong then .error (e.on p) else .ok none := by
  rw [look, hnul, hwait]
  rfl

/-- A path is asked about in vain if the look for it is made to fail, or if the path is too long. -/
theorem unseen_of_look {c : Cause} (hlook : h.look p = .error c) : h.Unseen p c := by
  rw [look] at hlook
  split at hlook
  · cases hlook
  · cases hwait : h.waiting? .stat p with
    | some c' =>
      rw [hwait] at hlook
      dsimp only at hlook
      split at hlook
      · cases hlook
      · rename_i habsence
        cases hlook
        exact .waiting hwait (Bool.eq_false_iff.mpr habsence)
    | none =>
      rw [hwait] at hlook
      cases hl : h.locate p with
      | ok k =>
        rw [hl] at hlook
        cases hlook
      | error e =>
        rw [hl] at hlook
        dsimp only at hlook
        split at hlook
        · rename_i htoo
          cases hlook
          subst htoo
          exact .tooLong hl
        · cases hlook

/-- A path that is not too long is not asked about in vain, unless the look for it is made to
fail. -/
theorem not_unseen (hwait : h.waiting? .stat p = none) (hfits : p.Fits) (c : Cause) :
    ¬ h.Unseen p c := by
  intro hunseen
  cases hunseen with
  | waiting hwaits => cases hwait.symm.trans hwaits
  | tooLong htoo => exact Tree.locate_ne_tooLong hfits htoo

theorem exists_look (hwait : h.waiting? .stat p = none) (hfits : p.Fits) :
    ∃ n?, h.look p = .ok n? := by
  cases hlook : h.look p with
  | ok n? => exact ⟨n?, rfl⟩
  | error c => exact absurd (unseen_of_look hlook) (not_unseen hwait hfits c)

/-- What can be seen at a path is what is there. -/
theorem look_eq_some (hf : h.faults = []) {n : Node} :
    h.look p = .ok (some n) ↔
      p.hasNul = false ∧ ∃ k, h.locate p = .ok k ∧ h.tree.get? k = some n := by
  rw [Host.look, waiting?_of_faults hf]
  cases hp : p.hasNul with
  | true => simp
  | false =>
    cases hl : h.locate p with
    | ok k => simp
    | error e => by_cases he : e = .nameTooLong <;> simp [he]

/-- A file is seen at a path if the path leads to one. -/
theorem seesFile_eq_true (hf : h.faults = []) : h.seesFile p = true ↔
    p.hasNul = false ∧ ∃ k f, h.locate p = .ok k ∧ h.tree.get? k = some (.file f) := by
  have hsome : h.seesFile p = true ↔ ∃ f, h.look p = .ok (some (.file f)) := by
    rw [Host.seesFile]
    cases hl : h.look p with
    | error e => simp
    | ok n? =>
      cases n? with
      | none => simp
      | some n => cases n <;> simp [Node.isFile]
  simp only [hsome, look_eq_some hf]
  constructor
  · rintro ⟨f, hp, k, h1⟩
    exact ⟨hp, k, f, h1⟩
  · rintro ⟨hp, k, f, h1⟩
    exact ⟨f, hp, k, h1⟩

theorem on_isFile (h : Host) (p : Path) : (isFile p).on h =
    match h.look p with
    | .ok n? => (.ok (n?.any Node.isFile), h)
    | .error c => (.error (.cause c), h) := by
  rw [isFile, on_bind, on_probe]
  cases h.look p <;> rfl

theorem on_isFile_eq_ok {b : Bool} : (isFile p).on h = (.ok b, h') ↔
    h' = h ∧ (h.look p).isOk = true ∧ b = h.seesFile p := by
  simp only [isFile, on_bind_eq_ok, on_probe_eq_ok, on_pure_eq_ok, Host.seesFile]
  constructor
  · rintro ⟨n?, _, ⟨rfl, h1⟩, rfl, rfl⟩
    exact ⟨rfl, by rw [h1]; rfl, by rw [h1]⟩
  · rintro ⟨rfl, h1, rfl⟩
    cases hl : h'.look p with
    | error e => simp [hl, Except.isOk, Except.toBool] at h1
    | ok n? => exact ⟨n?, _, ⟨rfl, rfl⟩, rfl, rfl⟩

theorem on_isFile_true_eq_ok (hf : h.faults = []) : (isFile p).on h = (.ok true, h') ↔
    h' = h ∧ p.hasNul = false ∧ ∃ k f, h.locate p = .ok k ∧ h.tree.get? k = some (.file f) := by
  rw [on_isFile_eq_ok, ← seesFile_eq_true hf]
  refine and_congr_right fun _ => ⟨fun h1 => h1.2.symm, fun h1 => ⟨?_, h1.symm⟩⟩
  rw [Host.seesFile] at h1
  cases hl : h.look p with
  | ok n? => rfl
  | error e => simp [hl] at h1

theorem on_isThere_eq_ok {b : Bool} : (isThere p).on h = (.ok b, h') ↔
    h' = h ∧ ∃ n?, h.look p = .ok n? ∧ b = n?.isSome := by
  simp only [isThere, on_bind_eq_ok, on_probe_eq_ok, on_pure_eq_ok]
  constructor
  · rintro ⟨n?, _, ⟨rfl, h1⟩, rfl, rfl⟩
    exact ⟨rfl, n?, h1, rfl⟩
  · rintro ⟨rfl, n?, h1, rfl⟩
    exact ⟨n?, _, ⟨rfl, h1⟩, rfl, rfl⟩

theorem on_isDirectory_eq_ok {b : Bool} : (isDirectory p).on h = (.ok b, h') ↔
    h' = h ∧ (h.look p).isOk = true ∧ b = h.seesDirectory p := by
  simp only [isDirectory, on_bind_eq_ok, on_probe_eq_ok, on_pure_eq_ok, Host.seesDirectory]
  constructor
  · rintro ⟨n?, _, ⟨rfl, h1⟩, rfl, rfl⟩
    exact ⟨rfl, by rw [h1]; rfl, by rw [h1]⟩
  · rintro ⟨rfl, h1, rfl⟩
    cases hl : h'.look p with
    | error e => simp [hl, Except.isOk, Except.toBool] at h1
    | ok n? => exact ⟨n?, _, ⟨rfl, rfl⟩, rfl, rfl⟩

/-- A test that can be made wherever the path can be looked up keeps the paths that pass. -/
theorem on_keep_eq_ok {test : Path → Act Bool} {passes : Path → Bool}
    (htest : ∀ p b h', (test p).on h = (.ok b, h') ↔
      h' = h ∧ (h.look p).isOk = true ∧ b = passes p) {ps kept : List Path} :
    (keep test ps).on h = (.ok kept, h') ↔
      h' = h ∧ (∀ p ∈ ps, (h.look p).isOk = true) ∧ kept = ps.filter passes := by
  induction ps generalizing kept h' with
  | nil =>
    rw [keep, on_pure_eq_ok]
    simp [and_comm]
  | cons p ps ih =>
    simp only [keep, on_bind_eq_ok, on_pure_eq_ok, List.forall_mem_cons, List.filter_cons]
    constructor
    · rintro ⟨b, _, hb, rest, _, hrest, rfl, rfl⟩
      obtain ⟨rfl, h1, rfl⟩ := (htest _ _ _).mp hb
      obtain ⟨rfl, h2, rfl⟩ := ih.mp hrest
      exact ⟨rfl, ⟨h1, h2⟩, rfl⟩
    · rintro ⟨rfl, ⟨h1, h2⟩, rfl⟩
      exact ⟨_, _, (htest _ _ _).mpr ⟨rfl, h1, rfl⟩, _, _, ih.mpr ⟨rfl, h2, rfl⟩, rfl, rfl⟩

theorem on_keep_isFile_eq_ok {ps kept : List Path} :
    (keep isFile ps).on h = (.ok kept, h') ↔
      h' = h ∧ (∀ p ∈ ps, (h.look p).isOk = true) ∧ kept = ps.filter h.seesFile :=
  on_keep_eq_ok fun _ _ _ => on_isFile_eq_ok

/-! ## The operations -/

/-- What a page looks like once it is written. -/
def written (t : Tree) (k : Loc) (bytes : List UInt8) (stamp : Int) : File :=
  ⟨bytes, stamp, match t.get? k with
    | some (.file f) => f.isExecutable
    | _ => false⟩

theorem on_list_eq_ok (hf : h.faults = []) {names : List String} :
    (list p).on h = (.ok names, h') ↔ p.hasNul = false ∧ h' = h ∧
      ∃ k, h.locate p = .ok k ∧ h.tree.get? k = some .directory ∧ names = h.tree.names k := by
  rw [list, on_heed_bind hf, on_lookUp_eq_ok]
  simp only [Tree.entries_eq_ok]

theorem on_readPage_eq_ok (hf : h.faults = []) {bytes : List UInt8} :
    (readPage p).on h = (.ok bytes, h') ↔ p.hasNul = false ∧ h' = h ∧
      ∃ k f, h.locate p = .ok k ∧ h.tree.get? k = some (.file f) ∧ bytes = f.bytes := by
  rw [readPage, on_heed_bind hf, on_bind_eq_ok]
  simp only [openFile, on_lookUp_eq_ok, Tree.readFile_eq_ok, on_pure_eq_ok]
  constructor
  · rintro ⟨f, _, ⟨h1, rfl, k, h2, h3⟩, rfl, rfl⟩
    exact ⟨h1, rfl, k, f, h2, h3, rfl⟩
  · rintro ⟨h1, rfl, k, f, h2, h3, rfl⟩
    exact ⟨f, _, ⟨h1, rfl, k, h2, h3⟩, rfl, rfl⟩

theorem on_writePage_eq_ok (hf : h.faults = []) {bytes : List UInt8} {u : Unit} :
    (writePage p bytes).on h = (.ok u, h') ↔ p.hasNul = false ∧
      ∃ k, h.locate p = .ok k ∧ h.tree.get? k ≠ some .directory ∧
        h' = { h.commit (h.tree.set k (.file (written h.tree k bytes h.stamp))) with
          stamp := h.stamp + 1 } := by
  rw [writePage, on_heed_bind hf, on_get_bind, on_bind_eq_ok]
  simp only [on_edit_eq_ok, on_modify, Tree.writeFile_eq_ok]
  constructor
  · rintro ⟨_, _, ⟨h1, k, _, h2, ⟨h3, rfl⟩, rfl⟩, h4⟩
    cases h4
    exact ⟨h1, k, h2, h3, rfl⟩
  · rintro ⟨h1, k, h2, h3, rfl⟩
    exact ⟨(), _, ⟨h1, k, _, h2, ⟨h3, rfl⟩, rfl⟩, rfl⟩

theorem on_unlink_eq_ok (hf : h.faults = []) {u : Unit} :
    (unlink p).on h = (.ok u, h') ↔ p.hasNul = false ∧
      ∃ k f, h.locate p = .ok k ∧ h.tree.get? k = some (.file f) ∧
        h' = h.commit (h.tree.erase k) := by
  rw [unlink, on_heed_bind hf, on_edit_eq_ok]
  simp only [Tree.unlink_eq_ok]
  refine and_congr_right fun _ => ?_
  constructor
  · rintro ⟨k, _, h2, ⟨⟨f, h3⟩, rfl⟩, rfl⟩
    exact ⟨k, f, h2, h3, rfl⟩
  · rintro ⟨k, f, h2, h3, rfl⟩
    exact ⟨k, _, h2, ⟨⟨f, h3⟩, rfl⟩, rfl⟩

theorem on_move_eq_ok {u : Unit} : (move p q).on h = (.ok u, h') ↔
    p.hasNul = false ∧ q.hasNul = false ∧
      ∃ t, h.tree.rename h.cwd.names p q = .ok t ∧ h' = h.commit t := by
  rw [move, on_guardPath_bind_eq_ok, on_guardPath_bind_eq_ok, on_get_bind]
  refine and_congr_right fun _ => and_congr_right fun _ => ?_
  cases ht : h.tree.rename h.cwd.names p q with
  | error e => simp [on_fail_eq_ok]
  | ok t => simp [on_commit, eq_comm]

theorem on_rename_eq_ok (hf : h.faults = []) {u : Unit} : (rename p q).on h = (.ok u, h') ↔
    p.hasNul = false ∧ q.hasNul = false ∧
      ∃ t, h.tree.rename h.cwd.names p q = .ok t ∧ h' = h.commit t := by
  rw [rename, on_heed_bind hf, on_move_eq_ok]

theorem on_rename (hf : h.faults = []) (hp : p.hasNul = false) (hq : q.hasNul = false) :
    (rename p q).on h =
      match h.tree.rename h.cwd.names p q with
      | .ok t => (.ok (), h.commit t)
      | .error e => (.error (.cause (e.moving p q)), h) := by
  rw [rename, on_heed_bind hf, move, on_bind_of_ok (on_guardPath hp),
    on_bind_of_ok (on_guardPath hq), on_get_bind]
  cases h.tree.rename h.cwd.names p q <;> rfl

theorem on_replace_eq_ok (hf : h.faults = []) {u : Unit} : (replace p q).on h = (.ok u, h') ↔
    p.hasNul = false ∧ q.hasNul = false ∧
      ∃ t, h.tree.rename h.cwd.names p q = .ok t ∧ h' = h.commit t := by
  rw [replace, on_heed_bind hf, on_move_eq_ok]

theorem on_removeTree_eq_ok (hf : h.faults = []) {u : Unit} : (removeTree p).on h = (.ok u, h') ↔
    p.hasNul = false ∧ ∃ t, h.tree.removeTree h.cwd.names p = .ok t ∧ h' = h.commit t := by
  rw [removeTree, on_heed_bind hf, on_guardPath_bind_eq_ok, on_get_bind]
  refine and_congr_right fun _ => ?_
  cases ht : h.tree.removeTree h.cwd.names p with
  | ok t => simp [on_commit, eq_comm]
  | error e =>
    obtain ⟨e, t⟩ := e
    constructor
    · intro hrun
      obtain ⟨_, _, -, hfail⟩ := on_bind_eq_ok.mp hrun
      split_ifs at hfail
      · cases on_fail_eq_ok.mp hfail
      · cases on_fail_eq_ok.mp hfail
    · rintro ⟨_, he, -⟩
      cases he

theorem on_makeDirectories_eq_ok {u : Unit} : (makeDirectories p).on h = (.ok u, h') ↔
    p.hasNul = false ∧
      ∃ t, h.tree.makeDirectories h.cwd.names h.shows p = .ok t ∧ h' = h.commit t := by
  rw [makeDirectories, on_guardPath_bind_eq_ok, on_get_bind]
  refine and_congr_right fun _ => ?_
  cases ht : h.tree.makeDirectories h.cwd.names h.shows p with
  | ok t => simp [on_commit, eq_comm]
  | error e =>
    obtain ⟨e, q, t⟩ := e
    constructor
    · intro hrun
      obtain ⟨_, _, -, hfail⟩ := on_bind_eq_ok.mp hrun
      cases on_fail_eq_ok.mp hfail
    · rintro ⟨_, he, -⟩
      cases he

end Act

end DeckPress
