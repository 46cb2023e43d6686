import DeckPress.Proofs.Host.Act
import DeckPress.Proofs.Tree.Frame

/-!
# What acts do on their way

An act that fails keeps what it did until then, so that more has to be known of it than what it
leaves when it succeeds.

* `Host.Through` — every tree on the way from one host to another has a property.
* `Host.Course` — on the way between two hosts the trees change at most in a region, programs are
  started, and nothing else is seen; `course_bind` composes courses.
* `after_bind` — whatever holds after the first act and still after the second one holds after both.
* `IsQuery` — the act leaves the host as it was, whatever comes of it; `IsQuiet` — it changes files
  only.
* `course_edit`, `course_writePage`, `course_unlink`, `course_rename`, `course_replace`,
  `course_removeTree`, `course_makeDirectories` — the operations.
-/

namespace DeckPress

/-- The event is the start of a program. -/
def Event.IsStart (e : Event) : Prop := ∃ command directory, e = .started command directory

instance : DecidablePred Event.IsStart
  | .started command directory => .isTrue ⟨command, directory, rfl⟩
  | .printed _ | .rendering _ _ _ | .watching _ _ | .watchStarted | .watchStopped | .watchJoined
  | .listening _ => .isFalse nofun

namespace Host

variable {D E : Loc → Prop} {P Q : Tree → Prop} {h h₁ h₂ : Host} {t : Tree}

/-- The trees of the host: the present one and those before it, the last one first. -/
def trees (h : Host) : List Tree := h.tree :: h.past

/-- Every tree on the way from `h` to `h₁` has the property. -/
def Through (P : Tree → Prop) (h h₁ : Host) : Prop :=
  ∃ ts, h₁.trees = ts ++ h.trees ∧ ∀ t ∈ ts, P t

theorem Through.refl (P : Tree → Prop) (h : Host) : Through P h h := ⟨[], rfl, by simp⟩

theorem Through.trans (h1 : Through P h h₁) (h2 : Through P h₁ h₂) : Through P h h₂ := by
  obtain ⟨ts, hts, hall⟩ := h1
  obtain ⟨us, hus, hall'⟩ := h2
  refine ⟨us ++ ts, by rw [hus, hts, List.append_assoc], fun t ht => ?_⟩
  exact (List.mem_append.mp ht).elim (hall' t) (hall t)

theorem Through.mono (h1 : Through P h h₁) (hPQ : ∀ t, P t → Q t) : Through Q h h₁ :=
  h1.imp fun _ hts => ⟨hts.1, fun t ht => hPQ t (hts.2 t ht)⟩

theorem Through.of_trees (h1 : h₁.trees = h.trees) : Through P h h₁ :=
  ⟨[], by simpa using h1, by simp⟩

theorem Through.commit (ht : P t) : Through P h (h.commit t) := ⟨[t], rfl, by simpa using ht⟩

theorem Through.tree (h1 : Through P h h₁) (hP : P h.tree) : P h₁.tree := by
  obtain ⟨ts, hts, hall⟩ := h1
  cases ts with
  | nil =>
    have htree : h₁.tree = h.tree := (List.cons.inj hts).1
    rwa [htree]
  | cons t ts =>
    have htree : h₁.tree = t := (List.cons.inj hts).1
    rw [htree]
    exact hall t List.mem_cons_self

/-- On the way from `h` to `h₁` the trees change at most in `D`, programs are started, and nothing
else is seen. -/
structure Course (D : Loc → Prop) (h h₁ : Host) : Prop where
  cwd : h₁.cwd = h.cwd
  searchPath : h₁.searchPath = h.searchPath
  faults : h₁.faults = h.faults
  program : h₁.program = h.program
  progress : h₁.progress = h.progress
  events : ∃ es, h₁.events = es ++ h.events ∧ ∀ e ∈ es, e.IsStart
  trees : Through (Tree.SameBut D h.tree) h h₁

theorem Course.refl (D : Loc → Prop) (h : Host) : Course D h h :=
  ⟨rfl, rfl, rfl, rfl, rfl, ⟨[], rfl, by simp⟩, .refl _ _⟩

theorem Course.of_eq (he : h₁ = h) : Course D h h₁ := he ▸ .refl D h

theorem Course.tree (h1 : Course D h h₁) : Tree.SameBut D h.tree h₁.tree :=
  h1.trees.tree (.refl _ _)

theorem Course.trans (h1 : Course D h h₁) (h2 : Course D h₁ h₂) : Course D h h₂ := by
  obtain ⟨es, hes, hall⟩ := h1.events
  obtain ⟨es', hes', hall'⟩ := h2.events
  refine ⟨h2.cwd.trans h1.cwd, h2.searchPath.trans h1.searchPath, h2.faults.trans h1.faults,
    h2.program.trans h1.program, h2.progress.trans h1.progress, ⟨es' ++ es, ?_, fun e he => ?_⟩,
    h1.trees.trans (h2.trees.mono fun t ht => h1.tree.trans ht)⟩
  · rw [hes', hes, List.append_assoc]
  · exact (List.mem_append.mp he).elim (hall' e) (hall e)

theorem Course.mono (h1 : Course D h h₁) (hDE : ∀ q, D q → E q) : Course E h h₁ :=
  ⟨h1.cwd, h1.searchPath, h1.faults, h1.program, h1.progress, h1.events,
    h1.trees.mono fun _ ht => ht.mono hDE⟩

theorem Course.commit (ht : Tree.SameBut D h.tree t) : Course D h (h.commit t) :=
  ⟨rfl, rfl, rfl, rfl, rfl, ⟨[], rfl, by simp⟩, .commit ht⟩

end Host

open Host

namespace Act

variable {α β : Type} {D : Loc → Prop} {h h' h₁ : Host} {p q : Path} {x : α}

/-! ## Sequences -/

/-- What holds after the first act of a sequence, and still after the second one, holds after the
sequence. -/
theorem after_bind {P : Host → Prop} {a : Act α} {f : α → Act β} (ha : P (a.on h).2)
    (hf : ∀ x h₁, a.on h = (.ok x, h₁) → P h₁ → P ((f x).on h₁).2) :
    P ((a >>= f).on h).2 := by
  rw [on_bind]
  cases hrun : a.on h with
  | mk r h₁ =>
    rw [hrun] at ha
    cases r with
    | ok x => exact hf x h₁ hrun ha
    | error e => exact ha

/-- What holds before an act behind a check, and after it, holds however the check ends. -/
theorem after_check {P : Host → Prop} {b : Bool} {e : Failure} {a : Act α} (h0 : P h)
    (ha : b = true → P (a.on h).2) :
    P ((if (!b) = true then (throw e : Act Unit) >>= fun _ => a else a).on h).2 := by
  cases b with
  | true => exact ha rfl
  | false => exact h0

theorem course_bind {a : Act α} {f : α → Act β} (ha : Course D h (a.on h).2)
    (hf : ∀ x h₁, a.on h = (.ok x, h₁) → Course D h₁ ((f x).on h₁).2) :
    Course D h ((a >>= f).on h).2 :=
  after_bind ha fun x h₁ hrun hc => hc.trans (hf x h₁ hrun)

/-- A sequence fails where its first act does, or goes on from there. -/
theorem of_on_bind {a : Act α} {f : α → Act β} {r : Except Failure β}
    (hrun : (a >>= f).on h = (r, h')) :
    (∃ e, a.on h = (.error e, h') ∧ r = .error e) ∨
      ∃ x h₁, a.on h = (.ok x, h₁) ∧ (f x).on h₁ = (r, h') := by
  rw [on_bind] at hrun
  cases ha : a.on h with
  | mk s h₁ =>
    rw [ha] at hrun
    cases s with
    | ok x => exact .inr ⟨x, h₁, rfl, hrun⟩
    | error e =>
      cases hrun
      exact .inl ⟨e, rfl, rfl⟩

/-- An act behind a check. -/
theorem course_check {b : Bool} {e : Failure} {a : Act α} (ha : Course D h (a.on h).2) :
    Course D h
      ((if (!b) = true then (throw e : Act Unit) >>= fun _ => a else a).on h).2 :=
  after_check (.refl D h) fun _ => ha

/-! ## Acts that change nothing -/

/-- Whatever comes of the act, the host is left as it was. -/
def IsQuery (a : Act α) : Prop := ∀ h, (a.on h).2 = h

theorem IsQuery.course {a : Act α} (ha : IsQuery a) (D : Loc → Prop) (h : Host) :
    Course D h (a.on h).2 := .of_eq (ha h)

theorem IsQuery.eq {a : Act α} (ha : IsQuery a) {r : Except Failure α} (hrun : a.on h = (r, h')) :
    h' = h := by
  have := ha h
  rwa [hrun] at this

theorem isQuery_pure (x : α) : IsQuery (pure x : Act α) := fun _ => rfl

theorem isQuery_fail (c : Cause) : IsQuery (fail c : Act α) := fun _ => rfl

theorem IsQuery.bind {a : Act α} {f : α → Act β} (ha : IsQuery a) (hf : ∀ x, IsQuery (f x)) :
    IsQuery (a >>= f) := by
  intro h
  rw [on_bind]
  cases hrun : a.on h with
  | mk r g =>
    cases ha.eq hrun
    cases r with
    | ok x => exact hf x _
    | error e => rfl

theorem isQuery_get_bind {f : Host → Act α} (hf : ∀ h, IsQuery (f h)) : IsQuery (get >>= f) :=
  fun h => hf h h

theorem isQuery_lift (r : Except Cause α) : IsQuery (lift r) := by
  cases r <;> exact fun _ => rfl

theorem isQuery_heed (call : Call) (p : Path) : IsQuery (heed call p) := by
  refine isQuery_get_bind fun h => ?_
  split
  · exact isQuery_fail _
  · exact isQuery_pure _

theorem isQuery_guardPath (p : Path) : IsQuery (guardPath p) := by
  rw [guardPath]
  split
  · exact isQuery_fail _
  · exact isQuery_pure _

theorem isQuery_lookUp (p : Path) (find : Tree → Loc → Except Errno α) :
    IsQuery (lookUp p find) := by
  refine (isQuery_guardPath p).bind fun _ => isQuery_get_bind fun h => ?_
  split
  · exact isQuery_pure _
  · exact isQuery_fail _

theorem isQuery_probe (p : Path) : IsQuery (probe p) := isQuery_get_bind fun _ => isQuery_lift _

theorem isQuery_isThere (p : Path) : IsQuery (isThere p) :=
  (isQuery_probe p).bind fun _ => isQuery_pure _

theorem isQuery_isFile (p : Path) : IsQuery (isFile p) :=
  (isQuery_probe p).bind fun _ => isQuery_pure _

theorem isQuery_isDirectory (p : Path) : IsQuery (isDirectory p) :=
  (isQuery_probe p).bind fun _ => isQuery_pure _

theorem isQuery_keep {test : Path → Act Bool} (htest : ∀ p, IsQuery (test p)) (ps : List Path) :
    IsQuery (keep test ps) := by
  induction ps with
  | nil => exact isQuery_pure _
  | cons p ps ih => exact (htest p).bind fun _ => ih.bind fun _ => isQuery_pure _

theorem isQuery_list (p : Path) : IsQuery (list p) :=
  (isQuery_heed _ p).bind fun _ => isQuery_lookUp p _

theorem isQuery_readPage (p : Path) : IsQuery (readPage p) :=
  (isQuery_heed _ p).bind fun _ => (isQuery_lookUp p _).bind fun _ => isQuery_pure _

/-- What is kept of a list is from the list. -/
theorem subset_of_keep {test : Path → Act Bool} {ps kept : List Path}
    (hrun : (keep test ps).on h = (.ok kept, h')) : kept ⊆ ps := by
  induction ps generalizing h h' kept with
  | nil =>
    rw [keep, on_pure_eq_ok] at hrun
    simp [hrun.1]
  | cons p ps ih =>
    simp only [keep, on_bind_eq_ok, on_pure_eq_ok] at hrun
    obtain ⟨b, h₁, -, rest, h₂, hrest, rfl, -⟩ := hrun
    have hsub := ih hrest
    split
    · exact List.cons_subset_cons p hsub
    · exact List.subset_cons_of_subset p hsub

/-! ## Acts that change the tree -/

theorem course_edit {change : Tree → Loc → Except Errno Tree}
    (hchange : ∀ k t, h.locate p = .ok k → change h.tree k = .ok t → Tree.SameBut D h.tree t) :
    Course D h ((edit p change).on h).2 := by
  refine course_bind ((isQuery_guardPath p).course D h) fun _ h₁ hguard => ?_
  cases (isQuery_guardPath p).eq hguard
  rw [on_get_bind]
  cases hl : h.locate p with
  | error e => exact (isQuery_fail _).course D h
  | ok k =>
    cases ht : change h.tree k with
    | error e =>
      simp only [bind, Except.bind, ht]
      exact (isQuery_fail _).course D h
    | ok t =>
      simp only [bind, Except.bind, ht]
      exact .commit (hchange k t hl ht)

theorem course_writePage {bytes : List UInt8} (hp : ∀ k, h.locate p = .ok k → D k) :
    Course D h ((writePage p bytes).on h).2 := by
  refine course_bind ((isQuery_heed _ p).course D h) fun _ h₁ hheed => ?_
  cases (isQuery_heed _ p).eq hheed
  rw [on_get_bind]
  refine course_bind (course_edit fun k t hk ht => ?_) fun _ h₂ _ => ?_
  · exact (Tree.sameBut_of_writeFile ht).mono fun q hq => hq ▸ hp k hk
  · exact ⟨rfl, rfl, rfl, rfl, rfl, ⟨[], rfl, by simp⟩, .of_trees rfl⟩

theorem course_unlink (hp : ∀ k, h.locate p = .ok k → D k) : Course D h ((unlink p).on h).2 := by
  refine course_bind ((isQuery_heed _ p).course D h) fun _ h₁ hheed => ?_
  cases (isQuery_heed _ p).eq hheed
  exact course_edit fun k t hk ht => (Tree.sameBut_of_unlink ht).mono fun q hq => hq ▸ hp k hk

theorem course_move (hmove : ∀ t, h.tree.rename h.cwd.names p q = .ok t → Tree.SameBut D h.tree t) :
    Course D h ((move p q).on h).2 := by
  refine course_bind ((isQuery_guardPath p).course D h) fun _ h₁ hguard => ?_
  cases (isQuery_guardPath p).eq hguard
  refine course_bind ((isQuery_guardPath q).course D h) fun _ h₁ hguard => ?_
  cases (isQuery_guardPath q).eq hguard
  rw [on_get_bind]
  cases ht : h.tree.rename h.cwd.names p q with
  | error e => exact (isQuery_fail _).course D h
  | ok t => exact .commit (hmove t ht)

theorem course_rename
    (hmove : ∀ t, h.tree.rename h.cwd.names p q = .ok t → Tree.SameBut D h.tree t) :
    Course D h ((rename p q).on h).2 := by
  refine course_bind ((isQuery_heed _ p).course D h) fun _ h₁ hheed => ?_
  cases (isQuery_heed _ p).eq hheed
  exact course_move hmove

theorem course_replace
    (hmove : ∀ t, h.tree.rename h.cwd.names p q = .ok t → Tree.SameBut D h.tree t) :
    Course D h ((replace p q).on h).2 := by
  refine course_bind ((isQuery_heed _ p).course D h) fun _ h₁ hheed => ?_
  cases (isQuery_heed _ p).eq hheed
  exact course_move hmove

/-- The tree that the removal of a directory leaves, whether it succeeds or fails. -/
theorem course_removeTree_of (ht : ∀ t, h.tree.removeTree h.cwd.names p = .ok t →
      Tree.SameBut D h.tree t)
    (he : ∀ e t, h.tree.removeTree h.cwd.names p = .error (e, t) → Tree.SameBut D h.tree t) :
    Course D h ((removeTree p).on h).2 := by
  refine course_bind ((isQuery_heed _ p).course D h) fun _ h₁ hheed => ?_
  cases (isQuery_heed _ p).eq hheed
  refine course_bind ((isQuery_guardPath p).course D h) fun _ h₁ hguard => ?_
  cases (isQuery_guardPath p).eq hguard
  rw [on_get_bind]
  cases hr : h.tree.removeTree h.cwd.names p with
  | ok t => exact .commit (ht t hr)
  | error b =>
    obtain ⟨e, t⟩ := b
    refine course_bind (a := commit t) (.commit (he e t hr)) fun _ h₁ _ => ?_
    split_ifs
    · exact (isQuery_fail _).course D h₁
    · exact (isQuery_fail _).course D h₁

theorem course_removeTree (hp : p.IsPlain) (hne : p.names ≠ []) :
    Course (Tree.Below p.names) h ((removeTree p).on h).2 := by
  refine course_removeTree_of (fun t ht q hq => ?_) fun e t ht =>
    .of_eq ((Tree.eq_of_removeTree hp hne).2 e t ht)
  rw [(Tree.eq_of_removeTree hp hne).1 t ht]
  exact (Tree.get?_eraseFrom hne).trans (if_neg hq)

/-- A directory that could not be removed is left as it was. -/
theorem course_of_removeTree_error (hp : p.IsPlain) (hne : p.names ≠ []) {e : Failure}
    (hrun : (removeTree p).on h = (.error e, h')) : Course (fun _ => False) h h' := by
  cases hr : h.tree.removeTree h.cwd.names p with
  | error b =>
    have hcourse : Course (fun _ => False) h ((removeTree p).on h).2 :=
      course_removeTree_of (fun t ht => by rw [hr] at ht; cases ht) fun e t ht =>
        .of_eq ((Tree.eq_of_removeTree hp hne).2 e t ht)
    rwa [hrun] at hcourse
  | ok t =>
    -- The tree can be removed, so that the failure came before the attempt.
    unfold removeTree at hrun
    rcases of_on_bind hrun with ⟨e', hheed, -⟩ | ⟨_, h₁, hheed, hrun⟩
    · exact .of_eq ((isQuery_heed _ p).eq hheed)
    · cases (isQuery_heed _ p).eq hheed
      rcases of_on_bind hrun with ⟨e', hguard, -⟩ | ⟨_, h₁, hguard, hrun⟩
      · exact .of_eq ((isQuery_guardPath p).eq hguard)
      · cases (isQuery_guardPath p).eq hguard
        rw [on_get_bind, hr] at hrun
        cases hrun

/-- What could not be moved stays where it is. -/
theorem host_of_replace_error {e : Failure} (hrun : (replace p q).on h = (.error e, h')) :
    h' = h := by
  unfold replace move at hrun
  rcases of_on_bind hrun with ⟨e', hheed, -⟩ | ⟨_, h₁, hheed, hrun⟩
  · exact (isQuery_heed _ p).eq hheed
  · cases (isQuery_heed _ p).eq hheed
    rcases of_on_bind hrun with ⟨e', hguard, -⟩ | ⟨_, h₁, hguard, hrun⟩
    · exact (isQuery_guardPath p).eq hguard
    · cases (isQuery_guardPath p).eq hguard
      rcases of_on_bind hrun with ⟨e', hguard, -⟩ | ⟨_, h₁, hguard, hrun⟩
      · exact (isQuery_guardPath q).eq hguard
      · cases (isQuery_guardPath q).eq hguard
        rw [on_get_bind] at hrun
        split at hrun
        · cases hrun
        · exact (isQuery_fail _).eq hrun

theorem course_makeDirectories_of
    (ht : ∀ t, h.tree.makeDirectories h.cwd.names h.shows p = .ok t → Tree.SameBut D h.tree t)
    (he : ∀ e q t, h.tree.makeDirectories h.cwd.names h.shows p = .error (e, q, t) →
      Tree.SameBut D h.tree t) :
    Course D h ((makeDirectories p).on h).2 := by
  refine course_bind ((isQuery_guardPath p).course _ h) fun _ h₁ hguard => ?_
  cases (isQuery_guardPath p).eq hguard
  rw [on_get_bind]
  cases hr : h.tree.makeDirectories h.cwd.names h.shows p with
  | ok t => exact .commit (ht t hr)
  | error b =>
    obtain ⟨e, q, t⟩ := b
    exact course_bind (a := commit t) (.commit (he e q t hr))
      fun _ h₁ _ => (isQuery_fail _).course _ h₁

theorem course_makeDirectories (hp : p.IsPlain) :
    Course (· <+: p.names) h ((makeDirectories p).on h).2 :=
  course_makeDirectories_of (Tree.sameBut_of_makeDirectories hp).1
    (Tree.sameBut_of_makeDirectories hp).2

/-! ## Acts that change files only -/

/-- Whatever comes of the act, nothing is seen of it but starts of programs, and how far the preview
has come is as before.  It may change any file. -/
def IsQuiet (a : Act α) : Prop := ∀ h, Course (fun _ => True) h (a.on h).2

theorem IsQuery.isQuiet {a : Act α} (ha : IsQuery a) : IsQuiet a := fun h => ha.course _ h

theorem IsQuiet.course {a : Act α} {r : Except Failure α} (ha : IsQuiet a)
    (hrun : a.on h = (r, h')) : Course (fun _ => True) h h' := by
  have hcourse := ha h
  rwa [hrun] at hcourse

theorem IsQuiet.bind {a : Act α} {f : α → Act β} (ha : IsQuiet a) (hf : ∀ x, IsQuiet (f x)) :
    IsQuiet (a >>= f) := fun h => course_bind (ha h) fun x h₁ _ => hf x h₁

theorem IsQuiet.check {b : Bool} {e : Failure} {a : Act α} (ha : IsQuiet a) :
    IsQuiet (if (!b) = true then (throw e : Act Unit) >>= fun _ => a else a) :=
  fun h => course_check (ha h)

theorem sameBut_true (t u : Tree) : Tree.SameBut (fun _ => True) t u :=
  fun _ hq => absurd trivial hq

theorem isQuiet_writePage (p : Path) (bytes : List UInt8) : IsQuiet (writePage p bytes) :=
  fun _ => course_writePage fun _ _ => trivial

theorem isQuiet_unlink (p : Path) : IsQuiet (unlink p) := fun _ => course_unlink fun _ _ => trivial

theorem isQuiet_rename (p q : Path) : IsQuiet (rename p q) :=
  fun _ => course_rename fun _ _ => sameBut_true _ _

theorem isQuiet_replace (p q : Path) : IsQuiet (replace p q) :=
  fun _ => course_replace fun _ _ => sameBut_true _ _

theorem isQuiet_removeTree (p : Path) : IsQuiet (removeTree p) :=
  fun _ => course_removeTree_of (fun _ _ => sameBut_true _ _) fun _ _ _ => sameBut_true _ _

theorem isQuiet_makeDirectories (p : Path) : IsQuiet (makeDirectories p) :=
  fun _ => course_makeDirectories_of (fun _ _ => sameBut_true _ _) fun _ _ _ _ => sameBut_true _ _

end Act

end DeckPress
