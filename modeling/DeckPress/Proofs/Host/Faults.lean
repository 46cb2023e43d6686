import DeckPress.Proofs.Host.Course

/-!
# Acts that succeed although failures wait

A failure that waits for a call either ends the act that makes the call, or is not met at all.  So
an act that succeeds although failures wait succeeds as well where none waits, and leaves the same:
what is known of acts on a host without failures carries over.  Only a failure that hides what a
path is can change an outcome without being noticed.

* `Host.SeesAll` — no failure hides what a path is; `Host.spared` is the host without its failures.
* `Act.Outlasts` — the act does without failures what it does if none of them is met;
  `Outlasts.bind` composes such acts, and every file operation is one.
* `on_heed_free` — a call for which no failure waits.
-/

namespace DeckPress

namespace Host

variable {h h' : Host} {p : Path}

/-- No failure waits that would hide what a path is. -/
def SeesAll (h : Host) : Prop := ∀ f ∈ h.faults, f.call ≠ .stat

instance : Decidable h.SeesAll := inferInstanceAs (Decidable (∀ f ∈ h.faults, f.call ≠ .stat))

/-- The host without the failures that wait. -/
def spared (h : Host) : Host := { h with faults := [] }

theorem SeesAll.of_nil (hf : h.faults = []) : h.SeesAll := by
  rw [SeesAll, hf]
  exact List.forall_mem_nil _

theorem SeesAll.of_faults (h1 : h.SeesAll) (hf : h'.faults = h.faults) : h'.SeesAll := by
  rw [SeesAll, hf]
  exact h1

theorem SeesAll.free (h1 : h.SeesAll) (p : Path) : h.waiting? .stat p = none :=
  waiting?_eq_none.mpr fun f hf hstat => h1 f hf hstat.1

theorem SeesAll.shows (h1 : h.SeesAll) : h.shows = fun _ => true := by
  funext p
  rw [Host.shows, h1.free]
  rfl

theorem SeesAll.shows_spared (h1 : h.SeesAll) : h.spared.shows = h.shows := by
  rw [h1.shows]
  exact Act.shows_of_faults rfl

theorem SeesAll.look_spared (h1 : h.SeesAll) : h.spared.look p = h.look p := by
  rw [look, look, h1.free, waiting?_of_faults rfl]
  rfl

theorem SeesAll.whyNotMade_spared (h1 : h.SeesAll) (e : Errno) :
    h.spared.whyNotMade e p = h.whyNotMade e p := by
  rw [whyNotMade, whyNotMade, h1.free, waiting?_of_faults rfl]

/-- Where no failure hides what a path is, only a path that is too long is asked about in vain. -/
theorem SeesAll.eq_of_look (h1 : h.SeesAll) {c : Cause} (hlook : h.look p = .error c) :
    c = Errno.nameTooLong.on p := by
  cases Act.unseen_of_look hlook with
  | waiting hwaits => cases (h1.free p).symm.trans hwaits
  | tooLong => rfl

/-- Two hosts are the same if they are so without the failures, and the same failures wait. -/
theorem eq_of_spared {g : Host} (hspared : h.spared = g.spared) (hf : h.faults = g.faults) :
    h = g := by
  cases h
  cases g
  cases hf
  cases hspared
  rfl

end Host

namespace Act

open Host

variable {α β : Type} {h h' : Host} {p q : Path} {x : α}

/-- Where the act succeeds although failures wait, it succeeds as well where none waits, and leaves
the same. -/
def Outlasts (a : Act α) : Prop := ∀ h x h', h.SeesAll → a.on h = (.ok x, h') →
  a.on h.spared = (.ok x, h'.spared) ∧ h'.faults = h.faults

theorem outlasts_pure (x : α) : Outlasts (pure x : Act α) := by
  rintro h y h' - hrun
  obtain ⟨rfl, rfl⟩ := on_pure_eq_ok.mp hrun
  exact ⟨rfl, rfl⟩

theorem outlasts_throw (e : Failure) : Outlasts (throw e : Act α) :=
  fun _ _ _ _ hrun => (on_throw_eq_ok.mp hrun).elim

theorem outlasts_fail (c : Cause) : Outlasts (fail c : Act α) := outlasts_throw _

theorem Outlasts.bind {a : Act α} {f : α → Act β} (ha : Outlasts a) (hf : ∀ x, Outlasts (f x)) :
    Outlasts (a >>= f) := by
  intro h y h' hsees hrun
  obtain ⟨x, h₁, hfirst, hrest⟩ := on_bind_eq_ok.mp hrun
  obtain ⟨hfirst', hfaults⟩ := ha h x h₁ hsees hfirst
  obtain ⟨hrest', hfaults'⟩ := hf x h₁ y h' (hsees.of_faults hfaults) hrest
  exact ⟨on_bind_eq_ok.mpr ⟨x, _, hfirst', hrest'⟩, hfaults'.trans hfaults⟩

/-- An act that depends on the host, but not on the failures that wait. -/
theorem outlasts_get_bind {f : Host → Act α} (hspared : ∀ h, h.SeesAll → f h.spared = f h)
    (hf : ∀ h, Outlasts (f h)) : Outlasts (get >>= f) := by
  intro h x h' hsees hrun
  rw [on_get_bind] at hrun ⊢
  rw [hspared h hsees]
  exact hf h h x h' hsees hrun

theorem outlasts_modify {f : Host → Host} (hspared : ∀ h, f h.spared = (f h).spared)
    (hfaults : ∀ h, (f h).faults = h.faults) : Outlasts (modify f) := by
  rintro h ⟨⟩ h' - hrun
  cases hrun
  exact ⟨by rw [on_modify, hspared], hfaults h⟩

theorem outlasts_commit (t : Tree) : Outlasts (commit t) :=
  outlasts_modify (fun _ => rfl) fun _ => rfl

theorem outlasts_lift (r : Except Cause α) : Outlasts (lift r) := by
  cases r with
  | ok x => exact outlasts_pure x
  | error c => exact outlasts_fail c

/-- An act behind a check. -/
theorem Outlasts.check {b : Bool} {e : Failure} {a : Act α} (ha : Outlasts a) :
    Outlasts (if (!b) = true then (throw e : Act Unit) >>= fun _ => a else a) := by
  cases b with
  | true => exact ha
  | false => exact (outlasts_throw e).bind fun _ => ha

/-- A call for which no failure waits is made as well where none waits at all. -/
theorem outlasts_heed (call : Call) (p : Path) : Outlasts (heed call p) := by
  rintro h ⟨⟩ h' - hrun
  have hfree : h' = h := (isQuery_heed call p).eq hrun
  refine ⟨?_, by rw [hfree]⟩
  rw [hfree]
  rfl

/-- A call for which no failure waits goes on. -/
theorem on_heed_free {call : Call} {f : Unit → Act α} (hfree : ∀ fault ∈ h.faults,
    ¬ (fault.call = call ∧ h.cwd.append fault.path = h.cwd.append p)) :
    (heed call p >>= f).on h = (f ()).on h := by
  rw [heed, bind_assoc, on_get_bind, waiting?_eq_none.mpr hfree]
  rfl

/-! ## File operations -/

theorem outlasts_guardPath (p : Path) : Outlasts (guardPath p) := by
  rw [guardPath]
  split
  · exact outlasts_fail _
  · exact outlasts_pure _

theorem outlasts_edit (p : Path) (change : Tree → Loc → Except Errno Tree) :
    Outlasts (edit p change) := by
  refine (outlasts_guardPath p).bind fun _ => outlasts_get_bind (fun _ _ => rfl) fun h => ?_
  split
  · exact outlasts_commit _
  · exact outlasts_fail _

theorem outlasts_lookUp (p : Path) (find : Tree → Loc → Except Errno α) :
    Outlasts (lookUp p find) := by
  refine (outlasts_guardPath p).bind fun _ => outlasts_get_bind (fun _ _ => rfl) fun h => ?_
  split
  · exact outlasts_pure _
  · exact outlasts_fail _

theorem outlasts_probe (p : Path) : Outlasts (probe p) :=
  outlasts_get_bind (fun h hsees => by rw [hsees.look_spared]) fun _ => outlasts_lift _

theorem outlasts_isThere (p : Path) : Outlasts (isThere p) :=
  (outlasts_probe p).bind fun _ => outlasts_pure _

theorem outlasts_isFile (p : Path) : Outlasts (isFile p) :=
  (outlasts_probe p).bind fun _ => outlasts_pure _

theorem outlasts_keep {test : Path → Act Bool} (htest : ∀ p, Outlasts (test p)) (ps : List Path) :
    Outlasts (keep test ps) := by
  induction ps with
  | nil => exact outlasts_pure _
  | cons p ps ih => exact (htest p).bind fun _ => ih.bind fun _ => outlasts_pure _

theorem outlasts_list (p : Path) : Outlasts (list p) :=
  (outlasts_heed _ p).bind fun _ => outlasts_lookUp p _

theorem outlasts_readPage (p : Path) : Outlasts (readPage p) :=
  (outlasts_heed _ p).bind fun _ => (outlasts_lookUp p _).bind fun _ => outlasts_pure _

theorem outlasts_writePage (p : Path) (bytes : List UInt8) : Outlasts (writePage p bytes) :=
  (outlasts_heed _ p).bind fun _ => outlasts_get_bind (fun _ _ => rfl) fun _ =>
    (outlasts_edit p _).bind fun _ => outlasts_modify (fun _ => rfl) fun _ => rfl

theorem outlasts_unlink (p : Path) : Outlasts (unlink p) :=
  (outlasts_heed _ p).bind fun _ => outlasts_edit p _

theorem outlasts_move (p q : Path) : Outlasts (move p q) := by
  refine (outlasts_guardPath p).bind fun _ => (outlasts_guardPath q).bind fun _ =>
    outlasts_get_bind (fun _ _ => rfl) fun h => ?_
  split
  · exact outlasts_commit _
  · exact outlasts_fail _

theorem outlasts_rename (p q : Path) : Outlasts (rename p q) :=
  (outlasts_heed _ p).bind fun _ => outlasts_move p q

theorem outlasts_replace (p q : Path) : Outlasts (replace p q) :=
  (outlasts_heed _ p).bind fun _ => outlasts_move p q

theorem outlasts_removeTree (p : Path) : Outlasts (removeTree p) := by
  refine (outlasts_heed _ p).bind fun _ => (outlasts_guardPath p).bind fun _ =>
    outlasts_get_bind (fun _ _ => rfl) fun h => ?_
  split
  · exact outlasts_commit _
  · refine (outlasts_commit _).bind fun _ => ?_
    split_ifs
    · exact outlasts_fail _
    · exact outlasts_fail _

theorem outlasts_makeDirectories (p : Path) : Outlasts (makeDirectories p) := by
  refine (outlasts_guardPath p).bind fun _ =>
    outlasts_get_bind (fun h hsees => ?_) fun h => ?_
  · simp only [hsees.shows_spared, hsees.whyNotMade_spared]
    rfl
  split
  · exact outlasts_commit _
  · exact (outlasts_commit _).bind fun _ => outlasts_fail _

/-! ## What success comes to -/

theorem eq_of_removeTree_ok (hsees : h.SeesAll) {u : Unit}
    (hrun : (removeTree p).on h = (.ok u, h')) :
    ∃ t, h.tree.removeTree h.cwd.names p = .ok t ∧ h' = h.commit t := by
  obtain ⟨hspared, hfaults⟩ := outlasts_removeTree p h u h' hsees hrun
  obtain ⟨-, t, ht, he⟩ := (on_removeTree_eq_ok (h := h.spared) rfl).mp hspared
  exact ⟨t, ht, eq_of_spared he hfaults⟩

theorem eq_of_replace_ok (hsees : h.SeesAll) {u : Unit}
    (hrun : (replace p q).on h = (.ok u, h')) :
    ∃ t, h.tree.rename h.cwd.names p q = .ok t ∧ h' = h.commit t := by
  obtain ⟨hspared, hfaults⟩ := outlasts_replace p q h u h' hsees hrun
  obtain ⟨-, -, t, ht, he⟩ := (on_replace_eq_ok (h := h.spared) rfl).mp hspared
  exact ⟨t, ht, eq_of_spared he hfaults⟩

end Act

end DeckPress
