import DeckPress.Preview.Watch
import DeckPress.Proofs.Host.Seen
import DeckPress.Proofs.Preview.Rebuild

/-!
# Starting a preview

A start builds the site and remembers the signature that the sources have then.  What else it does,
serving and watching, touches neither the files nor what is remembered of them.

* `Host.Still` — the files, and what is remembered of them, are the same on two hosts;
  `Act.IsStill` — an act that leaves them the same, whatever comes of it.
* `Host.Indifferent` — a relation between hosts to which a watch makes no difference;
  `leaves_watch`, `leaves_stop` — so neither do its beginning and its end.
* `of_start` — what a start that succeeds comes to.
-/

namespace DeckPress

namespace Host

variable {g h h' k : Host}

/-- The files, and what is remembered of them, are the same on both hosts. -/
structure Still (h h' : Host) : Prop extends SameFiles h h' where
  signature? : h'.progress.signature? = h.progress.signature?

theorem Still.refl (h : Host) : h.Still h := ⟨⟨rfl, rfl, rfl⟩, rfl⟩

theorem Still.trans (h1 : g.Still h) (h2 : h.Still k) : g.Still k :=
  ⟨⟨h2.tree.trans h1.tree, h2.cwd.trans h1.cwd, h2.faults.trans h1.faults⟩,
    h2.signature?.trans h1.signature?⟩

/-- A relation between the hosts before and after acts, to which neither what a watch notes nor that
there is one makes a difference. -/
structure Indifferent (R : Host → Host → Prop) : Prop where
  refl : ∀ h, R h h
  trans : ∀ {g h k}, R g h → R h k → R g k
  event : ∀ (h : Host) (e : Event), (∀ n, e ≠ .listening n) →
    R h { h with events := e :: h.events }
  watching : ∀ h : Host, R h { h with progress := { h.progress with isWatching := true } }

theorem indifferent_still : Indifferent Still where
  refl := .refl
  trans := .trans
  event _ _ _ := ⟨⟨rfl, rfl, rfl⟩, rfl⟩
  watching _ := ⟨⟨rfl, rfl, rfl⟩, rfl⟩

end Host

namespace Act

variable {α : Type}

/-- Whatever comes of the act, the host that it leaves stands in the relation to the one before. -/
def Leaves (R : Host → Host → Prop) (a : Act α) : Prop := ∀ h : Host, R h (a.on h).2

/-- Whatever comes of the act, the files, and what is remembered of them, stay the same. -/
def IsStill (a : Act α) : Prop := ∀ h : Host, h.Still (a.on h).2

end Act

namespace Host.Indifferent

open Act

variable {α β : Type} {R : Host → Host → Prop} (hR : Indifferent R)
include hR

theorem bind {a : Act α} {f : α → Act β} (ha : Leaves R a) (hf : ∀ x, Leaves R (f x)) :
    Leaves R (a >>= f) :=
  fun h => after_bind (ha h) fun x h₁ _ hfirst => hR.trans hfirst (hf x h₁)

theorem query {a : Act α} (ha : IsQuery a) : Leaves R a := by
  intro h
  rw [ha h]
  exact hR.refl h

theorem note {e : Event} (he : ∀ n, e ≠ .listening n) : Leaves R (record e) :=
  fun h => hR.event h e he

end Host.Indifferent

namespace Preview

open Act Host

variable {p : Preview} {h h' : Host} {answer : Act Unit} {R : Host → Host → Prop}

theorem leaves_watch (hR : Indifferent R) (p : Preview) : Leaves R p.watch := by
  have hend : Leaves R (record .watchStarted >>= fun _ =>
      advance fun s => { s with isWatching := true }) :=
    hR.bind (hR.note nofun) fun _ => hR.watching
  have htheme : Leaves R (isThere p.theme.parent >>= fun seen =>
      if seen then record (.watching p.theme.parent false) >>= fun _ =>
        record .watchStarted >>= fun _ => advance fun s => { s with isWatching := true }
      else record .watchStarted >>= fun _ => advance fun s => { s with isWatching := true }) := by
    refine hR.bind (hR.query (isQuery_isThere _)) fun seen => ?_
    split
    · exact hR.bind (hR.note nofun) fun _ => hend
    · exact hend
  refine hR.bind (hR.query (isQuery_isThere _)) fun seen => ?_
  split
  · exact hR.bind (hR.note nofun) fun _ => htheme
  · exact htheme

theorem leaves_stop (hR : Indifferent R) : Leaves R stop := by
  have hend : Leaves R (record .watchStopped >>= fun _ => record .watchJoined) :=
    hR.bind (hR.note nofun) fun _ => hR.note nofun
  refine fun h => ?_
  rw [stop, on_get_bind]
  split
  · exact hend h
  · exact hR.refl h

theorem isStill_listen (p : Preview) : IsStill p.listen :=
  indifferent_still.bind (indifferent_still.query (isQuery_lift _)) fun _ =>
    indifferent_still.bind (fun _ => ⟨⟨rfl, rfl, rfl⟩, rfl⟩) fun _ =>
      indifferent_still.note nofun

/-- A start that succeeds builds, takes the signature after that, and remembers it. -/
theorem of_start (hrun : (p.start answer).on h = (.ok (), h')) :
    ∃ k signature?, (p.build answer).on h = (.ok (), k) ∧
      p.signature.on k = (.ok signature?, k) ∧ k.SameFiles h' ∧
      h'.progress.signature? = signature? := by
  obtain ⟨_, k, hbuild, hrun⟩ := on_bind_eq_ok.mp hrun
  unfold run at hrun
  obtain ⟨signature?, k', hsignature, hrun⟩ := on_bind_eq_ok.mp hrun
  cases (isQuery_signature p).eq hsignature
  obtain ⟨_, g, hadvance, hrun⟩ := on_bind_eq_ok.mp hrun
  rw [advance, on_modify] at hadvance
  cases hadvance
  have hrest : IsStill (p.listen >>= fun _ => p.watch >>= fun _ => stop) :=
    indifferent_still.bind (isStill_listen p) fun _ =>
      indifferent_still.bind (leaves_watch indifferent_still p) fun _ =>
        leaves_stop indifferent_still
  have hstill := hrest { k with progress := { k.progress with signature? } }
  rw [hrun] at hstill
  exact ⟨k, signature?, hbuild, hsignature, ⟨hstill.tree, hstill.cwd, hstill.faults⟩,
    hstill.signature?⟩

end Preview

end DeckPress
