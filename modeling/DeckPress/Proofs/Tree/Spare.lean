import DeckPress.Proofs.Tree.Frame

/-!
# Where paths lead, and what stays there

A tree has no links, so that a path leads to one place only, if it leads anywhere.  Paths may go
back up here, unlike in `DeckPress.Proofs.Tree.Frame`: operations are bounded by the places of their
paths, and not by the names in them.

* `Path.place` — the place of a path from the top; `place_of_locate` — the path leads there.
* `Spares D t u` — what was in `t` outside `D` is still in `u`.  Making directories spares
  everything, whether it succeeds or fails: `spares_makeDirectories`.
* `sameBut_removeTree` — what the removal of a directory may touch.
* `HasFile` — a file lies at a place, and directories lead to it; `HasFile.spared` — it is still
  there after an operation that spares the way to it.
-/

namespace DeckPress

namespace Path

variable {p : Path} {name : String}

/-- The place that a name leads to from a place. -/
def onward (here : Loc) (name : String) : Loc :=
  if name = ".." then here.dropLast else here ++ [name]

/-- The place of a path from the top. -/
def place (p : Path) : Loc := p.names.foldl onward []

theorem foldl_onward {names : List String} (here : Loc) (hup : ".." ∉ names) :
    names.foldl onward here = here ++ names := by
  induction names generalizing here with
  | nil => simp
  | cons name names ih =>
    rw [List.mem_cons, not_or] at hup
    rw [List.foldl_cons, ih _ hup.2, onward, if_neg (Ne.symm hup.1), List.append_assoc,
      List.singleton_append]

/-- Names that never go back up lead on from the place of a path. -/
theorem place_below {r : List String} (hup : ".." ∉ r) : (p.below r).place = p.place ++ r := by
  rw [place, names_below, List.foldl_append, foldl_onward _ hup, place]

theorem place_child (hup : name ≠ "..") : (p.child name).place = p.place ++ [name] :=
  place_below (p := p) (r := [name]) (by simpa using hup.symm)

end Path

namespace Tree

variable {t u v : Tree} {cwd here k q r : Loc} {p : Path} {n : Node} {f : File}
  {D E : Loc → Prop} {seen : Path → Bool} {depth : Nat} {names : List String}

/-! ## Where paths lead -/

theorem eq_foldl_of_walk (h : t.walk here names = .ok k) : k = names.foldl Path.onward here := by
  induction names generalizing here with
  | nil =>
    cases h
    rfl
  | cons name names ih =>
    obtain ⟨-, -, h⟩ := walk_cons_eq_ok.mp h
    exact ih h

/-- A path from the top leads to its place, if it leads anywhere. -/
theorem place_of_locate (hp : p.isAbsolute = true) (h : t.locate cwd p = .ok k) :
    k = p.place := by
  have hwalk := (locate_eq_walk.mp h).2
  rw [if_pos hp] at hwalk
  exact eq_foldl_of_walk hwalk

/-! ## Sparing -/

/-- What was in the tree `t` outside `D` is in the tree `u` as well. -/
def Spares (D : Loc → Prop) (t u : Tree) : Prop :=
  ∀ q n, ¬ D q → t.get? q = some n → u.get? q = some n

theorem Spares.refl (D : Loc → Prop) (t : Tree) : Spares D t t := fun _ _ _ h => h

theorem Spares.trans (h : Spares D t u) (h' : Spares D u v) : Spares D t v :=
  fun q n hq hn => h' q n hq (h q n hq hn)

theorem Spares.mono (h : Spares D t u) (hDE : ∀ q, D q → E q) : Spares E t u :=
  fun q n hq => h q n fun hD => hq (hDE q hD)

theorem SameBut.spares (h : SameBut D t u) : Spares D t u :=
  fun q _ hq hn => (h q hq).trans hn

/-! ## Making directories -/

theorem spares_makeDirectory (h : t.makeDirectory k = .ok u) : Spares (fun _ => False) t u := by
  rw [makeDirectory] at h
  split at h
  · cases h
  · rename_i hnone
    cases h
    intro q n _ hn
    have hqk : q ≠ k := by
      rintro rfl
      exact hnone (by rw [hn]; rfl)
    have hk : k ≠ [] := by
      rintro rfl
      exact hnone (by simp)
    rw [get?_set hk, if_neg hqk, hn]

theorem MakesAt.spares (h : MakesAt cwd seen p t u) : Spares (fun _ => False) t u := by
  rcases h with h | ⟨-, rfl⟩
  · cases hl : t.locate cwd p with
    | error e =>
      rw [hl] at h
      cases h
    | ok k =>
      rw [hl] at h
      exact spares_makeDirectory h
  · exact .refl _ _

/-- A directory that could not be made leaves the tree that is left by the one above it. -/
theorem of_makeDirectoriesUpTo_eq_error {e : Errno} {q : Path}
    (h : t.makeDirectoriesUpTo cwd seen depth p = .error (e, q, u)) :
    u = t ∨ ∃ d, depth = d + 1 ∧
      (t.makeDirectoriesUpTo cwd seen d p.parent = .error (e, q, u) ∨
        t.makeDirectoriesUpTo cwd seen d p.parent = .ok u) := by
  rw [makeDirectoriesUpTo] at h
  split at h
  · cases h
  · split at h
    · cases depth with
      | zero =>
        cases h
        exact .inl rfl
      | succ d =>
        refine .inr ⟨d, rfl, ?_⟩
        cases hv : t.makeDirectoriesUpTo cwd seen d p.parent with
        | error b =>
          simp only [hv, bind, Except.bind] at h
          cases h
          exact .inl rfl
        | ok v =>
          simp only [hv, bind, Except.bind] at h
          split at h
          · cases h
          · split at h
            · cases h
            · cases h
              exact .inr rfl
    · split at h
      · cases h
      · cases h
        exact .inl rfl

theorem spares_makeDirectoriesUpTo (p : Path) :
    (∀ u, t.makeDirectoriesUpTo cwd seen depth p = .ok u → Spares (fun _ => False) t u) ∧
      ∀ e q u, t.makeDirectoriesUpTo cwd seen depth p = .error (e, q, u) →
        Spares (fun _ => False) t u := by
  induction depth generalizing p with
  | zero =>
    refine ⟨fun u h => ?_, fun e q u h => ?_⟩
    · rcases of_makeDirectoriesUpTo h with h | ⟨d, v, hd, -⟩
      · exact h.spares
      · cases hd
    · rcases of_makeDirectoriesUpTo_eq_error h with rfl | ⟨d, hd, -⟩
      · exact .refl _ _
      · cases hd
  | succ depth ih =>
    refine ⟨fun u h => ?_, fun e q u h => ?_⟩
    · rcases of_makeDirectoriesUpTo h with h | ⟨d, v, hd, hv, h⟩
      · exact h.spares
      · cases hd
        exact ((ih p.parent).1 v hv).trans h.spares
    · rcases of_makeDirectoriesUpTo_eq_error h with rfl | ⟨d, hd, h | h⟩
      · exact .refl _ _
      · cases hd
        exact (ih p.parent).2 e q u h
      · cases hd
        exact (ih p.parent).1 u h

/-- Making directories touches nothing that is there, whether it succeeds or fails. -/
theorem spares_makeDirectories (p : Path) :
    (∀ u, t.makeDirectories cwd seen p = .ok u → Spares (fun _ => False) t u) ∧
      ∀ e q u, t.makeDirectories cwd seen p = .error (e, q, u) → Spares (fun _ => False) t u :=
  spares_makeDirectoriesUpTo p

/-! ## Removing a directory -/

theorem sameBut_eraseFrom (k : Loc) (t : Tree) : SameBut (Below k) t (t.eraseFrom k) := by
  intro q hq
  have hk : k ≠ [] := by
    rintro rfl
    exact hq List.nil_prefix
  exact (get?_eraseFrom hk).trans (if_neg hq)

theorem sameBut_eraseBelow (k : Loc) (t : Tree) : SameBut (Below k) t (t.eraseBelow k) :=
  fun _ hq => by rw [get?_eraseBelow, if_neg fun hle => hq hle.1]

/-- The removal of a directory touches nothing outside it, whether it succeeds or fails. -/
theorem sameBut_removeTree (hD : ∀ k, t.locate cwd p = .ok k → ∀ q, Below k q → D q) :
    (∀ u, t.removeTree cwd p = .ok u → SameBut D t u) ∧
      ∀ e u, t.removeTree cwd p = .error (e, u) → SameBut D t u := by
  refine ⟨fun u h => ?_, fun e u h => ?_⟩
  · obtain ⟨k, hk, -, -, rfl⟩ := removeTree_eq_ok.mp h
    exact (sameBut_eraseFrom k t).mono (hD k hk)
  · rw [removeTree] at h
    cases hl : t.locate cwd p with
    | error e' =>
      simp only [hl, Except.mapError, bind, Except.bind] at h
      cases h
      exact .refl _ _
    | ok k =>
      simp only [hl, Except.mapError, bind, Except.bind] at h
      split at h
      · cases h
        exact .refl _ _
      · cases h
        exact .refl _ _
      · -- Only what is in a directory can be removed that is named by its way back up.
        have hleft : SameBut D t (t.eraseBelow k) := (sameBut_eraseBelow k t).mono (hD k hl)
        split at h
        · cases h
        · split at h
          · cases h
            exact hleft
          · cases h
            exact hleft

/-! ## Files that are there -/

/-- The file `f` lies at a place, and directories lead to it. -/
structure HasFile (t : Tree) (q : Loc) (f : File) : Prop where
  file : t.get? q = some (.file f)
  leads : t.Leads q

theorem Rooted.hasFile (h : t.Rooted) (hq : t.get? q = some (.file f)) : t.HasFile q f :=
  ⟨hq, h.leads (q := []) (by rw [List.append_nil, hq]; rfl)⟩

/-- The way to a file leads through directories only. -/
theorem HasFile.not_prefix (h : t.HasFile q f) (hk : t.get? k ≠ some .directory) (hkq : k ≠ q) :
    ¬ k <+: q :=
  fun hle => hk (h.leads k hle hkq)

/-- An operation that spares the way to a file leaves it as it is. -/
theorem HasFile.sameBut (h : t.HasFile q f) (hu : Spares (fun r => ¬ r <+: q) t u) :
    SameBut (fun r => ¬ r <+: q) t u := by
  intro r hr
  have hr' : r <+: q := not_not.mp hr
  by_cases hrq : r = q
  · subst hrq
    rw [h.file]
    exact hu _ _ hr h.file
  · rw [h.leads r hr' hrq]
    exact hu _ _ hr (h.leads r hr' hrq)

/-- A file is still there after an operation that spares the way to it. -/
theorem HasFile.spared (h : t.HasFile q f) (hu : Spares (fun r => ¬ r <+: q) t u) :
    u.HasFile q f :=
  ⟨hu q _ (not_not_intro List.prefix_rfl) h.file, fun r hr hne =>
    hu r _ (not_not_intro hr) (h.leads r hr hne)⟩

/-- What is below a place that is not on the way to a file is not on the way to it either. -/
theorem not_prefix_of_below (hk : ¬ k <+: q) (hr : Below k r) : ¬ r <+: q :=
  fun hle => hk (hr.trans hle)

end Tree

end DeckPress
