import DeckPress.Proofs.Tree.Walk

/-!
# When tree operations succeed

* `bind_eq_ok` — a sequence of operations, and that it succeeds if one after the other does.
* `entries_eq_ok`, `readFile_eq_ok`, `writeFile_eq_ok`, `unlink_eq_ok`, `rename_eq_ok` and
  `removeTree_eq_ok` — each operation on the files of a tree, by when it succeeds and what it gives.
* `renameAt_of_none` — what is there can be moved to a free place beside it.
-/

namespace DeckPress.Tree

variable {t u : Tree} {cwd k s d : Loc} {p q : Path} {n : Node}

/-- A sequence of operations succeeds if one after the other does. -/
theorem bind_eq_ok {ε α β : Type} {a : Except ε α} {f : α → Except ε β} {y : β} :
    (a >>= f) = .ok y ↔ ∃ x, a = .ok x ∧ f x = .ok y := by
  cases a with
  | error e => simp [bind, Except.bind]
  | ok x => simp [bind, Except.bind]

theorem entries_eq_ok {names : List String} :
    t.entries k = .ok names ↔ t.get? k = some .directory ∧ names = t.names k := by
  rw [entries]
  cases hk : t.get? k with
  | none => simp
  | some n => cases n <;> simp [eq_comm]

theorem readFile_eq_ok {f : File} :
    t.readFile k = .ok f ↔ t.get? k = some (.file f) := by
  rw [readFile]
  cases hk : t.get? k with
  | none => simp
  | some n => cases n <;> simp

theorem unlink_eq_ok :
    t.unlink k = .ok u ↔ (∃ f, t.get? k = some (.file f)) ∧ u = t.erase k := by
  rw [unlink]
  cases hk : t.get? k with
  | none => simp
  | some n => cases n <;> simp [eq_comm]

theorem isDirectory_eq_true :
    t.isDirectory k = true ↔ t.get? k = some .directory := by
  rw [isDirectory]
  cases hk : t.get? k with
  | none => simp
  | some n => cases n <;> simp [Node.isDirectory]

theorem writeFile_eq_ok {f : File} :
    t.writeFile k f = .ok u ↔ t.get? k ≠ some .directory ∧ u = t.set k (.file f) := by
  rw [writeFile]
  split
  · rename_i hk
    simp [isDirectory_eq_true.mp hk]
  · rename_i hk
    rw [isDirectory_eq_true] at hk
    simp [hk, eq_comm]

theorem rename_eq_ok : t.rename cwd p q = .ok u ↔
    ∃ s d, t.locate cwd p = .ok s ∧ t.locate cwd q = .ok d ∧ hasEntryName p = true ∧
      hasEntryName q = true ∧ t.renameAt s d = .ok u := by
  rw [rename]
  cases hs : t.locate cwd p with
  | error e => simp [bind, Except.bind]
  | ok s =>
    cases hd : t.locate cwd q with
    | error e => simp [bind, Except.bind]
    | ok d =>
      by_cases hn : (hasEntryName p && hasEntryName q) = true
      · simp only [bind, Except.bind, hn, if_true]
        rw [Bool.and_eq_true] at hn
        simp [hn]
      · simp only [bind, Except.bind, hn]
        rw [Bool.and_eq_true] at hn
        constructor
        · intro h1
          cases h1
        · rintro ⟨_, _, -, -, h1, h2, -⟩
          exact absurd ⟨h1, h2⟩ hn

theorem not_prefix_sibling {a b : String} (h : a ≠ b) : ¬ k ++ [a] <+: k ++ [b] := by
  rw [List.prefix_append_right_inj]
  simpa using h

/-- What is there can be moved to a free place that is neither above nor below it. -/
theorem renameAt_of_none (hs : t.get? s = some n) (hd : t.get? d = none) (h1 : ¬ s <+: d)
    (h2 : ¬ d <+: s) : t.renameAt s d = .ok u ↔ u = t.move s d := by
  have hsd : s ≠ d := fun he => h1 (he ▸ List.prefix_rfl)
  rw [renameAt, hs]
  simp only [if_neg hsd, if_neg h1, if_neg h2, hd]
  cases n <;> simp [eq_comm]

theorem removeTree_eq_ok : t.removeTree cwd p = .ok u ↔
    ∃ k, t.locate cwd p = .ok k ∧ t.get? k = some .directory ∧ hasEntryName p = true ∧
      u = t.eraseFrom k := by
  rw [removeTree]
  cases hl : t.locate cwd p with
  | error e => simp [bind, Except.bind, Except.mapError]
  | ok k =>
    simp only [bind, Except.bind, Except.mapError]
    cases hk : t.get? k with
    | none => simp [hk, throw, throwThe, MonadExceptOf.throw]
    | some n =>
      cases n with
      | file f => simp [hk, throw, throwThe, MonadExceptOf.throw]
      | directory =>
        by_cases hn : hasEntryName p = true
        · simp [hk, hn, pure, Except.pure, eq_comm]
        · simp only [hn]
          cases hb : (t.eraseBelow k).locate cwd p <;> simp [throw, throwThe, MonadExceptOf.throw]

end DeckPress.Tree
