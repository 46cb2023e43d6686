import DeckPress.Proofs.Host.Faults

/-!
# The files that are seen

What a preview knows of its sources is what it sees at their paths.

* `Tree.of_locate_below` — what is found along names of entries.
* `Host.fileAt?` — the file that is seen at a path.
* `Host.Sound` — the host shows a well-formed tree as it is.
* `fileAt?_of_plain` — what is seen at a plain path is what the tree holds at the place that its
  names spell; `fileAt?_congr` — the same is seen in any tree that holds the same there.
* `Host.SameFiles` — two hosts show the same.
-/

namespace DeckPress

open Act

namespace Tree

variable {name : String} {names : List String}

theorem IsEntryName.isProperName (h : IsEntryName name) : Path.IsProperName name :=
  ⟨h.1, h.2.1, h.2.2.2.1⟩

theorem up_not_mem (h : ∀ name ∈ names, IsEntryName name) : ".." ∉ names :=
  fun hmem => (h _ hmem).2.2.1 rfl

end Tree

namespace Path

theorem below_concat (p : Path) (names : List String) (name : String) :
    p.below (names ++ [name]) = (p.below names).child name := by
  rw [below, child, below, List.append_assoc]

theorem isBelow_below (p : Path) (names : List String) : (p.below names).IsBelow p :=
  ⟨rfl, List.prefix_append _ _⟩

theorem IsBelow.trans {p q r : Path} (h : p.IsBelow q) (h' : q.IsBelow r) : p.IsBelow r :=
  ⟨h.1.trans h'.1, h'.2.trans h.2⟩

theorem hasNul_below {p : Path} (hp : p.hasNul = true) (names : List String) :
    (p.below names).hasNul = true := by
  rw [hasNul, below, List.any_append, Bool.or_eq_true]
  exact .inl hp

theorem IsPlain.below {p : Path} (hp : p.IsPlain) {names : List String}
    (hnames : ∀ name ∈ names, Tree.IsEntryName name) : (p.below names).IsPlain := by
  refine isPlain_below hp fun name hname => ⟨(hnames name hname).isProperName, ?_⟩
  rintro rfl
  exact Tree.up_not_mem hnames hname

end Path

namespace Tree

variable {t : Tree} {cwd k r : Loc} {p : Path} {names : List String}

/-- What is found along names of entries is found below the place where they start. -/
theorem of_locate_below (hnames : ∀ name ∈ names, IsEntryName name)
    (hl : t.locate cwd (p.below names) = .ok r) :
    ∃ k, t.locate cwd p = .ok k ∧ r = k ++ names := by
  induction names using List.reverseRecOn generalizing r with
  | nil => exact ⟨r, by simpa [Path.below] using hl, by simp⟩
  | append_singleton names last ih =>
    have hlast := hnames last (by simp)
    rw [Path.below_concat, locate_child_eq_ok hlast.1 hlast.2.2.1] at hl
    obtain ⟨j, hj, -, -, -, rfl⟩ := hl
    obtain ⟨k, hk, rfl⟩ := ih (fun name hname => hnames name (by simp [hname])) hj
    exact ⟨k, hk, List.append_assoc _ _ _⟩

end Tree

/-! ## What is seen at a path -/

namespace Host

variable {g h h' : Host} {p q : Path} {f : File}

/-- The tree is well-formed, and no failure hides what a path is. -/
structure Sound (h : Host) : Prop where
  wellFormed : h.tree.WellFormed
  seesAll : h.SeesAll

/-- The file that is seen at a path. -/
def fileAt? (h : Host) (p : Path) : Option File :=
  match h.look p with
  | .ok (some (.file f)) => some f
  | _ => none

theorem fileAt?_eq_some (hsound : h.Sound) : h.fileAt? p = some f ↔
    p.hasNul = false ∧ ∃ k, h.locate p = .ok k ∧ h.tree.get? k = some (.file f) := by
  have hlook : h.fileAt? p = some f ↔ h.look p = .ok (some (.file f)) := by
    rw [fileAt?]
    split
    · rename_i hseen
      simp [hseen]
    · rename_i hother
      simp only [reduceCtorEq, false_iff]
      exact hother f
  rw [hlook, ← hsound.seesAll.look_spared]
  exact look_eq_some rfl

theorem seesFile_eq (h : Host) (p : Path) : h.seesFile p = (h.fileAt? p).isSome := by
  rw [seesFile, fileAt?]
  cases h.look p with
  | error e => rfl
  | ok n? =>
    cases n? with
    | none => rfl
    | some n => cases n <;> rfl

theorem fileAt?_of_seesDirectory (hdir : h.seesDirectory p = true) : h.fileAt? p = none := by
  rw [seesDirectory] at hdir
  rw [fileAt?]
  split at hdir
  · rename_i n? hlook
    rw [hlook]
    obtain ⟨n, rfl, hn⟩ := Option.any_eq_true _ _ |>.mp hdir
    cases n with
    | file f => cases hn
    | directory => rfl
  · cases hdir

/-- At a plain path the file is seen that lies at the place that the names spell. -/
theorem fileAt?_of_plain (hsound : h.Sound) (hp : p.IsPlain) : h.fileAt? p = some f ↔
    p.hasNul = false ∧ p.Fits ∧ h.tree.get? p.names = some (.file f) := by
  rw [fileAt?_eq_some hsound]
  refine and_congr_right fun _ => ?_
  constructor
  · rintro ⟨k, hl, hk⟩
    obtain ⟨hfits, -, rfl⟩ := (Tree.locate_eq_ok hp).mp hl
    exact ⟨hfits, hk⟩
  · rintro ⟨hfits, hk⟩
    have hleads : h.tree.Leads p.names :=
      hsound.wellFormed.toRooted.leads (q := []) (by rw [List.append_nil, hk]; rfl)
    exact ⟨p.names, (Tree.locate_eq_ok hp).mpr ⟨hfits, hleads, rfl⟩, hk⟩

/-- At a plain path the same is seen in any tree that holds the same file there. -/
theorem fileAt?_congr (hg : g.Sound) (hh : h.Sound) (hp : p.IsPlain)
    (hsame : ∀ f, g.tree.get? p.names = some (.file f) ↔ h.tree.get? p.names = some (.file f)) :
    g.fileAt? p = h.fileAt? p := by
  ext f
  rw [fileAt?_of_plain hg hp, fileAt?_of_plain hh hp, hsame]

/-! ## Hosts that show the same -/

/-- Both hosts show the same at every path. -/
structure SameFiles (h h' : Host) : Prop where
  tree : h'.tree = h.tree
  cwd : h'.cwd = h.cwd
  faults : h'.faults = h.faults

theorem SameFiles.symm (hsame : h.SameFiles h') : h'.SameFiles h :=
  ⟨hsame.tree.symm, hsame.cwd.symm, hsame.faults.symm⟩

theorem SameFiles.locate (hsame : h.SameFiles h') (q : Path) : h'.locate q = h.locate q := by
  rw [Host.locate, Host.locate, hsame.tree, hsame.cwd]

theorem SameFiles.look (hsame : h.SameFiles h') (q : Path) : h'.look q = h.look q := by
  rw [Host.look, Host.look, hsame.locate, Host.waiting?, Host.waiting?, hsame.tree, hsame.cwd,
    hsame.faults]

theorem SameFiles.fileAt? (hsame : h.SameFiles h') (q : Path) : h'.fileAt? q = h.fileAt? q := by
  rw [Host.fileAt?, Host.fileAt?, hsame.look]

theorem SameFiles.sound (hsame : h.SameFiles h') (hsound : h.Sound) : h'.Sound :=
  ⟨hsame.tree ▸ hsound.wellFormed, hsound.seesAll.of_faults hsame.faults⟩

end Host

end DeckPress
