import DeckPress.Proofs.Path.Text
import DeckPress.Proofs.Tree.View
import DeckPress.Tree.Access

/-!
# Finding the way through a tree

* `locate_child_eq_ok` — an entry of a directory is found from where the directory is found.
* `locate_mono` — what is found stays found as long as no directory is lost.
* `locate_eq_ok` — a plain path, one that starts at the top and never goes back up, leads to the
  place that its names spell, or nowhere; `locate_of_isSome` — where something is, any path that
  never goes back up leads there.
* `locate_ne_tooLong` — only a path that is too long is found to be.
* `Made` — what making a directory with all that are missing above it does to a tree;
  `made_of_makeDirectories` and `exists_makeDirectories` — that it does so, and when.
-/

namespace DeckPress

namespace Path

/-- A path from the top that never goes back up, written with proper names. -/
structure IsPlain (p : Path) : Prop where
  absolute : p.isAbsolute = true
  proper : p.IsProper
  onward : ".." ∉ p.names

theorem isPlain_iff {p : Path} :
    p.IsPlain ↔ p.isAbsolute = true ∧ p.IsProper ∧ ".." ∉ p.names :=
  ⟨fun h => ⟨h.absolute, h.proper, h.onward⟩, fun h => ⟨h.1, h.2.1, h.2.2⟩⟩

instance {p : Path} : Decidable p.IsPlain := decidable_of_iff _ isPlain_iff.symm

/-- Neither the path nor one of its names is too long. -/
def Fits (p : Path) : Prop :=
  p.toString.utf8ByteSize ≤ Tree.pathLimit ∧ ∀ name ∈ p.names, name.utf8ByteSize ≤ Tree.nameLimit

variable {p : Path}

theorem child_of_names {k : List String} {name : String} (h : p.names = k ++ [name]) :
    p.parent.child name = p := by
  obtain ⟨root, names⟩ := p
  cases h
  simp [child, parent]

theorem IsPlain.parent (h : p.IsPlain) : p.parent.IsPlain :=
  ⟨h.absolute, fun n hn => h.proper n (List.mem_of_mem_dropLast hn),
    fun hn => h.onward (List.mem_of_mem_dropLast hn)⟩

theorem Fits.parent (h : p.Fits) (hp : p.IsProper) : p.parent.Fits := by
  refine ⟨?_, fun n hn => h.2 n (List.mem_of_mem_dropLast hn)⟩
  rcases List.eq_nil_or_concat p.names with hn | ⟨k, name, hn⟩
  · have hpp : p.parent = p := by
      obtain ⟨root, names⟩ := p
      cases hn
      rfl
    rw [hpp]
    exact h.1
  · have hname := hp name (by simp [hn])
    have hsize := size_toString_le_child p.parent hname.1
    rw [child_of_names (by simpa using hn)] at hsize
    exact hsize.trans h.1

end Path

namespace Tree

variable {t u : Tree} {here cwd k q : Loc} {p : Path} {name : String} {names : List String}

/-! ## Walking -/

theorem walk_cons_eq_ok : t.walk here (name :: names) = .ok q ↔
    t.get? here = some .directory ∧ name.utf8ByteSize ≤ nameLimit ∧
      t.walk (if name = ".." then here.dropLast else here ++ [name]) names = .ok q := by
  rw [walk]
  split
  · rename_i h
    simp [h]
  · rename_i h
    simp [h]
  · rename_i h
    rw [h]
    by_cases hs : nameLimit < name.utf8ByteSize
    · rw [if_pos hs]
      simp [Nat.not_le.mpr hs]
    · rw [if_neg hs]
      simp [Nat.not_lt.mp hs]

/-- One more name leads on from a directory, or back up from it. -/
theorem walk_concat_iff : t.walk here (names ++ [name]) = .ok q ↔
    ∃ k, t.walk here names = .ok k ∧ t.get? k = some .directory ∧
      name.utf8ByteSize ≤ nameLimit ∧ q = if name = ".." then k.dropLast else k ++ [name] := by
  induction names generalizing here with
  | nil =>
    rw [List.nil_append, walk_cons_eq_ok]
    simp [walk, eq_comm]
  | cons first names ih =>
    rw [List.cons_append, walk_cons_eq_ok, ih]
    constructor
    · rintro ⟨h1, h2, k, h3, h4⟩
      exact ⟨k, walk_cons_eq_ok.mpr ⟨h1, h2, h3⟩, h4⟩
    · rintro ⟨k, h3, h4⟩
      obtain ⟨h1, h2, h3⟩ := walk_cons_eq_ok.mp h3
      exact ⟨h1, h2, k, h3, h4⟩

theorem walk_concat_eq_ok (hn : name ≠ "..") : t.walk here (names ++ [name]) = .ok q ↔
    ∃ k, t.walk here names = .ok k ∧ t.get? k = some .directory ∧
      name.utf8ByteSize ≤ nameLimit ∧ q = k ++ [name] := by
  simp only [walk_concat_iff, if_neg hn]

theorem walk_concat_of_ok (h : t.walk here names = .ok k) :
    t.walk here (names ++ [name]) = t.walk k [name] := by
  induction names generalizing here with
  | nil =>
    cases h
    rfl
  | cons first names ih =>
    obtain ⟨h1, h2, h3⟩ := walk_cons_eq_ok.mp h
    rw [List.cons_append, walk, h1]
    simp only [if_neg (Nat.not_lt.mpr h2)]
    exact ih h3

theorem walk_mono (h : ∀ r, t.get? r = some .directory → u.get? r = some .directory)
    (hw : t.walk here names = .ok q) : u.walk here names = .ok q := by
  induction names generalizing here with
  | nil => simpa only [walk] using hw
  | cons name names ih =>
    obtain ⟨h1, h2, h3⟩ := walk_cons_eq_ok.mp hw
    exact walk_cons_eq_ok.mpr ⟨h _ h1, h2, ih h3⟩

theorem locate_eq_walk : t.locate cwd p = .ok q ↔
    p.toString.utf8ByteSize ≤ pathLimit ∧
      t.walk (if p.isAbsolute then [] else cwd) p.names = .ok q := by
  rw [locate]
  split
  · rename_i h
    simp [Nat.not_le.mpr h]
  · rename_i h
    simp [Nat.not_lt.mp h]

theorem locate_mono (h : ∀ r, t.get? r = some .directory → u.get? r = some .directory)
    (hl : t.locate cwd p = .ok q) : u.locate cwd p = .ok q := by
  rw [locate_eq_walk] at hl ⊢
  exact ⟨hl.1, walk_mono h hl.2⟩

/-- What is too long to be walked along stays so where there are more directories. -/
theorem walk_tooLong_mono (h : ∀ r, t.get? r = some .directory → u.get? r = some .directory)
    (hw : t.walk here names = .error .nameTooLong) :
    u.walk here names = .error .nameTooLong := by
  induction names generalizing here with
  | nil => cases hw
  | cons name names ih =>
    rw [walk] at hw
    split at hw
    · cases hw
    · cases hw
    · rename_i hdir
      rw [walk, h _ hdir]
      simp only
      split at hw
      · rename_i hlong
        rw [if_pos hlong]
      · rename_i hlong
        rw [if_neg hlong]
        exact ih hw

theorem locate_tooLong_mono (h : ∀ r, t.get? r = some .directory → u.get? r = some .directory)
    (hl : t.locate cwd p = .error .nameTooLong) : u.locate cwd p = .error .nameTooLong := by
  rw [locate] at hl ⊢
  split at hl
  · rename_i hlong
    rw [if_pos hlong]
  · rename_i hlong
    rw [if_neg hlong]
    exact walk_tooLong_mono h hl

/-- An entry of a directory is found from where the directory is found. -/
theorem locate_child_eq_ok (h0 : name ≠ "") (hn : name ≠ "..") :
    t.locate cwd (p.child name) = .ok q ↔
      ∃ k, t.locate cwd p = .ok k ∧ t.get? k = some .directory ∧
        (p.child name).toString.utf8ByteSize ≤ pathLimit ∧ name.utf8ByteSize ≤ nameLimit ∧
        q = k ++ [name] := by
  have habs : (p.child name).isAbsolute = p.isAbsolute := rfl
  simp only [locate_eq_walk, Path.names_child, walk_concat_eq_ok hn, habs]
  constructor
  · rintro ⟨h1, k, h2, h3, h4, h5⟩
    exact ⟨k, ⟨(Path.size_toString_le_child p h0).trans h1, h2⟩, h3, h1, h4, h5⟩
  · rintro ⟨k, ⟨-, h2⟩, h3, h1, h4, h5⟩
    exact ⟨h1, k, h2, h3, h4, h5⟩

/-- Only lengths keep an entry from being found where its directory is found. -/
theorem locate_child_eq_error {e : Errno} (hl : t.locate cwd p = .ok k)
    (hk : t.get? k = some .directory) (h : t.locate cwd (p.child name) = .error e) :
    e = .nameTooLong := by
  have habs : (p.child name).isAbsolute = p.isAbsolute := rfl
  rw [locate, habs, Path.names_child] at h
  split at h
  · cases h
    rfl
  · rw [walk_concat_of_ok (locate_eq_walk.mp hl).2, walk, hk] at h
    simp only at h
    split at h
    · cases h
      rfl
    · cases h

/-! ## Plain paths -/

/-- Everything on the way to a place is a directory. -/
def Leads (t : Tree) (k : Loc) : Prop := ∀ r, r <+: k → r ≠ k → t.get? r = some .directory

/-- Nothing but directories is on the way to a place or there. -/
def Free (t : Tree) (k : Loc) : Prop :=
  ∀ r, r <+: k → t.get? r = none ∨ t.get? r = some .directory

theorem leads_concat : t.Leads (k ++ [name]) ↔ t.Leads k ∧ t.get? k = some .directory := by
  constructor
  · intro h
    refine ⟨fun r hr _ => h r (hr.trans (List.prefix_append k _)) ?_,
      h k (List.prefix_append k _) (by simp)⟩
    rintro rfl
    have := hr.length_le
    rw [List.length_append, List.length_singleton] at this
    omega
  · rintro ⟨h, hk⟩ r hr hne
    rcases List.prefix_concat_iff.mp hr with hr | hr
    · exact absurd hr hne
    · by_cases hrk : r = k
      · rwa [hrk]
      · exact h r hr hrk

/-- Everything on the way to what is there is a directory. -/
theorem Rooted.leads (h : t.Rooted) (hsome : (t.get? (k ++ q)).isSome) : t.Leads k := by
  rintro r ⟨z, rfl⟩ hne
  rw [List.append_assoc] at hsome
  refine h.directory_of_append ?_ hsome
  intro he
  rw [(List.append_eq_nil_iff.mp he).1, List.append_nil] at hne
  exact hne rfl

theorem walk_eq_ok (hup : ".." ∉ names) : t.walk [] names = .ok q ↔
    (∀ name ∈ names, name.utf8ByteSize ≤ nameLimit) ∧ t.Leads names ∧ q = names := by
  induction names using List.reverseRecOn generalizing q with
  | nil => simp [walk, Leads, eq_comm]
  | append_singleton names name ih =>
    simp only [List.mem_append, List.mem_singleton, not_or] at hup
    simp only [walk_concat_eq_ok (Ne.symm hup.2), ih hup.1, leads_concat, List.mem_append,
      List.mem_singleton]
    constructor
    · rintro ⟨k, ⟨h1, h2, rfl⟩, h3, h4, h5⟩
      exact ⟨fun n hn => hn.elim (h1 n) fun he => he ▸ h4, ⟨h2, h3⟩, h5⟩
    · rintro ⟨h1, ⟨h2, h3⟩, h5⟩
      exact ⟨names, ⟨fun n hn => h1 n (.inl hn), h2, rfl⟩, h3, h1 name (.inr rfl), h5⟩

/-- A plain path leads to the place that its names spell. -/
theorem locate_eq_ok (hp : p.IsPlain) :
    t.locate cwd p = .ok q ↔ p.Fits ∧ t.Leads p.names ∧ q = p.names := by
  rw [locate_eq_walk, if_pos hp.absolute, walk_eq_ok hp.onward, Path.Fits, and_assoc]

/-- Where something is, names lead there, unless one of them is too long. -/
theorem walk_of_isSome (hw : t.Rooted) (hup : ".." ∉ names)
    (hsome : (t.get? (here ++ names)).isSome) : t.walk here names =
      if ∀ name ∈ names, name.utf8ByteSize ≤ nameLimit then .ok (here ++ names)
      else .error .nameTooLong := by
  induction names generalizing here with
  | nil => simp [walk]
  | cons name names ih =>
    obtain ⟨hname, hup⟩ := not_or.mp (List.mem_cons.not.mp hup)
    have hdir := hw.directory_of_append (List.cons_ne_nil name names) hsome
    rw [walk, hdir]
    simp only [List.forall_mem_cons]
    by_cases hlong : nameLimit < name.utf8ByteSize
    · rw [if_pos hlong, if_neg fun hall => absurd hall.1 (Nat.not_le.mpr hlong)]
    · rw [if_neg hlong, if_neg (Ne.symm hname), ih hup (by simpa using hsome)]
      simp only [Nat.not_lt.mp hlong, true_and, List.append_assoc, List.singleton_append]

/-- Names that never go back up lead nowhere else. -/
theorem eq_of_walk (hup : ".." ∉ names) (hw : t.walk here names = .ok q) : q = here ++ names := by
  induction names generalizing here with
  | nil =>
    cases hw
    rw [List.append_nil]
  | cons name names ih =>
    obtain ⟨hname, hup⟩ := not_or.mp (List.mem_cons.not.mp hup)
    obtain ⟨-, -, hw⟩ := walk_cons_eq_ok.mp hw
    rw [if_neg (Ne.symm hname)] at hw
    rw [ih hup hw, List.append_assoc, List.singleton_append]

/-- Where something is, a path leads there, unless it is too long. -/
theorem locate_of_isSome (hw : t.Rooted) (hup : ".." ∉ p.names)
    (hsome : (t.get? ((if p.isAbsolute then [] else cwd) ++ p.names)).isSome) :
    (p.Fits → t.locate cwd p = .ok ((if p.isAbsolute then [] else cwd) ++ p.names)) ∧
      (¬ p.Fits → t.locate cwd p = .error .nameTooLong) := by
  have hwalk := walk_of_isSome hw hup hsome
  refine ⟨fun hfits => ?_, fun hlong => ?_⟩
  · rw [locate, if_neg (Nat.not_lt.mpr hfits.1), hwalk, if_pos hfits.2]
  · rw [locate]
    split
    · rfl
    · rename_i hsize
      rw [hwalk, if_neg fun hnames => hlong ⟨Nat.not_lt.mp hsize, hnames⟩]

theorem walk_ne_tooLong (hsize : ∀ name ∈ names, name.utf8ByteSize ≤ nameLimit) :
    t.walk here names ≠ .error .nameTooLong := by
  induction names generalizing here with
  | nil => exact nofun
  | cons name names ih =>
    obtain ⟨hname, hsize⟩ := List.forall_mem_cons.mp hsize
    rw [walk]
    split
    · exact nofun
    · exact nofun
    · rw [if_neg (Nat.not_lt.mpr hname)]
      exact ih hsize

/-- A path is too long for a tree only if it or one of its names is. -/
theorem locate_ne_tooLong (hfits : p.Fits) : t.locate cwd p ≠ .error .nameTooLong := by
  rw [locate, if_neg (Nat.not_lt.mpr hfits.1)]
  exact walk_ne_tooLong hfits.2

theorem walk_eq_error {e : Errno} (hup : ".." ∉ names)
    (hsize : ∀ name ∈ names, name.utf8ByteSize ≤ nameLimit) (hfree : t.Free (here ++ names))
    (h : t.walk here names = .error e) : e = .noEntry := by
  induction names generalizing here with
  | nil => cases h
  | cons name names ih =>
    simp only [List.mem_cons, not_or] at hup
    rw [walk] at h
    rcases hfree here (List.prefix_append here _) with hh | hh
    · rw [hh] at h
      cases h
      rfl
    · rw [hh] at h
      simp only [Nat.not_lt.mpr (hsize name (by simp)), if_false, if_neg (Ne.symm hup.1)] at h
      exact ih hup.2 (fun n hn => hsize n (by simp [hn])) (by simpa using hfree) h

theorem locate_eq_error {e : Errno} (hp : p.IsPlain) (hfits : p.Fits) (hfree : t.Free p.names)
    (h : t.locate cwd p = .error e) : e = .noEntry := by
  rw [locate, if_neg (Nat.not_lt.mpr hfits.1), if_pos hp.absolute] at h
  exact walk_eq_error hp.onward hfits.2 hfree h

/-! ## Making directories -/

/-- The tree `u` is `t` with a directory at `k` and at every place on the way. -/
structure Made (t u : Tree) (k : Loc) : Prop where
  top : u.nodes[([] : Loc)]? = t.nodes[([] : Loc)]?
  free : t.Free k
  get? : ∀ q, u.get? q = if q <+: k then some .directory else t.get? q

theorem Made.refl (h : t.Leads k) (hk : t.get? k = some .directory) : Made t t k := by
  have hall : ∀ r, r <+: k → t.get? r = some .directory := fun r hr => by
    by_cases hrk : r = k
    · rwa [hrk]
    · exact h r hr hrk
  refine ⟨rfl, fun r hr => .inr (hall r hr), fun q => ?_⟩
  split
  · exact hall q ‹_›
  · rfl

theorem Made.set (h : t.Leads k) (hk : t.get? k = none) : Made t (t.set k .directory) k := by
  have hk0 : k ≠ [] := ne_nil_of_not_directory (t := t) (by simp [hk])
  refine ⟨nodes_set_nil hk0, fun r hr => ?_, fun q => ?_⟩
  · by_cases hrk : r = k
    · exact .inl (by rw [hrk, hk])
    · exact .inr (h r hr hrk)
  · rw [get?_set hk0]
    by_cases hqk : q = k
    · rw [if_pos hqk, if_pos (hqk ▸ List.prefix_rfl)]
    · rw [if_neg hqk]
      split
      · exact h q ‹_› hqk
      · rfl

theorem Made.trans {v : Tree} {j : Loc} (h : Made t u j) (hv : Made u v k) (hjk : j <+: k) :
    Made t v k := by
  refine ⟨hv.top.trans h.top, fun r hr => ?_, fun q => ?_⟩
  · have := hv.free r hr
    rw [h.get?] at this
    split at this
    · exact h.free r ‹_›
    · exact this
  · rw [hv.get?, h.get?]
    by_cases hqk : q <+: k
    · rw [if_pos hqk, if_pos hqk]
    · rw [if_neg hqk, if_neg hqk, if_neg fun hqj => hqk (hqj.trans hjk)]

theorem made_of_makeDirectory (hp : p.IsPlain)
    (h : (t.locate cwd p >>= t.makeDirectory) = .ok u) : p.Fits ∧ Made t u p.names := by
  cases hl : t.locate cwd p with
  | error e =>
    rw [hl] at h
    cases h
  | ok k =>
    rw [hl] at h
    obtain ⟨hfits, hleads, rfl⟩ := (locate_eq_ok hp).mp hl
    change t.makeDirectory p.names = .ok u at h
    rw [makeDirectory] at h
    split at h
    · cases h
    · rename_i hnone
      cases h
      exact ⟨hfits, .set hleads (by simpa using hnone)⟩

theorem made_of_isThere {seen : Path → Bool} (hp : p.IsPlain)
    (h : makeDirectoriesUpTo.isThere cwd seen t p = true) : p.Fits ∧ Made t t p.names := by
  rw [makeDirectoriesUpTo.isThere, Bool.and_eq_true] at h
  obtain ⟨-, h⟩ := h
  split at h
  · rename_i k hl
    obtain ⟨hfits, hleads, rfl⟩ := (locate_eq_ok hp).mp hl
    refine ⟨hfits, .refl hleads ?_⟩
    rw [isDirectory, Option.any_eq_true] at h
    obtain ⟨n, hn, hd⟩ := h
    cases n with
    | file f => cases hd
    | directory => exact hn
  · cases h

/-- One step towards a directory: it is made in the tree `t`, or it is there. -/
def MakesAt (cwd : Loc) (seen : Path → Bool) (p : Path) (t u : Tree) : Prop :=
  (t.locate cwd p >>= t.makeDirectory) = .ok u ∨
    makeDirectoriesUpTo.isThere cwd seen t p = true ∧ u = t

theorem MakesAt.made {seen : Path → Bool} (hp : p.IsPlain) (h : MakesAt cwd seen p t u) :
    p.Fits ∧ Made t u p.names := by
  rcases h with h | ⟨h, rfl⟩
  · exact made_of_makeDirectory hp h
  · exact made_of_isThere hp h

theorem of_makeDirectoriesUpTo {seen : Path → Bool} {depth : Nat}
    (h : t.makeDirectoriesUpTo cwd seen depth p = .ok u) :
    MakesAt cwd seen p t u ∨ ∃ d v, depth = d + 1 ∧
      t.makeDirectoriesUpTo cwd seen d p.parent = .ok v ∧ MakesAt cwd seen p v u := by
  rw [makeDirectoriesUpTo] at h
  split at h
  · cases h
    exact .inl (.inl ‹_›)
  · split at h
    · cases depth with
      | zero => cases h
      | succ d =>
        refine .inr ⟨d, ?_⟩
        cases hv : t.makeDirectoriesUpTo cwd seen d p.parent with
        | error e => simp [hv, bind, Except.bind] at h
        | ok v =>
          simp only [hv, bind, Except.bind] at h
          refine ⟨v, rfl, rfl, ?_⟩
          split at h
          · cases h
            exact .inl ‹_›
          · split at h
            · cases h
              exact .inr ⟨(Bool.and_eq_true_iff.mp ‹_›).2, rfl⟩
            · cases h
    · split at h
      · cases h
        exact .inl (.inr ⟨‹_›, rfl⟩)
      · cases h

theorem made_of_makeDirectoriesUpTo {seen : Path → Bool} {depth : Nat} (hp : p.IsPlain)
    (h : t.makeDirectoriesUpTo cwd seen depth p = .ok u) : p.Fits ∧ Made t u p.names := by
  induction depth generalizing p u with
  | zero =>
    rcases of_makeDirectoriesUpTo h with h | ⟨d, v, hd, -⟩
    · exact h.made hp
    · cases hd
  | succ depth ih =>
    rcases of_makeDirectoriesUpTo h with h | ⟨d, v, hd, hv, h⟩
    · exact h.made hp
    · cases hd
      have hm := h.made hp
      exact ⟨hm.1, (ih hp.parent hv).2.trans hm.2 (List.dropLast_prefix _)⟩

theorem alreadyThere_ne_noEntry : Errno.alreadyThere ≠ .noEntry := by decide

/-- Where all is a directory on the way, a directory can be made unless it is there. -/
theorem makesAt_of_leads (cwd : Loc) (hp : p.IsPlain) (hfits : p.Fits) (hfree : t.Free p.names)
    (hleads : t.Leads p.names) :
    (t.locate cwd p >>= t.makeDirectory) = .ok (t.set p.names .directory) ∨
      (t.locate cwd p >>= t.makeDirectory) = .error .alreadyThere ∧
        makeDirectoriesUpTo.isThere cwd (fun _ => true) t p = true := by
  have hl : t.locate cwd p = .ok p.names := (locate_eq_ok hp).mpr ⟨hfits, hleads, rfl⟩
  rw [hl]
  change t.makeDirectory p.names = _ ∨ t.makeDirectory p.names = _ ∧ _
  rcases hfree p.names List.prefix_rfl with hk | hk
  · exact .inl (by simp [makeDirectory, hk])
  · exact .inr (by simp [makeDirectory, makeDirectoriesUpTo.isThere, hl, isDirectory, hk,
      Node.isDirectory])

theorem Free.parent (h : t.Free p.names) : t.Free p.parent.names :=
  fun r hr => h r (hr.trans (List.dropLast_prefix _))

theorem Made.leads {j : Loc} (h : Made t u j) (hk : k.dropLast = j) : u.Leads k := by
  intro r hr hne
  rw [h.get?, if_pos]
  rcases List.eq_nil_or_concat k with h0 | ⟨j', name, hk'⟩
  · subst h0
    exact absurd (List.prefix_nil.mp hr) hne
  · rw [List.concat_eq_append] at hk'
    subst hk'
    rw [List.dropLast_concat] at hk
    rcases List.prefix_concat_iff.mp hr with hr | hr
    · exact absurd hr hne
    · exact hk ▸ hr

theorem exists_makeDirectoriesUpTo (cwd : Loc) {depth : Nat} (hp : p.IsPlain) (hfits : p.Fits)
    (hfree : t.Free p.names) (hd : p.names.length ≤ depth) :
    ∃ u, t.makeDirectoriesUpTo cwd (fun _ => true) depth p = .ok u := by
  induction depth generalizing p with
  | zero =>
    have hnil : p.names = [] := List.length_eq_zero_iff.mp (Nat.le_zero.mp hd)
    have hleads : t.Leads p.names := by
      rw [hnil]
      exact fun r hr hne => absurd (List.prefix_nil.mp hr) hne
    rw [makeDirectoriesUpTo]
    rcases makesAt_of_leads cwd hp hfits hfree hleads with h | ⟨h, h'⟩
    · exact ⟨_, by rw [h]⟩
    · exact ⟨t, by rw [h]; simp [h', alreadyThere_ne_noEntry]⟩
  | succ depth ih =>
    have hlen : p.parent.names.length ≤ depth := by
      rw [Path.parent, List.length_dropLast]
      omega
    obtain ⟨v, hv⟩ := ih hp.parent (hfits.parent hp.proper) hfree.parent hlen
    have hm := (made_of_makeDirectoriesUpTo hp.parent hv).2
    have hfree' : v.Free p.names := fun r hr => by
      rw [hm.get?]
      split
      · exact .inr rfl
      · exact hfree r hr
    rw [makeDirectoriesUpTo]
    cases hl : t.locate cwd p with
    | ok k =>
      obtain ⟨-, hleads, rfl⟩ := (locate_eq_ok hp).mp hl
      rw [← hl]
      rcases makesAt_of_leads cwd hp hfits hfree hleads with h | ⟨h, h'⟩
      · exact ⟨_, by rw [h]⟩
      · exact ⟨t, by rw [h]; simp [h', alreadyThere_ne_noEntry]⟩
    | error e =>
      cases locate_eq_error hp hfits hfree hl
      simp only [bind, Except.bind, if_true, hv]
      rcases makesAt_of_leads cwd hp hfits hfree' (hm.leads rfl) with h | ⟨h, h'⟩
      · exact ⟨_, by simp only [bind, Except.bind] at h; rw [h]; rfl⟩
      · refine ⟨v, ?_⟩
        simp only [bind, Except.bind] at h
        rw [h]
        simp [h', alreadyThere_ne_noEntry, pure, Except.pure]

theorem made_of_makeDirectories {seen : Path → Bool} (hp : p.IsPlain)
    (h : t.makeDirectories cwd seen p = .ok u) : p.Fits ∧ Made t u p.names :=
  made_of_makeDirectoriesUpTo hp h

/-- A directory is made, with all that are missing above it, wherever no file is in the way. -/
theorem exists_makeDirectories (cwd : Loc) (hp : p.IsPlain) (hfits : p.Fits)
    (hfree : t.Free p.names) :
    ∃ u, t.makeDirectories cwd (fun _ => true) p = .ok u ∧ Made t u p.names := by
  obtain ⟨u, hu⟩ := exists_makeDirectoriesUpTo cwd hp hfits hfree le_rfl
  exact ⟨u, hu, (made_of_makeDirectories hp hu).2⟩

end Tree

end DeckPress
