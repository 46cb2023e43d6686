import DeckPress.Proofs.Tree.Access
import DeckPress.Tree.Install

/-!
# The same directory at another place

Two trees are `Relocated` if the second holds at one place what the first holds at another one
beside it, nothing where the first has it, and the same everywhere else.  What an operation does
below the first place in the first tree, it does below the second place in the second tree.

* `Relocated.change` — a change below the two places that comes to the same keeps the relation.
* `Relocated.set`, `Relocated.erase`, `Relocated.move` — the changes that operations make.
* `Relocated.makeDirectories`, `Relocated.installAll` — operations by path, which also have to
  succeed in the second tree.
-/

namespace DeckPress

namespace Path

/-- The path that goes on from `p` along names. -/
def below (p : Path) (r : List String) : Path := ⟨p.root, p.names ++ r⟩

/-- The paths of two entries of a directory; the second has the shorter name. -/
structure Beside (dir : Path) (a b : String) : Prop where
  plain : dir.IsPlain
  source : IsProperName a ∧ a ≠ ".."
  target : IsProperName b ∧ b ≠ ".."
  ne : a ≠ b
  size : b.utf8ByteSize ≤ a.utf8ByteSize
  nul : '\x00' ∈ b.toList → '\x00' ∈ a.toList

variable {p dir : Path} {a b name : String} {r : List String}

@[simp] theorem names_below (p : Path) (r : List String) : (p.below r).names = p.names ++ r := rfl

theorem below_nil (p : Path) : p.below [] = p := by
  rw [below, List.append_nil]

theorem isPlain_below (hp : p.IsPlain) (hr : ∀ n ∈ r, IsProperName n ∧ n ≠ "..") :
    (p.below r).IsPlain := by
  refine ⟨hp.absolute, fun n hn => ?_, fun hup => ?_⟩
  · rcases List.mem_append.mp hn with h1 | h1
    · exact hp.proper n h1
    · exact (hr n h1).1
  · rcases List.mem_append.mp hup with h1 | h1
    · exact hp.onward h1
    · exact (hr _ h1).2 rfl

theorem Beside.plain_source (h : Beside dir a b) : (dir.child a).IsPlain :=
  isPlain_below h.plain fun _ hn => List.mem_singleton.mp hn ▸ h.source

theorem Beside.plain_target (h : Beside dir a b) : (dir.child b).IsPlain :=
  isPlain_below h.plain fun _ hn => List.mem_singleton.mp hn ▸ h.target

theorem Beside.size_below (h : Beside dir a b) (r : List String) :
    ((dir.child b).below r).toString.utf8ByteSize ≤
      ((dir.child a).below r).toString.utf8ByteSize := by
  have hb : ((dir.child b).below r).names ≠ [] := by simp [below]
  have ha : ((dir.child a).below r).names ≠ [] := by simp [below]
  have hsize := size_intercalate_le_of_le h.size dir.names r
  rw [toString_of_ne_nil hb, toString_of_ne_nil ha, String.utf8ByteSize_append,
    String.utf8ByteSize_append]
  simp only [below, names_child, root_child, List.append_assoc, List.singleton_append]
  omega

theorem Beside.fits (h : Beside dir a b) (hf : ((dir.child a).below r).Fits) :
    ((dir.child b).below r).Fits := by
  refine ⟨(h.size_below r).trans hf.1, fun n hn => ?_⟩
  have ha := hf.2 a (by simp [below])
  simp only [below, names_child, List.append_assoc, List.singleton_append, List.mem_append,
    List.mem_cons] at hn
  rcases hn with hn | rfl | hn
  · exact hf.2 n (by simp [below, hn])
  · exact h.size.trans ha
  · exact hf.2 n (by simp [below, hn])

theorem Beside.fits_target (h : Beside dir a b) (hf : (dir.child a).Fits) : (dir.child b).Fits := by
  rw [← below_nil (dir.child a)] at hf
  rw [← below_nil (dir.child b)]
  exact h.fits hf

end Path

namespace Tree

/-- The tree `u` holds at `d` what `t` holds at the directory `s`, nothing at `s`, and elsewhere the
same as `t`.  What `t` itself has at `d` does not matter. -/
structure Relocated (s d : Loc) (t u : Tree) : Prop where
  top : u.nodes[([] : Loc)]? = t.nodes[([] : Loc)]?
  leads : t.Leads s
  directory : t.get? s = some .directory
  site : ∀ r, u.get? (d ++ r) = t.get? (s ++ r)
  gone : ∀ r, u.get? (s ++ r) = none
  rooted : ∀ r, r ≠ [] → (t.get? (d ++ r)).isSome → t.get? d = some .directory
  rest : ∀ q, ¬ s <+: q → ¬ d <+: q → u.get? q = t.get? q

/-- Neither place is above the other one. -/
def Incomparable (s d : Loc) : Prop := ¬ s <+: d ∧ ¬ d <+: s

instance {s d : Loc} : Decidable (Incomparable s d) := inferInstanceAs (Decidable (_ ∧ _))

variable {t t' u u' : Tree} {s d r q x y cwd : Loc} {n : Node} {dir : Path} {a b name : String}
  {files : List (String × Node)}

theorem incomparable_siblings (h : a ≠ b) : Incomparable (q ++ [a]) (q ++ [b]) :=
  ⟨not_prefix_sibling h, not_prefix_sibling (Ne.symm h)⟩

theorem Incomparable.not_prefix_append (h : Incomparable s d) (r : Loc) : ¬ d <+: s ++ r := by
  intro h1
  rcases List.prefix_or_prefix_of_prefix h1 (List.prefix_append s r) with h2 | h2
  · exact h.2 h2
  · exact h.1 h2

theorem Incomparable.symm (h : Incomparable s d) : Incomparable d s := ⟨h.2, h.1⟩

theorem Incomparable.ne_nil (h : Incomparable s d) : s ≠ [] := by
  rintro rfl
  exact h.1 List.nil_prefix

/-- A change below the two places that comes to the same there keeps the relation. -/
theorem Relocated.change (h : Relocated s d t u) (hsd : Incomparable s d)
    (htop : t'.nodes[([] : Loc)]? = t.nodes[([] : Loc)]?)
    (hutop : u'.nodes[([] : Loc)]? = u.nodes[([] : Loc)]?)
    (hdir : t'.get? s = some .directory) (hsite : ∀ r, u'.get? (d ++ r) = t'.get? (s ++ r))
    (ht : ∀ q, ¬ s <+: q → t'.get? q = t.get? q)
    (hu : ∀ q, ¬ d <+: q → u'.get? q = u.get? q) : Relocated s d t' u' := by
  have hold : ∀ r, t'.get? (d ++ r) = t.get? (d ++ r) := fun r =>
    ht _ (hsd.symm.not_prefix_append r)
  refine ⟨hutop.trans (h.top.trans htop.symm), fun r hr hne => ?_, hdir, hsite, fun r => ?_,
    fun r hr hsome => ?_, fun q hs hd => ?_⟩
  · rw [ht r fun hsr => hne (hr.eq_of_length_le hsr.length_le), h.leads r hr hne]
  · rw [hu _ (hsd.not_prefix_append r), h.gone]
  · have hself := hold []
    rw [List.append_nil] at hself
    rw [hold] at hsome
    rw [hself, h.rooted r hr hsome]
  · rw [hu q hd, ht q hs, h.rest q hs hd]

theorem Relocated.set (h : Relocated s d t u) (hsd : Incomparable s d) (hr : r ≠ []) :
    Relocated s d (t.set (s ++ r) n) (u.set (d ++ r) n) := by
  have hs : s ++ r ≠ [] := by simp [hr]
  have hd : d ++ r ≠ [] := by simp [hr]
  refine h.change hsd (nodes_set_nil hs) (nodes_set_nil hd) ?_ (fun r' => ?_) (fun q hq => ?_)
    fun q hq => ?_
  · rw [get?_set hs, if_neg (by simpa using hr), h.directory]
  · rw [get?_set hs, get?_set hd, h.site]
    simp only [List.append_cancel_left_eq]
  · rw [get?_set hs, if_neg]
    rintro rfl
    exact hq (List.prefix_append s r)
  · rw [get?_set hd, if_neg]
    rintro rfl
    exact hq (List.prefix_append d r)

theorem Relocated.erase (h : Relocated s d t u) (hsd : Incomparable s d) (hr : r ≠ []) :
    Relocated s d (t.erase (s ++ r)) (u.erase (d ++ r)) := by
  have hs : s ++ r ≠ [] := by simp [hr]
  have hd : d ++ r ≠ [] := by simp [hr]
  refine h.change hsd (nodes_erase_nil hs) (nodes_erase_nil hd) ?_ (fun r' => ?_) (fun q hq => ?_)
    fun q hq => ?_
  · rw [get?_erase hs, if_neg (by simpa using hr), h.directory]
  · rw [get?_erase hs, get?_erase hd, h.site]
    simp only [List.append_cancel_left_eq]
  · rw [get?_erase hs, if_neg]
    rintro rfl
    exact hq (List.prefix_append s r)
  · rw [get?_erase hd, if_neg]
    rintro rfl
    exact hq (List.prefix_append d r)

theorem nodes_move_nil (hs : s ≠ []) (hd : d ≠ []) :
    (t.move s d).nodes[([] : Loc)]? = t.nodes[([] : Loc)]? := by
  rw [Tree.move, nodes_graft_of_not_mem, nodes_eraseFrom_nil hd, nodes_eraseFrom_nil hs]
  · intro r hr
    exact absurd (List.append_eq_nil_iff.mp hr.symm).1 hd

/-- What a move below a place does there. -/
theorem get?_move_below (hx : x ≠ []) (hy : y ≠ []) :
    (t.move (s ++ x) (s ++ y)).get? (s ++ r) =
      if y <+: r then t.get? (s ++ (x ++ r.drop y.length))
      else if x <+: r then none else t.get? (s ++ r) := by
  have hsx : s ++ x ≠ [] := by simp [hx]
  have hsy : s ++ y ≠ [] := by simp [hy]
  by_cases hyr : y <+: r
  · obtain ⟨z, rfl⟩ := hyr
    rw [if_pos (List.prefix_append y z), ← List.append_assoc, get?_move_append hsx hsy]
    simp
  · rw [if_neg hyr, get?_move_elsewhere hsx hsy (by simpa using hyr)]
    simp only [List.prefix_append_right_inj]

theorem get?_move_outside (hx : x ≠ []) (hy : y ≠ []) (hq : ¬ s <+: q) :
    (t.move (s ++ x) (s ++ y)).get? q = t.get? q := by
  have hsx : s ++ x ≠ [] := by simp [hx]
  have hsy : s ++ y ≠ [] := by simp [hy]
  have hxq : ¬ s ++ x <+: q := fun h => hq ((List.prefix_append s x).trans h)
  have hyq : ¬ s ++ y <+: q := fun h => hq ((List.prefix_append s y).trans h)
  rw [get?_move_elsewhere hsx hsy hyq, if_neg hxq]

theorem Relocated.move (h : Relocated s d t u) (hsd : Incomparable s d) (hx : x ≠ [])
    (hy : y ≠ []) : Relocated s d (t.move (s ++ x) (s ++ y)) (u.move (d ++ x) (d ++ y)) := by
  refine h.change hsd (nodes_move_nil (by simp [hx]) (by simp [hy]))
    (nodes_move_nil (by simp [hx]) (by simp [hy])) ?_ (fun r => ?_)
    (fun q => get?_move_outside hx hy) fun q => get?_move_outside hx hy
  · have hself := get?_move_below (t := t) (s := s) (r := []) hx hy
    rw [List.append_nil, if_neg (by simpa using hy), if_neg (by simpa using hx)] at hself
    rw [hself, h.directory]
  · simp only [get?_move_below hx hy, h.site]

/-! ## Operations by path -/

/-- On the way to a place below the second directory there is what is on the way below the first. -/
theorem Relocated.get?_prefix (h : Relocated (q ++ [a]) (q ++ [b]) t u) {k : Loc}
    (hk : k <+: q ++ [b] ++ r) :
    (k <+: q ∧ u.get? k = some .directory) ∨
      ∃ z, z <+: r ∧ k = q ++ [b] ++ z ∧ u.get? k = t.get? (q ++ [a] ++ z) := by
  have hpart : k <+: q ++ [b] ∨ q ++ [b] <+: k :=
    List.prefix_or_prefix_of_prefix hk (List.prefix_append _ r)
  by_cases hkb : q ++ [b] <+: k
  · obtain ⟨z, rfl⟩ := hkb
    exact .inr ⟨z, (List.prefix_append_right_inj _).mp hk, rfl, h.site z⟩
  · have hkq : k <+: q := by
      rcases List.prefix_concat_iff.mp (hpart.resolve_right hkb) with h1 | h1
      · exact absurd (h1 ▸ List.prefix_rfl) hkb
      · exact h1
    have hka : ¬ q ++ [a] <+: k := fun h1 => by
      have := h1.length_le.trans hkq.length_le
      rw [List.length_append, List.length_singleton] at this
      omega
    refine .inl ⟨hkq, ?_⟩
    rw [h.rest k hka hkb]
    exact h.leads k (hkq.trans (List.prefix_append q _)) fun h1 => hka (h1 ▸ List.prefix_rfl)

theorem Relocated.leads_below (h : Relocated (q ++ [a]) (q ++ [b]) t u)
    (ht : t.Leads (q ++ [a] ++ r)) : u.Leads (q ++ [b] ++ r) := by
  intro k hk hne
  rcases h.get?_prefix hk with ⟨-, hdir⟩ | ⟨z, hz, rfl, hsame⟩
  · exact hdir
  · rw [hsame]
    exact ht _ ((List.prefix_append_right_inj _).mpr hz) (by simpa using hne)

theorem Relocated.free_below (h : Relocated (q ++ [a]) (q ++ [b]) t u)
    (ht : t.Free (q ++ [a] ++ r)) : u.Free (q ++ [b] ++ r) := by
  intro k hk
  rcases h.get?_prefix hk with ⟨-, hdir⟩ | ⟨z, hz, rfl, hsame⟩
  · exact .inr hdir
  · rw [hsame]
    exact ht _ ((List.prefix_append_right_inj _).mpr hz)

/-- What making a directory below a directory does not touch. -/
theorem Made.get?_outside (h : Made t t' (s ++ r)) (hs : t.Leads s) (hq : ¬ s <+: q) :
    t'.get? q = t.get? q := by
  rw [h.get?]
  split
  · rename_i hqr
    rcases List.prefix_or_prefix_of_prefix hqr (List.prefix_append s r) with h1 | h1
    · exact (hs q h1 fun he => hq (he ▸ List.prefix_rfl)).symm
    · exact absurd h1 hq
  · rfl

theorem Relocated.leads_target (h : Relocated (q ++ [a]) (q ++ [b]) t u) : u.Leads (q ++ [b]) := by
  have := h.leads_below (r := []) (by rw [List.append_nil]; exact h.leads)
  rwa [List.append_nil] at this

theorem Relocated.directory_target (h : Relocated s d t u) : u.get? d = some .directory := by
  have := h.site []
  rwa [List.append_nil, List.append_nil, h.directory] at this

variable (hb : Path.Beside dir a b)
  (h : Relocated (dir.child a).names (dir.child b).names t u)
  (hr : ∀ n ∈ r, Path.IsProperName n ∧ n ≠ "..")

include hb h hr

theorem Relocated.locate {k : Loc} (ht : t.locate cwd ((dir.child a).below r) = .ok k) :
    k = (dir.child a).names ++ r ∧
      u.locate cwd ((dir.child b).below r) = .ok ((dir.child b).names ++ r) := by
  obtain ⟨hfits, hleads, rfl⟩ := (locate_eq_ok (Path.isPlain_below hb.plain_source hr)).mp ht
  exact ⟨rfl, (locate_eq_ok (Path.isPlain_below hb.plain_target hr)).mpr
    ⟨hb.fits hfits, h.leads_below hleads, rfl⟩⟩

theorem Relocated.makeDirectories
    (ht : t.makeDirectories cwd (fun _ => true) ((dir.child a).below r) = .ok t') :
    ∃ u', u.makeDirectories cwd (fun _ => true) ((dir.child b).below r) = .ok u' ∧
      Relocated (dir.child a).names (dir.child b).names t' u' := by
  obtain ⟨hfits, hmade⟩ := made_of_makeDirectories (Path.isPlain_below hb.plain_source hr) ht
  have hfree : u.Free ((dir.child b).below r).names := h.free_below hmade.free
  obtain ⟨u', hu, hmade'⟩ := exists_makeDirectories cwd
    (Path.isPlain_below hb.plain_target hr) (hb.fits hfits) hfree
  have hleads : u.Leads (dir.child b).names := h.leads_target
  refine ⟨u', hu, h.change (incomparable_siblings hb.ne) hmade.top hmade'.top ?_ (fun r' => ?_)
    (fun q hq => hmade.get?_outside h.leads hq) fun q hq => hmade'.get?_outside hleads hq⟩
  · rw [hmade.get?, Path.names_below, if_pos (List.prefix_append _ r)]
  · rw [hmade.get?, hmade'.get?, h.site]
    simp only [Path.names_below, List.prefix_append_right_inj]

omit hb h hr

/-- A name of a file that leads on from a directory, and not back out of it. -/
def Confined (name : String) : Prop :=
  (Path.ofString name).isAbsolute = false ∧ ".." ∉ (Path.ofString name).names

theorem div_of_confined (p : Path) (hname : Confined name) :
    p / name = p.below (Path.ofString name).names := by
  show p.append (Path.ofString name) = _
  rw [Path.append, hname.1]
  rfl

theorem proper_of_confined (hname : Confined name) :
    ∀ n ∈ (Path.ofString name).names, Path.IsProperName n ∧ n ≠ ".." :=
  fun n hn => ⟨Path.isProper_ofString name n hn, fun he => hname.2 (he ▸ hn)⟩

theorem install_file_eq_ok {p : Path} {f : File} : t.install cwd p (.file f) = .ok t' ↔
    ∃ v k, t.makeDirectories cwd (fun _ => true) p.parent = .ok v ∧ v.locate cwd p = .ok k ∧
      v.get? k ≠ some .directory ∧ t' = v.set k (.file f) := by
  rw [install]
  cases hv : t.makeDirectories cwd (fun _ => true) p.parent with
  | error e => simp [bind, Except.bind]
  | ok v =>
    simp only [bind, Except.bind]
    cases hk : v.locate cwd p with
    | error e => simp [hk, Except.mapError]
    | ok k =>
      have hwrite : (v.writeFile k f).mapError (·, p, v) = .ok t' ↔ v.writeFile k f = .ok t' := by
        cases v.writeFile k f <;> simp [Except.mapError]
      simp only [hwrite, writeFile_eq_ok]
      simp [hk]

theorem Relocated.install (hb : Path.Beside dir a b)
    (h : Relocated (dir.child a).names (dir.child b).names t u) (hname : Confined name)
    (ht : t.install cwd (dir.child a / name) n = .ok t') :
    ∃ u', u.install cwd (dir.child b / name) n = .ok u' ∧
      Relocated (dir.child a).names (dir.child b).names t' u' := by
  have hr := proper_of_confined hname
  rw [div_of_confined _ hname] at ht ⊢
  generalize (Path.ofString name).names = r at hr ht
  cases n with
  | directory => exact h.makeDirectories hb hr ht
  | file f =>
    obtain ⟨v, k, hv, hk, hfile, rfl⟩ := install_file_eq_ok.mp ht
    rcases List.eq_nil_or_concat r with rfl | ⟨r, last, rfl⟩
    · -- A file without a name of its own would be the directory itself.
      have hmade := (made_of_makeDirectories (Path.isPlain_below hb.plain_source hr).parent hv).2
      have hplace := (locate_eq_ok (Path.isPlain_below hb.plain_source hr)).mp hk
      have hdir : v.get? k = some .directory := by
        rw [hplace.2.2, hmade.get?]
        split
        · rfl
        · simpa [Path.below] using h.directory
      exact absurd hdir hfile
    · rw [List.concat_eq_append] at hr hk hv ⊢
      have hparent : ∀ p : Path, (p.below (r ++ [last])).parent = p.below r := fun p => by
        simp [Path.below, Path.parent]
      rw [hparent] at hv
      have hr' : ∀ n ∈ r, Path.IsProperName n ∧ n ≠ ".." := fun n hn => hr n (by simp [hn])
      obtain ⟨w, hw, hvw⟩ := h.makeDirectories hb hr' hv
      obtain ⟨rfl, hplace⟩ := hvw.locate hb hr hk
      refine ⟨_, install_file_eq_ok.mpr ⟨w, _, by rwa [hparent], hplace, ?_, rfl⟩,
        hvw.set (incomparable_siblings hb.ne) (by simp)⟩
      rwa [hvw.site]

/-- Files that are put below the first directory can be put below the second one. -/
theorem Relocated.installAll (hb : Path.Beside dir a b)
    (h : Relocated (dir.child a).names (dir.child b).names t u)
    (hfiles : ∀ e ∈ files, Confined e.1)
    (ht : Tree.installAll cwd (dir.child a) files t = .ok t') :
    ∃ u', Tree.installAll cwd (dir.child b) files u = .ok u' ∧
      Relocated (dir.child a).names (dir.child b).names t' u' := by
  induction files generalizing t u with
  | nil =>
    cases ht
    exact ⟨u, rfl, h⟩
  | cons e files ih =>
    obtain ⟨name, n⟩ := e
    obtain ⟨hname, hrest⟩ := List.forall_mem_cons.mp hfiles
    rw [Tree.installAll] at ht
    cases hv : t.install cwd (dir.child a / name) n with
    | error e => simp [hv, bind, Except.bind] at ht
    | ok v =>
      simp only [hv, bind, Except.bind] at ht
      obtain ⟨w, hw, hvw⟩ := h.install hb hname hv
      obtain ⟨u', hu', hrel⟩ := ih hvw hrest ht
      refine ⟨u', ?_, hrel⟩
      rw [Tree.installAll]
      simp only [hw, bind, Except.bind, hu']

end Tree

end DeckPress
