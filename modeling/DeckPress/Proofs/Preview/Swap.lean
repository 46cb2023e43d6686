import DeckPress.Preview.Rebuild
import DeckPress.Proofs.Site.Relocation

/-!
# Clearing and swapping the directories of a preview

* `placed_of_ofSettings` — the next site is made beside the finished one.
* `prepare_effect` — the place of the next site is cleared, and what is missing above it is made.
* `relocated_of_made` — the directory that is then made there is the one that would be made at the
  place of the finished site, if nothing were at the two places.
* `activate_relocated` — putting the next site in place leaves the tree that has it there already.
-/

namespace DeckPress

/-- The hosts agree in what operations on files depend on, but for the files. -/
structure Host.Alike (h g : Host) : Prop where
  cwd : g.cwd = h.cwd
  faults : g.faults = h.faults
  stamp : g.stamp = h.stamp
  program : g.program = h.program

theorem Host.Alike.refl (h : Host) : h.Alike h := ⟨rfl, rfl, rfl, rfl⟩

theorem Host.Alike.symm {h g : Host} (hg : h.Alike g) : g.Alike h :=
  ⟨hg.cwd.symm, hg.faults.symm, hg.stamp.symm, hg.program.symm⟩

theorem Host.Alike.commit {h g : Host} (hg : h.Alike g) (t : Tree) : h.Alike (g.commit t) :=
  ⟨hg.cwd, hg.faults, hg.stamp, hg.program⟩

namespace Preview

open Act

variable {root : Path} {settings : Settings} {number? : Option Int} {p : Preview} {h h' g : Host}
  {dir : Path} {a b : String} {k s d : Loc} {t t' u v w : Tree}

/-! ## The two directories -/

/-- The parts of a preview are what the settings say. -/
theorem exists_of_ofSettings (hp : ofSettings root settings number? = .ok p) :
    ∃ o c th stagingDir portNumber, settings.text Settings.outputDir = .ok o ∧
      settings.text Settings.contentDir = .ok c ∧ settings.text Settings.theme = .ok th ∧
      (root / o).withName? ((root / o).name ++ stagingSuffix) = some stagingDir ∧
      p = { root, settings, outputDir := root / o, contentDir := root / c, theme := root / th,
            stagingDir, portNumber } := by
  simp only [ofSettings, Tree.bind_eq_ok] at hp
  obtain ⟨o, ho, c, hc, th, hth, hp⟩ := hp
  split at hp
  · cases hp
  · rename_i stagingDir hstaging
    obtain ⟨n, -, ⟨⟩⟩ := Tree.bind_eq_ok.mp hp
    exact ⟨o, c, th, stagingDir, n, ho, hc, hth, hstaging, rfl⟩

theorem ofSettings_eq_ok (hp : ofSettings root settings number? = .ok p) :
    p.root = root ∧ p.settings = settings ∧
      (∃ o, settings.text Settings.outputDir = .ok o ∧ p.outputDir = root / o) ∧
      p.outputDir.names ≠ [] ∧
      p.stagingDir = p.outputDir.parent.child (p.outputDir.name ++ stagingSuffix) := by
  obtain ⟨o, c, th, stagingDir, n, ho, -, -, hs, rfl⟩ := exists_of_ofSettings hp
  rw [Path.withName?] at hs
  split at hs
  · cases hs
  · cases hs
    exact ⟨rfl, rfl, ⟨o, ho, rfl⟩, ‹_›, rfl⟩

/-- The two places of the preview are entries of one directory. -/
structure Placed (p : Preview) (dir : Path) (a b : String) : Prop where
  output : p.outputDir = dir.child b
  staging : p.stagingDir = dir.child a
  beside : Path.Beside dir a b

/-- The next site is made beside the finished one, under a longer name. -/
theorem placed_of_ofSettings (hp : ofSettings root settings number? = .ok p)
    (habs : root.isAbsolute = true) (hproper : root.IsProper) (hup : ".." ∉ p.outputDir.names) :
    p.Placed p.outputDir.parent (p.outputDir.name ++ stagingSuffix) p.outputDir.name := by
  obtain ⟨-, -, ⟨o, -, ho⟩, hne, hstaging⟩ := ofSettings_eq_ok hp
  have hplain : p.outputDir.IsPlain :=
    ⟨ho ▸ Path.isAbsolute_div habs o, ho ▸ Path.isProper_div hproper o, hup⟩
  obtain ⟨k, name, hnames⟩ := (List.eq_nil_or_concat p.outputDir.names).resolve_left hne
  rw [List.concat_eq_append] at hnames
  have hname : p.outputDir.name = name := by simp [Path.name, hnames]
  have hmem : name ∈ p.outputDir.names := by simp [hnames]
  have hproperName := hplain.proper name hmem
  have hupName : name ≠ ".." := fun he => hup (he ▸ hmem)
  have hsuffix : stagingSuffix.toList.length = 8 := by decide
  have hlong : ∀ x : String, x.toList.length < 8 → name ++ stagingSuffix ≠ x := by
    rintro x hx rfl
    rw [String.toList_append, List.length_append, hsuffix] at hx
    omega
  refine ⟨?_, hstaging, hplain.parent, ?_, ?_, ?_, ?_, ?_⟩
  · rw [hname, Path.child_of_names hnames]
  · rw [hname]
    refine ⟨⟨hlong "" (by decide), hlong "." (by decide), ?_⟩, hlong ".." (by decide)⟩
    rw [String.toList_append, List.mem_append, not_or]
    exact ⟨hproperName.2.2, by decide⟩
  · rw [hname]
    exact ⟨hproperName, hupName⟩
  · rw [hname]
    intro he
    have := congrArg (fun x : String => x.toList.length) he
    simp only [String.toList_append, List.length_append, hsuffix] at this
    omega
  · rw [hname, String.utf8ByteSize_append]
    omega
  · rw [String.toList_append, List.mem_append]
    exact .inl

/-! ## Clearing the place of the next site -/

/-- Nothing is at or below a place where nothing is seen. -/
theorem none_of_look_none (hf : h.faults = []) (hw : h.tree.Rooted) {q : Path} (hq : q.IsPlain)
    (hfits : q.Fits) (hnul : q.hasNul = false) (hlook : h.look q = .ok none) (r : Loc) :
    h.tree.get? (q.names ++ r) = none := by
  rw [← Option.not_isSome_iff_eq_none]
  intro hsome
  have hlocate : h.locate q = .ok q.names :=
    (Tree.locate_eq_ok hq).mpr ⟨hfits, hw.leads hsome, rfl⟩
  rw [look_of_free (Host.waiting?_of_faults hf) hnul, hlocate] at hlook
  have hnone : h.tree.get? q.names = none := by simpa using hlook
  by_cases hr : r = []
  · rw [hr, List.append_nil, hnone] at hsome
    cases hsome
  · rw [hw.none_below (by simp [hnone]) hr] at hsome
    cases hsome

/-- The tree `t` without what is at and below a place. -/
structure Cleared (k : Loc) (t u : Tree) : Prop where
  top : u.nodes[([] : Loc)]? = t.nodes[([] : Loc)]?
  get? : ∀ q, u.get? q = if k <+: q then none else t.get? q

theorem cleared_eraseFrom {k : Loc} (hk : k ≠ []) (t : Tree) : Cleared k t (t.eraseFrom k) :=
  ⟨Tree.nodes_eraseFrom_nil hk, fun _ => Tree.get?_eraseFrom hk⟩

theorem cleared_of_none {k : Loc} (h : ∀ r, t.get? (k ++ r) = none) : Cleared k t t := by
  refine ⟨rfl, fun q => ?_⟩
  split
  · rename_i hq
    obtain ⟨r, rfl⟩ := hq
    exact h r
  · rfl

/-- What is at a path, if anything is seen there, is removed with all that is in it. -/
theorem clear_effect (hf : h.faults = []) {q : Path} (hq : q.IsPlain) (hne : q.names ≠ [])
    {α : Type} {rest : Act α} {x : α}
    (hrun : (isThere q >>= fun b =>
      if b = true then removeTree q >>= fun _ => rest else rest).on h = (.ok x, h')) :
    ∃ h₁, h.Alike h₁ ∧ rest.on h₁ = (.ok x, h') ∧
      ((h.look q = .ok none → ∀ r, h.tree.get? (q.names ++ r) = none) →
        Cleared q.names h.tree h₁.tree) := by
  obtain ⟨seen, _, hseen, hrun⟩ := on_bind_eq_ok.mp hrun
  obtain ⟨rfl, n?, hlook, rfl⟩ := on_isThere_eq_ok.mp hseen
  cases n? with
  | none => exact ⟨_, .refl _, hrun, fun hnone => cleared_of_none (hnone hlook)⟩
  | some n =>
    obtain ⟨_, _, hremove, hrun⟩ := on_bind_eq_ok.mp hrun
    obtain ⟨-, t, ht, rfl⟩ := (on_removeTree_eq_ok hf).mp hremove
    obtain ⟨k, hk, -, -, rfl⟩ := Tree.removeTree_eq_ok.mp ht
    obtain ⟨-, -, rfl⟩ := (Tree.locate_eq_ok hq).mp hk
    exact ⟨_, (Host.Alike.refl _).commit _, hrun, fun _ => cleared_eraseFrom hne _⟩

/-- The place of the next site is cleared, and the directories above it are there.  A place that no
path can have is seen to be free. -/
theorem prepare_effect (hf : h.faults = []) (hw : h.tree.Rooted) (hq : p.stagingDir.IsPlain)
    (hne : p.stagingDir.names ≠ []) {q : Path} (hrun : (prepare p).on h = (.ok q, h')) :
    q = p.stagingDir ∧ h.Alike h' ∧ (p.stagingDir.Fits → p.stagingDir.hasNul = false →
      ∃ t, Cleared p.stagingDir.names h.tree t ∧
        Tree.Made t h'.tree p.stagingDir.parent.names) := by
  obtain ⟨h₁, halike, hrun, hclear⟩ := clear_effect hf hq hne hrun
  obtain ⟨_, h₂, hmake, hrun⟩ := on_bind_eq_ok.mp hrun
  obtain ⟨rfl, rfl⟩ := on_pure_eq_ok.mp hrun
  obtain ⟨-, v, hv, rfl⟩ := on_makeDirectories_eq_ok.mp hmake
  exact ⟨rfl, halike.commit v, fun hfits hnul =>
    ⟨h₁.tree, hclear (none_of_look_none hf hw hq hfits hnul),
      (Tree.made_of_makeDirectories hq.parent hv).2⟩⟩

/-! ## The directory for the next site, and the one for the site -/

theorem get?_eraseFrom_both (hs : s ≠ []) (hd : d ≠ []) (t : Tree) (q : Loc) :
    ((t.eraseFrom d).eraseFrom s).get? q =
      if s <+: q then none else if d <+: q then none else t.get? q := by
  rw [Tree.get?_eraseFrom hs, Tree.get?_eraseFrom hd]

theorem not_prefix_of_lt {k q : Loc} (h : q.length < k.length) : ¬ k <+: q :=
  fun h1 => absurd h1.length_le (Nat.not_le.mpr h)

/-- With nothing at the two places, the directory for the site can be made. -/
theorem free_of_made (hab : a ≠ b) (hclear : Cleared (k ++ [a]) t u) (hmade : Tree.Made u v k) :
    ((t.eraseFrom (k ++ [b])).eraseFrom (k ++ [a])).Free (k ++ [b]) := by
  intro r hr
  rw [get?_eraseFrom_both (by simp) (by simp)]
  rcases List.prefix_concat_iff.mp hr with rfl | hrk
  · rw [if_neg (Tree.not_prefix_sibling hab), if_pos List.prefix_rfl]
    exact .inl rfl
  · have hshort : ∀ x : String, ¬ k ++ [x] <+: r := fun x =>
      not_prefix_of_lt (by simpa using Nat.lt_succ_of_le hrk.length_le)
    have hfree := hmade.free r hrk
    rw [hclear.get?, if_neg (hshort a)] at hfree
    rw [if_neg (hshort a), if_neg (hshort b)]
    exact hfree

/-- What is away from the cleared place and from the way to it stays as it was. -/
theorem get?_of_made (hclear : Cleared s t u) (hmade : Tree.Made u v k) {q : Loc} (hqk : ¬ q <+: k)
    (hqs : ¬ s <+: q) : v.get? q = t.get? q := by
  rw [hmade.get?, if_neg hqk, hclear.get?, if_neg hqs]

/-- A directory is made for the cleared place, and nothing is at that place or below it. -/
theorem gone_of_made (hclear : Cleared (k ++ [a]) t u) (hmade : Tree.Made u v k) {q : Loc}
    (hq : k ++ [a] <+: q) : v.get? q = none := by
  obtain ⟨r, rfl⟩ := hq
  rw [hmade.get?, if_neg (not_prefix_of_lt (by simp)), hclear.get?,
    if_pos (List.prefix_append _ r)]

/-- The directory that is made at the cleared place holds nothing else. -/
theorem get?_of_made_below (hclear : Cleared (k ++ [a]) t u) (hmade : Tree.Made u v k)
    (hsource : Tree.Made v w (k ++ [a])) (r : Loc) :
    w.get? (k ++ [a] ++ r) = if r = [] then some .directory else none := by
  by_cases hr : r = []
  · rw [if_pos hr, hr, List.append_nil, hsource.get?, if_pos List.prefix_rfl]
  · have hlong : ¬ k ++ [a] ++ r <+: k ++ [a] := by simpa using hr
    rw [if_neg hr, hsource.get?, if_neg hlong,
      gone_of_made hclear hmade (List.prefix_append _ r)]

/-- The directory for the site, made where nothing was at the two places, holds nothing else. -/
theorem get?_of_erased_below
    (htarget : Tree.Made ((t.eraseFrom (k ++ [b])).eraseFrom (k ++ [a])) t' (k ++ [b])) (r : Loc) :
    t'.get? (k ++ [b] ++ r) = if r = [] then some .directory else none := by
  by_cases hr : r = []
  · rw [if_pos hr, hr, List.append_nil, htarget.get?, if_pos List.prefix_rfl]
  · have hlong : ¬ k ++ [b] ++ r <+: k ++ [b] := by simpa using hr
    rw [if_neg hr, htarget.get?, if_neg hlong, get?_eraseFrom_both (by simp) (by simp),
      if_pos (List.prefix_append (k ++ [b]) r), ite_self]

/-- The directory that is made at the cleared place of the next site is the one that is made at the
place of the site, if nothing is at the two places. -/
theorem relocated_of_made (hab : a ≠ b) (hw : t.Rooted) (hclear : Cleared (k ++ [a]) t u)
    (hmade : Tree.Made u v k) (hsource : Tree.Made v w (k ++ [a]))
    (htarget : Tree.Made ((t.eraseFrom (k ++ [b])).eraseFrom (k ++ [a])) t' (k ++ [b])) :
    Tree.Relocated (k ++ [a]) (k ++ [b]) w t' := by
  have ha : k ++ [a] ≠ [] := by simp
  have hb : k ++ [b] ≠ [] := by simp
  have hsd := Tree.incomparable_siblings (q := k) hab
  -- What was at the place of the site is still there while the next site is made.
  have hold : ∀ r, w.get? (k ++ [b] ++ r) = t.get? (k ++ [b] ++ r) := by
    intro r
    have hnot : ¬ k ++ [b] ++ r <+: k ++ [a] := fun h1 =>
      hsd.2 ((List.prefix_append _ r).trans h1)
    rw [hsource.get?, if_neg hnot, get?_of_made hclear hmade (not_prefix_of_lt (by simp))
      (hsd.symm.not_prefix_append r)]
  refine ⟨?_, fun r hr _ => by rw [hsource.get?, if_pos hr],
    by rw [hsource.get?, if_pos List.prefix_rfl], fun r => ?_, fun r => ?_, fun r hr hsome => ?_,
    fun q hqa hqb => ?_⟩
  · rw [htarget.top, Tree.nodes_eraseFrom_nil ha, Tree.nodes_eraseFrom_nil hb, hsource.top,
      hmade.top, hclear.top]
  · rw [get?_of_erased_below htarget, get?_of_made_below hclear hmade hsource]
  · have hnot : ¬ k ++ [a] ++ r <+: k ++ [b] := fun h1 =>
      hsd.1 ((List.prefix_append _ r).trans h1)
    rw [htarget.get?, if_neg hnot, get?_eraseFrom_both ha hb, if_pos (List.prefix_append _ r)]
  · have hself := hold []
    rw [List.append_nil] at hself
    rw [hold] at hsome
    rw [hself]
    exact hw.directory_of_append hr hsome
  · have hiff : ∀ x : String, ¬ k ++ [x] <+: q → (q <+: k ++ [x] ↔ q <+: k) := fun x hqx =>
      ⟨fun h1 => (List.prefix_concat_iff.mp h1).resolve_left fun he => hqx (he ▸ List.prefix_rfl),
        fun h1 => h1.trans (List.prefix_append k [x])⟩
    rw [htarget.get?, hsource.get?, get?_eraseFrom_both ha hb, if_neg hqa, if_neg hqb]
    simp only [hiff a hqa, hiff b hqb]
    by_cases hqk : q <+: k
    · rw [if_pos hqk, if_pos hqk]
    · rw [if_neg hqk, if_neg hqk, get?_of_made hclear hmade hqk hqa]

/-! ## Putting the next site in place -/

/-- The way to the entry `a` of a directory is the way to its entry `b`. -/
theorem leads_sibling (h : Tree.Relocated (dir.child a).names (dir.child b).names t u) :
    t.Leads (dir.child b).names :=
  Tree.leads_concat.mpr (Tree.leads_concat.mp h.leads)

/-- Nothing is at or below the place of the site if nothing is seen there. -/
theorem none_of_relocated (hb : Path.Beside dir a b) (hR : Host.Relocated dir a b h g)
    (hlook : h.look (dir.child b) = .ok none) (r : Loc) :
    h.tree.get? ((dir.child b).names ++ r) = none := by
  have hlocate : h.locate (dir.child b) = .ok (dir.child b).names :=
    (Tree.locate_eq_ok hb.plain_target).mpr ⟨hb.fits_target hR.fits, leads_sibling hR.tree, rfl⟩
  rw [look_of_free (Host.waiting?_of_faults hR.faults) (hb.hasNul hR.hasNul), hlocate] at hlook
  have hnone : h.tree.get? (dir.child b).names = none := by simpa using hlook
  by_cases hr : r = []
  · rw [hr, List.append_nil, hnone]
  · rw [← Option.not_isSome_iff_eq_none]
    intro hsome
    have := hR.tree.rooted r hr hsome
    rw [hnone] at this
    cases this

/-- What is moved to the cleared place of the site leaves the tree that has the site there. -/
theorem move_relocated (hsd : Tree.Incomparable s d) (h : Tree.Relocated s d t u)
    (hv : Cleared d t v) : v.move s d = u := by
  have hs := hsd.ne_nil
  have hd := hsd.symm.ne_nil
  refine Tree.ext_get? (by rw [Tree.nodes_move_nil hs hd, hv.top, h.top]) fun q => ?_
  by_cases hdq : d <+: q
  · obtain ⟨r, rfl⟩ := hdq
    rw [Tree.get?_move_append hs hd, hv.get?, if_neg (hsd.not_prefix_append r), h.site]
  · rw [Tree.get?_move_elsewhere hs hd hdq]
    by_cases hsq : s <+: q
    · obtain ⟨r, rfl⟩ := hsq
      rw [if_pos (List.prefix_append s r), h.gone]
    · rw [if_neg hsq, hv.get?, if_neg hdq, h.rest q hsq hdq]

/-- **Putting the next site in place leaves the tree in which the site was made at its place.** -/
theorem activate_relocated (hb : Path.Beside dir a b) (hR : Host.Relocated dir a b h g)
    (hout : p.outputDir = dir.child b) {x : Unit}
    (hrun : (activate p (dir.child a)).on h = (.ok x, h')) : h'.tree = g.tree := by
  have hsd : Tree.Incomparable (dir.child a).names (dir.child b).names :=
    Tree.incomparable_siblings hb.ne
  rw [activate, hout] at hrun
  obtain ⟨h₁, halike, hrun, hcleared⟩ := clear_effect hR.faults hb.plain_target hsd.symm.ne_nil hrun
  have hclear := hcleared (none_of_relocated hb hR)
  obtain ⟨-, -, v, hv, rfl⟩ := (on_replace_eq_ok (halike.faults.trans hR.faults)).mp hrun
  obtain ⟨s, d, hs, hd, -, -, hat⟩ := Tree.rename_eq_ok.mp hv
  obtain ⟨-, -, rfl⟩ := (Tree.locate_eq_ok hb.plain_source).mp hs
  obtain ⟨-, -, rfl⟩ := (Tree.locate_eq_ok hb.plain_target).mp hd
  have hsource : h₁.tree.get? (dir.child a).names = some .directory := by
    rw [hclear.get?, if_neg hsd.2]
    exact hR.tree.directory
  have htarget : h₁.tree.get? (dir.child b).names = none := by
    rw [hclear.get?, if_pos List.prefix_rfl]
  rw [Tree.renameAt_of_none hsource htarget hsd.1 hsd.2] at hat
  show v = g.tree
  rw [hat, move_relocated hsd hR.tree hclear]

end Preview

end DeckPress
