import DeckPress.Proofs.Site.Stages
import DeckPress.Proofs.Tree.Relocation

/-!
# Finishing the same site at another place

If a site can be finished at one place, the same site at a place beside it can be finished too, and
what is left is again the same site at the two places.  `Host.Relocated` relates the two hosts;
`promote_relocated`, `pages_relocated`, `relinkPages_relocated` and `finish_relocated` follow the
stages.
-/

namespace DeckPress

/-- The host `g` has at the entry `b` of a directory the site that `h` has at the entry `a`, and the
site of `h` can be worked on. -/
structure Host.Relocated (dir : Path) (a b : String) (h g : Host) : Prop where
  tree : Tree.Relocated (dir.child a).names (dir.child b).names h.tree g.tree
  fits : (dir.child a).Fits
  hasNul : (dir.child a).hasNul = false
  cwd : g.cwd = h.cwd
  stamp : g.stamp = h.stamp
  faults : h.faults = []
  faults_target : g.faults = []

namespace Path

variable {p dir : Path} {a b name : String}

theorem hasNul_child : (p.child name).hasNul = (p.hasNul || name.toList.contains '\x00') := by
  simp [hasNul, List.any_append]

theorem Beside.hasNul (hb : Beside dir a b) (h : (dir.child a).hasNul = false) :
    (dir.child b).hasNul = false := by
  rw [hasNul_child, Bool.or_eq_false_iff] at h ⊢
  refine ⟨h.1, ?_⟩
  have hnot : '\x00' ∉ a.toList := by simpa using h.2
  simpa using mt hb.nul hnot

end Path

namespace Site

open Act

variable {h h' g : Host} {dir : Path} {a b name readme : String} {names : List String} {q : Loc}

/-- The two places of the site are found. -/
theorem locate_of_relocated (hb : Path.Beside dir a b) (hR : Host.Relocated dir a b h g) :
    h.locate (dir.child a) = .ok (dir.child a).names ∧
      g.locate (dir.child b) = .ok (dir.child b).names := by
  exact ⟨(Tree.locate_eq_ok hb.plain_source).mpr ⟨hR.fits, hR.tree.leads, rfl⟩,
    (Tree.locate_eq_ok hb.plain_target).mpr ⟨hb.fits_target hR.fits, hR.tree.leads_target, rfl⟩⟩

/-- An entry of the one directory is reached if the same entry of the other one is. -/
theorem reaches_of_relocated (hb : Path.Beside dir a b) (hR : Host.Relocated dir a b h g)
    (h0 : name ≠ "") (hup : name ≠ "..") (hreach : h.Reaches ((dir.child a).child name) q) :
    q = (dir.child a).names ++ [name] ∧
      g.Reaches ((dir.child b).child name) ((dir.child b).names ++ [name]) := by
  obtain ⟨hl, hl'⟩ := locate_of_relocated hb hR
  obtain ⟨hnul, k, hk, -, hsize, hname, rfl⟩ := (reaches_child_iff h0 hup).mp hreach
  rw [hl] at hk
  cases hk
  have hnul' : ((dir.child b).child name).hasNul = false := by
    rw [Path.hasNul_child, Bool.or_eq_false_iff] at hnul ⊢
    exact ⟨hb.hasNul hnul.1, hnul.2⟩
  exact ⟨rfl, (reaches_child_iff h0 hup).mpr ⟨hnul', _, hl', hR.tree.directory_target,
    (hb.size_below [name]).trans hsize, hname, rfl⟩⟩

/-- The two hosts stay related when their trees change alike. -/
theorem relocated_commit {t u : Tree} (hR : Host.Relocated dir a b h g)
    (ht : Tree.Relocated (dir.child a).names (dir.child b).names t u) :
    Host.Relocated dir a b (h.commit t) (g.commit u) :=
  ⟨ht, hR.fits, hR.hasNul, hR.cwd, hR.stamp, hR.faults, hR.faults_target⟩

theorem promote_relocated (hb : Path.Beside dir a b) (hR : Host.Relocated dir a b h g)
    (hslash : '/' ∉ readme.toList) {index : Path}
    (hrun : (promote (dir.child a) readme).on h = (.ok index, h')) :
    ∃ g', (promote (dir.child b) readme).on g = (.ok ((dir.child b).child indexName), g') ∧
      Host.Relocated dir a b h' g' := by
  obtain ⟨rfl, hne, k, fr, fi, hr, hi, hfr, hfi, rfl⟩ := (promote_eq_ok hR.faults hslash).mp hrun
  have hr0 := pageName_ne (s := "") (by decide) readme
  have hr2 := pageName_ne (s := "..") (by decide) readme
  obtain ⟨he, hr'⟩ := reaches_of_relocated hb hR hr0 hr2 hr
  obtain ⟨-, hi'⟩ := reaches_of_relocated hb hR (by decide) (by decide) hi
  obtain ⟨rfl, -⟩ := List.append_inj' he rfl
  have hsd := Tree.incomparable_siblings (q := dir.names) hb.ne
  have herase := hR.tree.erase hsd (r := [indexName]) (by simp)
  have hmove := herase.move hsd (x := [pageName readme]) (y := [indexName]) (by simp) (by simp)
  refine ⟨_, (promote_eq_ok hR.faults_target hslash).mpr
      ⟨rfl, hne, _, fr, fi, hr', hi', ?_, ?_, rfl⟩,
    relocated_commit (relocated_commit hR herase) hmove⟩
  · rw [hR.tree.site, hfr]
  · rw [hR.tree.site, hfi]

/-- What can be asked of an entry of the one directory has the same answer for the other one. -/
theorem look_of_relocated (hb : Path.Beside dir a b) (hR : Host.Relocated dir a b h g)
    (h0 : name ≠ "") (hup : name ≠ "..")
    (hlook : (h.look ((dir.child a).child name)).isOk = true) :
    g.look ((dir.child b).child name) = h.look ((dir.child a).child name) := by
  have hnul : ((dir.child b).child name).hasNul = ((dir.child a).child name).hasNul := by
    rw [Path.hasNul_child, hb.hasNul hR.hasNul, Path.hasNul_child, hR.hasNul]
  cases hn : ((dir.child a).child name).hasNul with
  | true => rw [look_of_hasNul hn, look_of_hasNul (hnul.trans hn)]
  | false =>
    rw [look_of_free (Host.waiting?_of_faults hR.faults) hn] at hlook
    rw [look_of_free (Host.waiting?_of_faults hR.faults_target) (hnul.trans hn),
      look_of_free (Host.waiting?_of_faults hR.faults) hn]
    cases hl : h.locate ((dir.child a).child name) with
    | ok q =>
      obtain ⟨rfl, hreach⟩ := reaches_of_relocated hb hR h0 hup ⟨hn, hl⟩
      have hsite := hR.tree.site [name]
      simp only [hreach.locate, hsite]
    | error e =>
      have hdir := hR.tree.directory
      rw [Tree.locate_child_eq_error (locate_of_relocated hb hR).1 hdir hl] at hl
      simp [hl, Except.isOk, Except.toBool] at hlook

theorem pages_relocated (hb : Path.Beside dir a b) (hR : Host.Relocated dir a b h g)
    {ps : List Path} (hrun : (pages (dir.child a)).on h = (.ok ps, h')) :
    h' = h ∧ ∃ names : List String, (∀ name ∈ names, name ≠ "" ∧ name ≠ "..") ∧
      ps = names.map (dir.child a).child ∧
      (pages (dir.child b)).on g = (.ok (names.map (dir.child b).child), g) := by
  obtain ⟨rfl, -, k, hk, -, hlook, rfl⟩ := (pages_eq_ok hR.faults).mp hrun
  obtain ⟨hl, hl'⟩ := locate_of_relocated hb hR
  rw [hl] at hk
  cases hk
  have hnames : g.tree.names (dir.child b).names = h'.tree.names (dir.child a).names :=
    Tree.names_congr fun name => by rw [hR.tree.site]
  have hpage : ∀ name ∈ (h'.tree.names (dir.child a).names).filter isPageName,
      name ≠ "" ∧ name ≠ ".." := fun name hn => names_of_isPageName (List.mem_filter.mp hn).2
  have hsame : ∀ name ∈ (h'.tree.names (dir.child a).names).filter isPageName,
      g.look ((dir.child b).child name) = h'.look ((dir.child a).child name) := fun name hn =>
    look_of_relocated hb hR (hpage name hn).1 (hpage name hn).2 (hlook name hn)
  have hsees : ∀ name ∈ (h'.tree.names (dir.child a).names).filter isPageName,
      (g.seesFile ∘ (dir.child b).child) name = (h'.seesFile ∘ (dir.child a).child) name :=
    fun name hn => by
      simp only [Function.comp_apply, Host.seesFile, hsame name hn]
  refine ⟨rfl, ((h'.tree.names (dir.child a).names).filter isPageName).filter
    (h'.seesFile ∘ (dir.child a).child), fun name hn => hpage name (List.mem_filter.mp hn).1,
    List.filter_map, ?_⟩
  refine (pages_eq_ok hR.faults_target).mpr ⟨rfl, hb.hasNul hR.hasNul, _, hl',
    hR.tree.directory_target, ?_, ?_⟩
  · rw [hnames]
    intro name hn
    rw [hsame name hn]
    exact hlook name hn
  · rw [hnames, List.filter_map, List.filter_congr hsees]

theorem relinkPages_relocated (hb : Path.Beside dir a b) (hR : Host.Relocated dir a b h g)
    {rules : List Links.Rule} (hnames : ∀ name ∈ names, name ≠ "" ∧ name ≠ "..") {u : Unit}
    (hrun : (relinkPages rules (names.map (dir.child a).child)).on h = (.ok u, h')) :
    ∃ g', (relinkPages rules (names.map (dir.child b).child)).on g = (.ok u, g') ∧
      Host.Relocated dir a b h' g' := by
  induction names generalizing h g with
  | nil =>
    obtain ⟨rfl, rfl⟩ := on_pure_eq_ok.mp hrun
    exact ⟨g, on_pure_eq_ok.mpr ⟨rfl, rfl⟩, hR⟩
  | cons name names ih =>
    obtain ⟨hname, hrest⟩ := List.forall_mem_cons.mp hnames
    rw [List.map_cons, relinkPages, on_bind_eq_ok] at hrun
    obtain ⟨x, h₁, hstep, hrun⟩ := hrun
    obtain ⟨q, f, text, hreach, hfile, htext, hx, rfl⟩ := (relinkPage_eq_ok hR.faults).mp hstep
    obtain ⟨rfl, hreach'⟩ := reaches_of_relocated hb hR hname.1 hname.2 hreach
    have hset := hR.tree.set (Tree.incomparable_siblings (q := dir.names) hb.ne) (r := [name])
      (n := .file (relinkedFile rules f text h.stamp)) (by simp)
    have hstep' := (relinkPage_eq_ok hR.faults_target).mpr
      ⟨_, f, text, hreach', by rw [hR.tree.site, hfile], htext, hx, rfl⟩
    rw [hR.stamp] at hstep'
    have hR₁ : Host.Relocated dir a b
        { h.commit (h.tree.set ((dir.child a).names ++ [name])
            (.file (relinkedFile rules f text h.stamp))) with stamp := h.stamp + 1 }
        { g.commit (g.tree.set ((dir.child b).names ++ [name])
            (.file (relinkedFile rules f text h.stamp))) with stamp := h.stamp + 1 } :=
      ⟨hset, hR.fits, hR.hasNul, hR.cwd, rfl, hR.faults, hR.faults_target⟩
    obtain ⟨g', hrun', hR'⟩ := ih hR₁ hrest hrun
    refine ⟨g', ?_, hR'⟩
    rw [List.map_cons, relinkPages, on_bind_eq_ok]
    exact ⟨x, _, hstep', hrun'⟩

/-- **A site that can be finished at one place can be finished at the other, to the same end.** -/
theorem finish_relocated (hb : Path.Beside dir a b) (hR : Host.Relocated dir a b h g)
    (hslash : '/' ∉ readme.toList) {r : Result}
    (hrun : (finish (dir.child a) readme).on h = (.ok r, h')) :
    ∃ r' g', (finish (dir.child b) readme).on g = (.ok r', g') ∧ Host.Relocated dir a b h' g' := by
  unfold finish at hrun ⊢
  simp only [on_bind_eq_ok, on_pure_eq_ok] at hrun ⊢
  obtain ⟨index, h₁, hpromote, ps, h₂, hpages, u, h₃, hrelink, rfl, rfl⟩ := hrun
  obtain ⟨g₁, hpromote', hR₁⟩ := promote_relocated hb hR hslash hpromote
  obtain ⟨rfl, names, hnames, rfl, hpages'⟩ := pages_relocated hb hR₁ hpages
  obtain ⟨g₂, hrelink', hR₂⟩ := relinkPages_relocated hb hR₁ hnames hrelink
  exact ⟨_, g₂, ⟨_, g₁, hpromote', _, g₁, hpages', u, g₂, hrelink', rfl, rfl⟩, hR₂⟩

end Site

end DeckPress
