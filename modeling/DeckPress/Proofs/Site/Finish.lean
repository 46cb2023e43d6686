import DeckPress.Proofs.Site.Stages

/-!
# What finishing a site does to the tree

Promotion, listing and relinking work on the same directory.  `finish_effect` states what they come
to together: which places of the tree are other than before, what is there now, and that all else is
as it was.

* `get?_promoted` — the tree after the promotion.
* `pages_of_eq_ok` — the pages that are listed are named by `pageNames`.
* `relinkPages_effect` — the run of the loop over the pages, by induction on their names.
-/

namespace DeckPress.Site

open Act

variable {h h' : Host} {outputDir : Path} {readme name : String} {names : List String} {k q : Loc}
  {t : Tree} {f g fr fi : File} {rules : List Links.Rule}

/-! ## After the promotion -/

/-- The readme page is at the place of the index, its own place is empty, and all else is kept. -/
theorem get?_promoted (hw : t.Rooted) (hne : pageName readme ≠ indexName)
    (hfr : t.get? (k ++ [pageName readme]) = some (.file fr))
    (hfi : t.get? (k ++ [indexName]) = some (.file fi)) :
    (promoted t k readme).get? q =
      if q = k ++ [indexName] then some (.file fr)
      else if q = k ++ [pageName readme] then none else t.get? q := by
  have hi0 : k ++ [indexName] ≠ [] := by simp
  have hs : (t.erase (k ++ [indexName])).get? (k ++ [pageName readme]) = some (.file fr) := by
    rw [Tree.get?_erase hi0, if_neg (by simpa using hne), hfr]
  have hd : (t.erase (k ++ [indexName])).get? (k ++ [indexName]) ≠ some .directory := by
    simp [Tree.get?_erase hi0]
  rw [promoted, (hw.erase_file hfi).get?_move_file hs hd, Tree.get?_erase hi0]
  by_cases hq : q = k ++ [indexName]
  · rw [if_pos hq, if_pos hq]
  · rw [if_neg hq, if_neg hq, if_neg hq]

theorem directory_promoted (hw : t.Rooted) (hne : pageName readme ≠ indexName)
    (hfr : t.get? (k ++ [pageName readme]) = some (.file fr))
    (hfi : t.get? (k ++ [indexName]) = some (.file fi)) (r : Loc)
    (hr : t.get? r = some .directory) : (promoted t k readme).get? r = some .directory := by
  have hri : r ≠ k ++ [indexName] := by
    rintro rfl
    rw [hfi] at hr
    cases hr
  have hrr : r ≠ k ++ [pageName readme] := by
    rintro rfl
    rw [hfr] at hr
    cases hr
  rw [get?_promoted hw hne hfr hfi, if_neg hri, if_neg hrr, hr]

/-! ## The names of the pages -/

/-- The names of the pages in a directory, in order. -/
def pageNames (t : Tree) (k : Loc) : List String :=
  (t.names k).filter fun name => isPageName name && t.isFile (k ++ [name])

theorem isFile_eq_true : t.isFile q = true ↔ ∃ f, t.get? q = some (.file f) := by
  rw [Tree.isFile]
  cases hq : t.get? q with
  | none => simp
  | some n => cases n <;> simp [Node.isFile]

theorem mem_pageNames :
    name ∈ pageNames t k ↔ isPageName name = true ∧ ∃ f, t.get? (k ++ [name]) = some (.file f) := by
  rw [pageNames, List.mem_filter, Bool.and_eq_true, Tree.mem_names, isFile_eq_true]
  constructor
  · rintro ⟨-, h1⟩
    exact h1
  · rintro ⟨h1, f, h2⟩
    exact ⟨by rw [h2]; rfl, h1, f, h2⟩

theorem pairwise_pageNames (t : Tree) (k : Loc) : (pageNames t k).Pairwise (· < ·) :=
  (Tree.pairwise_names t k).filter _

/-- A file in a directory is seen, unless its path is too long to be asked about. -/
theorem seesFile_child (hf : h.faults = []) (hO : outputDir.hasNul = false)
    (hk : h.locate outputDir = .ok k) (hdir : h.tree.get? k = some .directory)
    (hname : Tree.IsEntryName name) (hlook : (h.look (outputDir.child name)).isOk = true) :
    h.seesFile (outputDir.child name) = h.tree.isFile (k ++ [name]) := by
  obtain ⟨h0, -, hup, -, hnul⟩ := hname
  have hNul : (outputDir.child name).hasNul = false := by
    rw [Path.hasNul, Path.names_child, List.any_append, ← Path.hasNul, hO]
    simpa using hnul
  have hfree : h.waiting? .stat (outputDir.child name) = none := Host.waiting?_of_faults hf
  rw [look_of_free hfree hNul] at hlook
  rw [Host.seesFile, look_of_free hfree hNul]
  cases hl : h.locate (outputDir.child name) with
  | ok q =>
    obtain ⟨k', hk', -, -, -, rfl⟩ := (Tree.locate_child_eq_ok h0 hup).mp hl
    rw [Host.locate] at hk
    rw [hk] at hk'
    cases hk'
    rfl
  | error e =>
    rw [hl, Tree.locate_child_eq_error hk hdir hl] at hlook
    simp [Except.isOk, Except.toBool] at hlook

/-- The pages that are listed are those with the name of a page that are files. -/
theorem pages_of_eq_ok (hf : h.faults = []) (hk : h.locate outputDir = .ok k)
    (hnames : ∀ name, (h.tree.get? (k ++ [name])).isSome → Tree.IsEntryName name) {ps : List Path}
    (hrun : (pages outputDir).on h = (.ok ps, h')) :
    h' = h ∧ ps = (pageNames h.tree k).map outputDir.child := by
  obtain ⟨rfl, hO, k', hk', hdir, hlook, rfl⟩ := (pages_eq_ok hf).mp hrun
  rw [hk] at hk'
  cases hk'
  refine ⟨rfl, ?_⟩
  have hsees : ∀ name ∈ (h'.tree.names k).filter isPageName,
      (h'.seesFile ∘ outputDir.child) name = h'.tree.isFile (k ++ [name]) := by
    intro name hn
    have hentry := hnames name (Tree.mem_names.mp (List.mem_filter.mp hn).1)
    exact seesFile_child hf hO hk hdir hentry (hlook name hn)
  rw [List.filter_map, List.filter_congr hsees, List.filter_filter, pageNames]
  simp only [Bool.and_comm]

/-! ## The loop over the pages -/

/-- The file `g` holds the text of `f` under the rules, and may be run if `f` may. -/
def Relinked (rules : List Links.Rule) (f g : File) : Prop :=
  ∃ text, Utf8.decode f.bytes = .ok text ∧ g.bytes = Utf8.encode (Links.relink rules text) ∧
    g.isExecutable = f.isExecutable

/-- One page is relinked, and no other place is touched. -/
theorem relinkPage_effect (hf : h.faults = []) (hk : h.locate outputDir = .ok k)
    (h0 : name ≠ "") (hup : name ≠ "..") {b : Bool}
    (hrun : (relinkPage rules (outputDir.child name)).on h = (.ok b, h')) :
    h'.faults = [] ∧ h'.locate outputDir = .ok k ∧
      (∀ q, q ≠ k ++ [name] → h'.tree.get? q = h.tree.get? q) ∧
      ∃ f g, h.tree.get? (k ++ [name]) = some (.file f) ∧
        h'.tree.get? (k ++ [name]) = some (.file g) ∧ Relinked rules f g := by
  obtain ⟨_, f, text, hreach, hfile, htext, -, rfl⟩ := (relinkPage_eq_ok hf).mp hrun
  obtain ⟨-, k', hk', -, -, -, rfl⟩ := (reaches_child_iff h0 hup).mp hreach
  rw [hk] at hk'
  cases hk'
  have hview : ∀ q, (h.tree.set (k ++ [name]) (.file (relinkedFile rules f text h.stamp))).get? q =
      if q = k ++ [name] then some (.file (relinkedFile rules f text h.stamp))
      else h.tree.get? q := fun q => Tree.get?_set (by simp)
  refine ⟨hf, ?_, fun q hq => ?_, f, relinkedFile rules f text h.stamp, hfile, ?_,
    text, htext, rfl, rfl⟩
  · refine Tree.locate_mono (fun r hr => ?_) hk
    show (h.tree.set _ _).get? r = _
    rw [hview, if_neg, hr]
    rintro rfl
    rw [hfile] at hr
    cases hr
  · show (h.tree.set _ _).get? q = _
    rw [hview, if_neg hq]
  · show (h.tree.set _ _).get? _ = _
    rw [hview, if_pos rfl]

/-- The loop relinks every page once and touches nothing else. -/
theorem relinkPages_effect (hf : h.faults = []) (hk : h.locate outputDir = .ok k)
    (hnames : ∀ name ∈ names, name ≠ "" ∧ name ≠ "..") (hnodup : names.Nodup) {u : Unit}
    (hrun : (relinkPages rules (names.map outputDir.child)).on h = (.ok u, h')) :
    h'.locate outputDir = .ok k ∧
      (∀ q, (∀ name ∈ names, q ≠ k ++ [name]) → h'.tree.get? q = h.tree.get? q) ∧
      ∀ name ∈ names, ∃ f g, h.tree.get? (k ++ [name]) = some (.file f) ∧
        h'.tree.get? (k ++ [name]) = some (.file g) ∧ Relinked rules f g := by
  induction names generalizing h with
  | nil =>
    obtain ⟨-, rfl⟩ := on_pure_eq_ok.mp hrun
    exact ⟨hk, fun _ _ => rfl, fun _ hn => absurd hn (List.not_mem_nil)⟩
  | cons first names ih =>
    obtain ⟨hfirst, hrest⟩ := List.forall_mem_cons.mp hnames
    obtain ⟨hnot, hnodup⟩ := List.nodup_cons.mp hnodup
    rw [List.map_cons, relinkPages, on_bind_eq_ok] at hrun
    obtain ⟨b, h₁, hstep, hrun⟩ := hrun
    obtain ⟨hf₁, hk₁, hkept, f, g, hfile, hfile₁, hrel⟩ :=
      relinkPage_effect hf hk hfirst.1 hfirst.2 hstep
    obtain ⟨hk', hkept', hpages⟩ := ih hf₁ hk₁ hrest hnodup hrun
    have hother : ∀ name ∈ names, k ++ [name] ≠ k ++ [first] := by
      intro name hn he
      rw [List.append_cancel_left_eq, List.singleton_inj] at he
      exact hnot (he ▸ hn)
    refine ⟨hk', fun q hq => ?_, fun name hn => ?_⟩
    · rw [hkept' q fun name hn => hq name (List.mem_cons_of_mem _ hn),
        hkept q (hq first List.mem_cons_self)]
    · rcases List.mem_cons.mp hn with rfl | hn
      · refine ⟨f, g, hfile, ?_, hrel⟩
        rw [hkept' _ fun name hn => (hother name hn).symm, hfile₁]
      · obtain ⟨f', g', h1, h2, h3⟩ := hpages name hn
        rw [hkept _ (hother name hn)] at h1
        exact ⟨f', g', h1, h2, h3⟩

/-! ## The whole -/

/-- The pages after the promotion: the index, and the pages from before but the readme page. -/
theorem mem_pageNames_promoted (hw : t.Rooted) (hne : pageName readme ≠ indexName)
    (hfr : t.get? (k ++ [pageName readme]) = some (.file fr))
    (hfi : t.get? (k ++ [indexName]) = some (.file fi)) :
    name ∈ pageNames (promoted t k readme) k ↔ name = indexName ∨
      name ≠ pageName readme ∧ isPageName name = true ∧
        ∃ f, t.get? (k ++ [name]) = some (.file f) := by
  simp only [mem_pageNames, get?_promoted hw hne hfr hfi, List.append_cancel_left_eq,
    List.singleton_inj]
  by_cases hi : name = indexName
  · simp [hi, isPageName_indexName]
  · by_cases hr : name = pageName readme
    · simp [hr, hne]
    · simp [hi, hr]

/-- A finished site is one that was promoted, and then relinked page by page. -/
theorem finish_stages (hf : h.faults = []) (hw : h.tree.WellFormed) (hslash : '/' ∉ readme.toList)
    {r : Result} (hrun : (finish outputDir readme).on h = (.ok r, h')) :
    pageName readme ≠ indexName ∧ ∃ k fr fi h₁, h.locate outputDir = .ok k ∧
      h.tree.get? (k ++ [pageName readme]) = some (.file fr) ∧
      h.tree.get? (k ++ [indexName]) = some (.file fi) ∧
      h₁.faults = [] ∧ h₁.locate outputDir = .ok k ∧ h₁.tree = promoted h.tree k readme ∧
      r = ⟨outputDir, outputDir.child indexName, (pageNames h₁.tree k).map outputDir.child⟩ ∧
      (relinkPages (Links.Rule.forReadme readme.toList)
        ((pageNames h₁.tree k).map outputDir.child)).on h₁ = (.ok (), h') := by
  unfold finish at hrun
  simp only [on_bind_eq_ok, on_pure_eq_ok] at hrun
  obtain ⟨index, h₁, hpromote, ps, h₂, hpages, u, h₃, hrelink, rfl, rfl⟩ := hrun
  obtain ⟨rfl, hne, k, fr, fi, hr, hi, hfr, hfi, rfl⟩ := (promote_eq_ok hf hslash).mp hpromote
  have hi0 : indexName ≠ "" := by decide
  have hi2 : indexName ≠ ".." := by decide
  obtain ⟨-, k', hk, -, -, -, he⟩ := (reaches_child_iff hi0 hi2).mp hi
  obtain ⟨rfl, -⟩ := List.append_inj' he rfl
  have hk₁ := Tree.locate_mono (directory_promoted hw.toRooted hne hfr hfi) hk
  have hentry : ∀ name, ((promoted h.tree k readme).get? (k ++ [name])).isSome →
      Tree.IsEntryName name := by
    intro name hsome
    rw [get?_promoted hw.toRooted hne hfr hfi] at hsome
    split at hsome
    · rename_i he
      rw [List.append_cancel_left_eq, List.singleton_inj] at he
      rw [he]
      decide
    · split at hsome
      · cases hsome
      · exact hw.entryName k name hsome
  have hf₁ := (Host.faults_commit _ (promoted h.tree k readme)).trans
    ((Host.faults_commit h (h.tree.erase (k ++ [indexName]))).trans hf)
  obtain ⟨rfl, rfl⟩ := pages_of_eq_ok hf₁ hk₁ hentry hpages
  exact ⟨hne, k, fr, fi, _, hk, hfr, hfi, hf₁, hk₁, rfl, rfl, hrelink⟩

theorem nodup_pageNames (t : Tree) (k : Loc) : (pageNames t k).Nodup :=
  (pairwise_pageNames t k).imp fun hlt he => absurd (he ▸ hlt) (String.lt_irrefl _)

/-- What finishing the site at `k` makes of the tree `t`; `names` are the pages of the result. -/
structure Finished (readme : String) (k : Loc) (t u : Tree) (names : List String) : Prop where
  readmePage : u.get? (k ++ [pageName readme]) = none
  index : ∃ f g, t.get? (k ++ [pageName readme]) = some (.file f) ∧
    u.get? (k ++ [indexName]) = some (.file g) ∧
    Relinked (Links.Rule.forReadme readme.toList) f g
  page : ∀ name f, name ≠ pageName readme → name ≠ indexName → isPageName name = true →
    t.get? (k ++ [name]) = some (.file f) → ∃ g, u.get? (k ++ [name]) = some (.file g) ∧
      Relinked (Links.Rule.forReadme readme.toList) f g
  kept : ∀ q, (∀ name, q = k ++ [name] → name ≠ pageName readme ∧ name ≠ indexName ∧
    ¬ (isPageName name = true ∧ t.isFile q = true)) → u.get? q = t.get? q
  sorted : names.Pairwise (· < ·)
  mem_names : ∀ name, name ∈ names ↔ name = indexName ∨ name ≠ pageName readme ∧
    isPageName name = true ∧ t.isFile (k ++ [name]) = true

/-- Where the readme page was promoted, relinking the pages that are listed finishes the site. -/
theorem finished_of_relinkPages (hf : h.faults = []) (hw : t.Rooted)
    (hne : pageName readme ≠ indexName) (hk : h.locate outputDir = .ok k)
    (hfr : t.get? (k ++ [pageName readme]) = some (.file fr))
    (hfi : t.get? (k ++ [indexName]) = some (.file fi)) (ht : h.tree = promoted t k readme)
    (hrun : (relinkPages (Links.Rule.forReadme readme.toList)
      ((pageNames h.tree k).map outputDir.child)).on h = (.ok (), h')) :
    h'.locate outputDir = .ok k ∧ Finished readme k t h'.tree (pageNames h.tree k) := by
  have hview : ∀ q, h.tree.get? q = if q = k ++ [indexName] then some (.file fr)
      else if q = k ++ [pageName readme] then none else t.get? q := fun q => by
    rw [ht, get?_promoted hw hne hfr hfi]
  have hmem : ∀ name, name ∈ pageNames h.tree k ↔ name = indexName ∨ name ≠ pageName readme ∧
      isPageName name = true ∧ ∃ f, t.get? (k ++ [name]) = some (.file f) := fun name => by
    rw [ht, mem_pageNames_promoted hw hne hfr hfi]
  obtain ⟨hk', hkept, hpages⟩ := relinkPages_effect hf hk
    (fun name hn => names_of_isPageName (mem_pageNames.mp hn).1) (nodup_pageNames _ _) hrun
  refine ⟨hk', ?_, ?_, ?_, ?_, pairwise_pageNames _ _, ?_⟩
  · -- The readme page is not listed any more, and was taken away by the promotion.
    rw [hkept, hview, if_neg (by simpa using hne), if_pos rfl]
    intro name hn he
    rw [List.append_cancel_left_eq, List.singleton_inj] at he
    rcases (hmem name).mp hn with hi | ⟨hr, -⟩
    · exact hne (he.trans hi)
    · exact hr he.symm
  · obtain ⟨f, g, h1, h2, h3⟩ := hpages indexName ((hmem indexName).mpr (.inl rfl))
    rw [hview, if_pos rfl] at h1
    cases h1
    exact ⟨fr, g, hfr, h2, h3⟩
  · intro name f hr hi hpage hfile
    obtain ⟨f', g, h1, h2, h3⟩ := hpages name ((hmem name).mpr (.inr ⟨hr, hpage, f, hfile⟩))
    rw [hview, if_neg (by simpa using hi), if_neg (by simpa using hr), hfile] at h1
    cases h1
    exact ⟨g, h2, h3⟩
  · intro q hq
    rw [hkept, hview, if_neg, if_neg]
    · rintro rfl
      exact (hq _ rfl).1 rfl
    · rintro rfl
      exact (hq _ rfl).2.1 rfl
    · rintro name hn rfl
      obtain ⟨hr, hi, hno⟩ := hq name rfl
      rcases (hmem name).mp hn with hi' | ⟨-, hpage, hfile⟩
      · exact hi hi'
      · exact hno ⟨hpage, isFile_eq_true.mpr hfile⟩
  · intro name
    rw [hmem name, isFile_eq_true]

/-- **The exact effect of finishing a site.**  The readme page is gone and the index holds its
relinked text; every other page holds its own relinked text; every other place of the tree is as it
was.  The pages of the result are the index and those other pages, each once and in the order of
their names. -/
theorem finish_effect (hf : h.faults = []) (hw : h.tree.WellFormed)
    (hslash : '/' ∉ readme.toList) {r : Result}
    (hrun : (finish outputDir readme).on h = (.ok r, h')) :
    ∃ (k : Loc) (names : List String), h.locate outputDir = .ok k ∧ h'.locate outputDir = .ok k ∧
      Finished readme k h.tree h'.tree names ∧
      r = ⟨outputDir, outputDir.child indexName, names.map outputDir.child⟩ := by
  obtain ⟨hne, k, fr, fi, h₁, hk, hfr, hfi, hf₁, hk₁, ht₁, rfl, hrelink⟩ :=
    finish_stages hf hw hslash hrun
  obtain ⟨hk', hfinished⟩ :=
    finished_of_relinkPages hf₁ hw.toRooted hne hk₁ hfr hfi ht₁ hrelink
  exact ⟨k, pageNames h₁.tree k, hk, hk', hfinished, rfl⟩

/-- A rendered site with a page, a hidden one, a directory with the name of one, and a page in a
directory. -/
def rendered : Tree :=
  let file (text : String) : Node := .file ⟨Utf8.encode text.toList, 0, false⟩
  ((((((((∅ : Tree).set ["site"] .directory).set ["site", "intro.html"]
    (file "<a href=\"README.md\">")).set ["site", "README.html"]
    (file "<a href=\"intro.md\">")).set ["site", "index.html"] (file "generic")).set
    ["site", ".draft.html"] (file "README.md")).set ["site", "old.html"] .directory).set
    ["site", "old.html", "intro.html"] (file "README.md")).set ["site", "notes.txt"]
    (file "README.md")

/-- A host with the given files. -/
def hostOf (t : Tree) : Host where
  tree := t
  cwd := ⟨.top, []⟩
  program := { run := fun _ _ t => (.ok 0, t) }

theorem wellFormed_rendered : rendered.WellFormed := by decide +kernel

theorem child_injective (p : Path) : Function.Injective p.child := by
  intro a b hab
  simpa [Path.child] using hab

/-- Of the site above, only the index and `intro.html` are pages that remain. -/
theorem finish_effect_rendered : (hostOf rendered).faults = [] ∧ rendered.WellFormed ∧
    '/' ∉ "README".toList ∧ ∃ r h',
      (finish ⟨.top, ["site"]⟩ "README").on (hostOf rendered) = (.ok r, h') ∧
        Finished "README" ["site"] rendered h'.tree ["index.html", "intro.html"] := by
  have hslash : '/' ∉ "README".toList := by decide
  have hok : ((finish ⟨.top, ["site"]⟩ "README").on (hostOf rendered)).1.toOption.map Result.pages =
      some (["index.html", "intro.html"].map (Path.mk .top ["site"]).child) := by decide +kernel
  refine ⟨rfl, wellFormed_rendered, hslash, ?_⟩
  cases hrun : (finish ⟨.top, ["site"]⟩ "README").on (hostOf rendered) with
  | mk result h' =>
    rw [hrun] at hok
    cases result with
    | error e => cases hok
    | ok r =>
      obtain ⟨k, names, hk, -, hfin, rfl⟩ := finish_effect rfl wellFormed_rendered hslash hrun
      have hsite : (hostOf rendered).locate ⟨.top, ["site"]⟩ = .ok ["site"] := by rfl
      rw [hsite] at hk
      cases hk
      have hnames : names = ["index.html", "intro.html"] :=
        (child_injective _).list_map (Option.some.inj hok)
      exact ⟨_, h', rfl, hnames ▸ hfin⟩

end DeckPress.Site
