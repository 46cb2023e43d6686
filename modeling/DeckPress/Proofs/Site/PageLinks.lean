import DeckPress.Proofs.Links.Reference
import DeckPress.Proofs.Site.Finish

/-!
# Links between the pages of a site

Files are renamed by the promotion, links by the rules.  `finish_keeps_links` states when the two
agree: for a page whose name the rules leave alone, every link to it names a file of the finished
site.  `finish_breaks_links` has sites where they do not: a page whose name only ends in that of the
readme page keeps its name, but not the links to it.
-/

namespace DeckPress.Site

open Act Links

variable {h h' : Host} {outputDir : Path} {readme name : String} {names : List String} {k : Loc}
  {t : Tree} {f fr fi : File} {rules : List Rule}

/-- The name that a page has in the finished site. -/
def finishedName (readme name : String) : String :=
  if name = pageName readme then indexName else name

theorem toList_pageName (s : String) : (pageName s).toList = s.toList ++ ".html".toList := by
  rw [pageName, String.toList_append]

theorem pageName_inj {s t : String} : pageName s = pageName t ↔ s = t := by
  rw [← String.toList_inj, toList_pageName, toList_pageName, List.append_left_inj,
    String.toList_inj]

theorem toList_finishedName (readme s : String) :
    (finishedName readme (pageName s)).toList = target readme.toList s.toList := by
  by_cases h : s = readme
  · rw [finishedName, target, if_pos (congrArg _ h), if_pos (congrArg _ h)]
    rfl
  · rw [finishedName, target, if_neg (mt pageName_inj.mp h), if_neg (mt String.toList_inj.mp h),
      toList_pageName]

/-- A file of the rendered site, other than the index it came with, has its name of the finished
site after the promotion. -/
theorem get?_promoted_finishedName (hw : t.Rooted) (hne : pageName readme ≠ indexName)
    (hfr : t.get? (k ++ [pageName readme]) = some (.file fr))
    (hfi : t.get? (k ++ [indexName]) = some (.file fi))
    (hfile : t.get? (k ++ [name]) = some (.file f)) (hi : name ≠ indexName) :
    (promoted t k readme).get? (k ++ [finishedName readme name]) = some (.file f) := by
  rw [get?_promoted hw hne hfr hfi, finishedName]
  by_cases hr : name = pageName readme
  · subst hr
    rw [if_pos rfl, if_pos rfl, ← hfr, hfile]
  · rw [if_neg hr, if_neg (by simpa using hi), if_neg (by simpa using hr), hfile]

/-- A file stays a file while pages are relinked. -/
theorem isFile_relinkPages (hf : h.faults = []) (hk : h.locate outputDir = .ok k)
    (hnames : ∀ name ∈ names, name ≠ "" ∧ name ≠ "..") (hnodup : names.Nodup) {u : Unit}
    (hrun : (relinkPages rules (names.map outputDir.child)).on h = (.ok u, h'))
    (hfile : h.tree.get? (k ++ [name]) = some (.file f)) :
    h'.tree.isFile (k ++ [name]) = true := by
  obtain ⟨-, hkept, hpages⟩ := relinkPages_effect hf hk hnames hnodup hrun
  rw [isFile_eq_true]
  by_cases hn : name ∈ names
  · obtain ⟨_, g, -, hg, -⟩ := hpages name hn
    exact ⟨g, hg⟩
  · refine ⟨f, ?_⟩
    rw [hkept, hfile]
    intro name' hn' he
    rw [List.append_cancel_left_eq, List.singleton_inj] at he
    exact hn (he ▸ hn')

/-- A page of the rendered site, other than the index it came with, is a page of the finished
one. -/
theorem finish_page (hf : h.faults = []) (hw : h.tree.WellFormed) (hslash : '/' ∉ readme.toList)
    {r : Result} (hrun : (finish outputDir readme).on h = (.ok r, h')) :
    ∃ k, h.locate outputDir = .ok k ∧
      (∀ page f, isPageName page = true ∨ page = pageName readme → page ≠ indexName →
        h.tree.get? (k ++ [page]) = some (.file f) →
        ∃ g, h'.tree.get? (k ++ [finishedName readme page]) = some (.file g) ∧
          Relinked (Rule.forReadme readme.toList) f g) ∧
      ∀ name, h.tree.isFile (k ++ [name]) = true →
        h'.tree.isFile (k ++ [finishedName readme name]) = true := by
  obtain ⟨hne, k, fr, fi, h₁, hk, hfr, hfi, hf₁, hk₁, ht₁, -, hrelink⟩ :=
    finish_stages hf hw hslash hrun
  have hnames : ∀ name ∈ pageNames h₁.tree k, name ≠ "" ∧ name ≠ ".." :=
    fun name hn => names_of_isPageName (mem_pageNames.mp hn).1
  have hpages := (relinkPages_effect hf₁ hk₁ hnames (nodup_pageNames _ _) hrelink).2.2
  have hfirst : ∀ name f, h.tree.get? (k ++ [name]) = some (.file f) → name ≠ indexName →
      h₁.tree.get? (k ++ [finishedName readme name]) = some (.file f) := by
    rw [ht₁]
    exact fun name f => get?_promoted_finishedName hw.toRooted hne hfr hfi
  refine ⟨k, hk, fun page f hpage hi hfile => ?_, fun name hfile => ?_⟩
  · have hfile₁ := hfirst page f hfile hi
    have hname : isPageName (finishedName readme page) = true := by
      rw [finishedName]
      split
      · exact isPageName_indexName
      · exact hpage.resolve_right ‹_›
    obtain ⟨f', g, h1, h2, h3⟩ := hpages _ (mem_pageNames.mpr ⟨hname, f, hfile₁⟩)
    rw [hfile₁] at h1
    cases h1
    exact ⟨g, h2, h3⟩
  · obtain ⟨f, hfile⟩ := isFile_eq_true.mp hfile
    by_cases hi : name = indexName
    · -- The index it came with is replaced by the readme page.
      subst hi
      have hindex : h₁.tree.get? (k ++ [indexName]) = some (.file fr) := by
        rw [ht₁, get?_promoted hw.toRooted hne hfr hfi, if_pos rfl]
      rw [finishedName, if_neg (Ne.symm hne)]
      exact isFile_relinkPages hf₁ hk₁ hnames (nodup_pageNames _ _) hrelink hindex
    · exact isFile_relinkPages hf₁ hk₁ hnames (nodup_pageNames _ _) hrelink
        (hfirst name f hfile hi)

/-- Where the name of the readme page has no quotes, no occurrence of it runs over an end of a
link. -/
theorem clear_of_no_quote (hq : '"' ∉ readme.toList) (s : String) :
    Text.Clear (pageName readme).toList (reference (pageName s).toList) := by
  rw [toList_pageName]
  exact clear_index_reference hq _

/-- **Links to a page stay valid if the rules leave its name alone.**  Take a page of a site that is
finished, other than the index it came with, and a link in it to a page `s` of the site, by its
source or by its own name.  If `s` does not hold `.md`, no occurrence of the name of the readme page
runs over an end of the link, and none lies in the link unless `s` is the readme page, then the
finished page has at that place a link to the index if `s` is the readme page and to `s` otherwise,
and there is such a file in the finished site. -/
theorem finish_keeps_links (hf : h.faults = []) (hw : h.tree.WellFormed)
    (hslash : '/' ∉ readme.toList) {r : Result}
    (hrun : (finish outputDir readme).on h = (.ok r, h')) :
    ∃ k, h.locate outputDir = .ok k ∧
      ∀ (page s : String) (f : File) (e a b : Text),
        isPageName page = true ∨ page = pageName readme → page ≠ indexName →
        h.tree.get? (k ++ [page]) = some (.file f) →
        e = ".md".toList ∨ e = ".html".toList →
        Utf8.decode f.bytes = .ok (a ++ reference (s.toList ++ e) ++ b) →
        h.tree.isFile (k ++ [pageName s]) = true →
        ¬ ".md".toList <:+: s.toList →
        Text.Clear (pageName readme).toList (reference (pageName s).toList) →
        (s ≠ readme → ¬ (pageName readme).toList <:+: reference (pageName s).toList) →
        (∃ g, h'.tree.get? (k ++ [finishedName readme page]) = some (.file g) ∧
          g.bytes = Utf8.encode (relink (Rule.forReadme readme.toList) a ++
            reference (finishedName readme (pageName s)).toList ++
            relink (Rule.forReadme readme.toList) b)) ∧
        h'.tree.isFile (k ++ [finishedName readme (pageName s)]) = true := by
  obtain ⟨k, hk, hpages, hfiles⟩ := finish_page hf hw hslash hrun
  refine ⟨k, hk, fun page s f e a b hpage hi hfile he htext hs hsources hclear hother => ?_⟩
  refine ⟨?_, hfiles _ hs⟩
  obtain ⟨g, hg, text, hdecode, hbytes, -⟩ := hpages page f hpage hi hfile
  refine ⟨g, hg, ?_⟩
  rw [htext] at hdecode
  cases hdecode
  obtain ⟨fs, hfs⟩ := isFile_eq_true.mp hs
  have hslash' : '/' ∉ s.toList := by
    have hentry := (hw.entryName k (pageName s) (by rw [hfs]; rfl)).2.2.2.1
    rw [toList_pageName, List.mem_append, not_or] at hentry
    exact hentry.1
  have hne : s.toList ≠ readme.toList → s ≠ readme := mt (congrArg String.toList)
  rw [toList_pageName, toList_pageName] at hclear hother
  rw [hbytes, relink_reference he hslash' hsources hclear (fun h1 => hother (hne h1)),
    toList_finishedName]

/-- In the site above, the readme page links to the introduction, and so does the finished index. -/
theorem finish_keeps_links_rendered : (hostOf rendered).faults = [] ∧ rendered.WellFormed ∧
    '/' ∉ "README".toList ∧ ∃ r h',
      (finish ⟨.top, ["site"]⟩ "README").on (hostOf rendered) = (.ok r, h') ∧
        (∃ g, h'.tree.get? ["site", "index.html"] = some (.file g) ∧
          g.bytes = Utf8.encode "<a href=\"intro.html\">".toList) ∧
        h'.tree.isFile ["site", "intro.html"] = true := by
  have hslash : '/' ∉ "README".toList := by decide
  have hok : ((finish ⟨.top, ["site"]⟩ "README").on (hostOf rendered)).1.isOk = true := by
    decide +kernel
  refine ⟨rfl, wellFormed_rendered, hslash, ?_⟩
  cases hrun : (finish ⟨.top, ["site"]⟩ "README").on (hostOf rendered) with
  | mk result h' =>
    rw [hrun] at hok
    cases result with
    | error e => cases hok
    | ok r =>
      obtain ⟨k, hk, hlinks⟩ := finish_keeps_links rfl wellFormed_rendered hslash hrun
      have hsite : (hostOf rendered).locate ⟨.top, ["site"]⟩ = .ok ["site"] := by rfl
      rw [hsite] at hk
      cases hk
      exact ⟨r, h', rfl, hlinks "README.html" "intro"
        ⟨Utf8.encode "<a href=\"intro.md\">".toList, 0, false⟩ ".md".toList "<a ".toList ">".toList
        (.inr rfl) (by decide) (by decide +kernel) (.inl rfl) (by decide +kernel)
        (by decide +kernel) (by decide) (clear_of_no_quote (by decide) _) (fun _ => by decide)⟩

/-! ## Links that break -/

/-- The text of a page of the site in a tree. -/
def textAt (t : Tree) (name : String) : Option Text :=
  match t.get? ["site", name] with
  | some (.file f) => (Utf8.decode f.bytes).toOption
  | _ => none

/-- The tree that is left when the site in it is finished. -/
def finishedTree (readme : String) (t : Tree) : Option Tree :=
  match (finish ⟨.top, ["site"]⟩ readme).on (hostOf t) with
  | (.ok _, h') => some h'.tree
  | (.error _, _) => none

/-- Where a page of `t` linked to a page, the finished one in `u` links to where that page is. -/
def KeepsLinks (readme : String) (t u : Tree) : Prop :=
  ∀ (page s : String) (e a b : Text), isPageName page = true →
    e = ".md".toList ∨ e = ".html".toList →
    textAt t page = some (a ++ reference (s.toList ++ e) ++ b) →
    t.isFile ["site", pageName s] = true →
    ∃ a' b', textAt u (finishedName readme page) =
      some (a' ++ reference (finishedName readme (pageName s)).toList ++ b')

/-- A site of the given pages. -/
def siteOf (pages : List (String × String)) : Tree :=
  pages.foldl
    (fun t (name, text) => t.set ["site", name] (.file ⟨Utf8.encode text.toList, 0, false⟩))
    ((∅ : Tree).set ["site"] .directory)

/-- Sites, each with its readme document, that lose a link: to a page whose name ends in that of the
readme page; to a page with `.md` in its name; on the index that the readme page replaces; and,
where the readme page has quotes in its name, to a page that only the end of that name links to. -/
def brokenSites : List (String × Tree) := [
  ("README", siteOf [("README.html", ""), ("index.html", ""), ("MYREADME.html", ""),
    ("intro.html", "<a href=\"MYREADME.md\">")]),
  ("README", siteOf [("README.html", ""), ("index.html", ""), ("a.mdx.html", ""),
    ("intro.html", "<a href=\"a.mdx.html\">")]),
  ("README", siteOf [("README.html", ""), ("index.html", "<a href=\"intro.md\">"),
    ("intro.html", "")]),
  ("x\" href=\"b", siteOf [("x\" href=\"b.html", ""), ("index.html", ""), ("b.html", ""),
    ("intro.html", "<a id=\"x\" href=\"b.md\">")])]

theorem not_keepsLinks {t : Tree} (page s : String) (e a b text : Text)
    (hpage : isPageName page = true) (he : e = ".md".toList ∨ e = ".html".toList)
    (htext : textAt t page = some (a ++ reference (s.toList ++ e) ++ b))
    (hs : t.isFile ["site", pageName s] = true)
    (hfinish : (finishedTree readme t).bind (textAt · (finishedName readme page)) = some text)
    (hlost : ¬ reference (finishedName readme (pageName s)).toList <:+: text) :
    ∃ u, finishedTree readme t = some u ∧ ¬ KeepsLinks readme t u := by
  obtain ⟨u, hu, hafter⟩ := Option.bind_eq_some_iff.mp hfinish
  refine ⟨u, hu, fun hkeeps => ?_⟩
  obtain ⟨a', b', hkept⟩ := hkeeps page s e a b hpage he htext hs
  rw [hafter] at hkept
  cases hkept
  exact hlost ⟨a', b', rfl⟩

/-- Not every link between pages stays valid. -/
theorem finish_breaks_links : brokenSites.Forall fun site => site.2.WellFormed ∧
    ∃ u, finishedTree site.1 site.2 = some u ∧ ¬ KeepsLinks site.1 site.2 u := by
  simp only [brokenSites, List.forall_cons, List.Forall]
  refine ⟨⟨by decide +kernel, ?_⟩, ⟨by decide +kernel, ?_⟩, ⟨by decide +kernel, ?_⟩,
    by decide +kernel, ?_⟩
  · exact not_keepsLinks "intro.html" "MYREADME" ".md".toList "<a ".toList ">".toList
      "<a href=\"MYindex.html\">".toList (by decide) (.inl rfl) (by decide +kernel)
      (by decide +kernel) (by decide +kernel) (by decide)
  · exact not_keepsLinks "intro.html" "a.mdx" ".html".toList "<a ".toList ">".toList
      "<a href=\"a.htmlx.html\">".toList (by decide) (.inr rfl) (by decide +kernel)
      (by decide +kernel) (by decide +kernel) (by decide)
  · exact not_keepsLinks "index.html" "intro" ".md".toList "<a ".toList ">".toList [] (by decide)
      (.inl rfl) (by decide +kernel) (by decide +kernel) (by decide +kernel) (by decide)
  · exact not_keepsLinks "intro.html" "b" ".md".toList "<a id=\"x\" ".toList ">".toList
      "<a id=\"index.html\">".toList (by decide) (.inl rfl) (by decide +kernel)
      (by decide +kernel) (by decide +kernel) (by decide)

end DeckPress.Site
