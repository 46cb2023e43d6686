import DeckPress.Proofs.Site.Failures

/-!
# When a rendered site can be finished

* `Ready` — the readme page and the index are there, the path of no page is too long, and all pages
  but the index are texts.
* `finish_of_ready` — a site that is ready can be finished, and `ready_of_finish` — only such a site
  can.
-/

namespace DeckPress.Site

open Act

variable {h h' : Host} {outputDir page : Path} {readme name : String} {k : Loc} {f : File}
  {r : Result}

/-- A name of a page, or that of the readme page, which may be hidden. -/
def IsSitePage (readme name : String) : Prop := isPageName name = true ∨ name = pageName readme

/-- A rendered site that can be finished. -/
structure Ready (h : Host) (outputDir : Path) (readme : String) (k : Loc) : Prop
    extends Directory h outputDir k where
  distinct : pageName readme ≠ indexName
  readmePage : ∃ f, h.tree.get? (k ++ [pageName readme]) = some (.file f)
  index : ∃ f, h.tree.get? (k ++ [indexName]) = some (.file f)
  fits : ∀ name, IsSitePage readme name → (h.tree.get? (k ++ [name])).isSome →
    (outputDir.child name).Fits
  text : ∀ name f, IsSitePage readme name → name ≠ indexName →
    h.tree.get? (k ++ [name]) = some (.file f) → ∃ text, Utf8.decode f.bytes = .ok text

theorem isSitePage_indexName (readme : String) : IsSitePage readme indexName :=
  .inl isPageName_indexName

/-! ## A site that is ready -/

theorem obstacle?_of_text (hf : h.faults = []) {text : Text}
    (htext : Utf8.decode f.bytes = .ok text) : obstacle? h page f = none := by
  have hfault : ∀ call p, h.waiting? call p = none := fun call p => by
    rw [Host.waiting?, hf]
    rfl
  rw [obstacle?, hfault, htext]
  exact hfault .write page

theorem Ready.promote (hf : h.faults = []) (hslash : '/' ∉ readme.toList)
    (hready : Ready h outputDir readme k) :
    ∃ h₁, (promote outputDir readme).on h = (.ok (outputDir.child indexName), h₁) := by
  obtain ⟨fr, hfr⟩ := hready.readmePage
  obtain ⟨fi, hfi⟩ := hready.index
  have hreaches : ∀ name f, IsSitePage readme name →
      h.tree.get? (k ++ [name]) = some (.file f) →
        h.Reaches (outputDir.child name) (k ++ [name]) := by
    intro name f hname hfile
    have hsome : (h.tree.get? (k ++ [name])).isSome := by rw [hfile]; rfl
    exact hready.reaches (hready.entryName name hsome) (hready.fits name hname hsome)
  have hr := hreaches _ fr (.inr rfl) hfr
  have hi := hreaches _ fi (isSitePage_indexName readme) hfi
  exact ⟨_, (promote_eq_ok hf hslash).mpr ⟨rfl, hready.distinct, k, fr, fi, hr, hi, hfr, hfi, rfl⟩⟩

/-- A site that is ready can be finished. -/
theorem finish_of_ready (hf : h.faults = []) (hw : h.tree.WellFormed) (hslash : '/' ∉ readme.toList)
    (hready : Ready h outputDir readme k) : ∃ h' names,
      (finish outputDir readme).on h =
        (.ok ⟨outputDir, outputDir.child indexName, names.map outputDir.child⟩, h') ∧
      Finished readme k h.tree h'.tree names := by
  obtain ⟨h₁, hpromote⟩ := hready.promote hf hslash
  obtain ⟨fr, hfr⟩ := hready.readmePage
  obtain ⟨fi, hfi⟩ := hready.index
  have hsees : h.SeesAll := .of_nil hf
  obtain ⟨-, hfaults, k', hd, hk, ht⟩ := of_promote hsees hw hslash hpromote
  rw [hready.locate] at hk
  cases hk
  have hf₁ : h₁.faults = [] := hfaults.trans hf
  have hview : ∀ name, h₁.tree.get? (k ++ [name]) = if name = indexName then some (.file fr)
      else if name = pageName readme then none else h.tree.get? (k ++ [name]) := fun name => by
    rw [ht, get?_promoted hw.toRooted hready.distinct hfr hfi]
    simp only [List.append_cancel_left_eq, List.singleton_inj]
  -- What is left of the site is listed.
  have hfits : ∀ name ∈ candidates h₁.tree k, (outputDir.child name).Fits := by
    intro name hn
    obtain ⟨hsome, hpage⟩ := List.mem_filter.mp hn
    rw [Tree.mem_names, hview] at hsome
    split at hsome
    · rename_i hname
      exact hready.fits name (.inl hpage) (by rw [hname, hfi]; rfl)
    · split at hsome
      · cases hsome
      · exact hready.fits name (.inl hpage) hsome
  have hlist : h₁.waiting? .list outputDir = none := by simp [Host.waiting?, hf₁]
  have hpages := pages_listed hd (hsees.of_faults hfaults) hlist hfits
  -- The pages that are listed are texts.
  have hfree : Unhindered h₁ outputDir k (pageNames h₁.tree k) := by
    intro name hn f hfile
    have hpage := (mem_pageNames.mp hn).1
    obtain ⟨text, htext⟩ : ∃ text, Utf8.decode f.bytes = .ok text := by
      rw [hview] at hfile
      split at hfile
      · cases hfile
        exact hready.text _ fr (.inr rfl) hready.distinct hfr
      · rename_i hindex
        split at hfile
        · cases hfile
        · exact hready.text name f (.inl hpage) hindex hfile
    exact obstacle?_of_text hf₁ htext
  obtain ⟨h₂, hrelink, -⟩ :=
    relinkPages_passes (Links.Rule.forReadme readme.toList) (hd.listed hfits) hfree
  obtain ⟨-, hfinished⟩ :=
    finished_of_relinkPages hf₁ hw.toRooted hready.distinct hd.locate hfr hfi ht hrelink
  refine ⟨h₂, pageNames h₁.tree k, ?_, hfinished⟩
  rw [finish, on_bind_of_ok hpromote, on_bind_of_ok hpages, on_bind_of_ok hrelink]
  rfl

/-! ## A site that was finished -/

theorem hasNul_of_finish (hf : h.faults = []) (hslash : '/' ∉ readme.toList)
    (hrun : (finish outputDir readme).on h = (.ok r, h')) : outputDir.hasNul = false := by
  obtain ⟨index, h₁, hpromote, -⟩ := on_bind_eq_ok.mp hrun
  obtain ⟨-, -, k, fr, fi, -, hi, -⟩ := (promote_eq_ok hf hslash).mp hpromote
  have hnul := hi.hasNul
  rw [Path.hasNul_child, Bool.or_eq_false_iff] at hnul
  exact hnul.1

/-- The pages of a site that was finished were looked up, before and after the promotion. -/
theorem fits_of_finish (hf : h.faults = []) (hw : h.tree.WellFormed) (hslash : '/' ∉ readme.toList)
    (hrun : (finish outputDir readme).on h = (.ok r, h')) : ∃ k, Directory h outputDir k ∧
      ∀ name, IsSitePage readme name → (h.tree.get? (k ++ [name])).isSome →
        (outputDir.child name).Fits := by
  have hsees : h.SeesAll := .of_nil hf
  obtain ⟨index, h₁, hpromote, hrest⟩ := on_bind_eq_ok.mp hrun
  obtain ⟨ps, h₂, hpages, -⟩ := on_bind_eq_ok.mp hrest
  obtain ⟨-, hne, k, fr, fi, hr, hi, hfr, hfi, -⟩ := (promote_eq_ok hf hslash).mp hpromote
  obtain ⟨-, k', hk, hdir, -, -, he⟩ := (reaches_child_iff (by decide) (by decide)).mp hi
  obtain ⟨rfl, -⟩ := List.append_inj' he rfl
  have hd : Directory h outputDir k :=
    ⟨hasNul_of_finish hf hslash hrun, hk, hdir, fun name => hw.entryName k name⟩
  obtain ⟨-, hfaults, k', hd₁, hk', ht⟩ := of_promote hsees hw hslash hpromote
  rw [hk] at hk'
  cases hk'
  refine ⟨k, hd, fun name hname hsome => ?_⟩
  have hentry := hd.entryName name hsome
  by_cases hreadme : name = pageName readme
  · exact hd.fits_of_locate hentry (hreadme ▸ hr.locate)
  · by_cases hindex : name = indexName
    · exact hd.fits_of_locate hentry (hindex ▸ hi.locate)
    · -- Every other page is still there after the promotion, and was then asked about.
      have hpage : isPageName name = true := hname.resolve_right hreadme
      have hsome₁ : (h₁.tree.get? (k ++ [name])).isSome := by
        rw [ht, get?_promoted hw.toRooted hne hfr hfi, if_neg (by simpa using hindex),
          if_neg (by simpa using hreadme)]
        exact hsome
      obtain ⟨-, -, k', hk', -, hlook, -⟩ := (pages_eq_ok (hfaults.trans hf)).mp hpages
      rw [hd₁.locate] at hk'
      cases hk'
      by_contra hfits
      have hseen := hlook name (List.mem_filter.mpr ⟨Tree.mem_names.mpr hsome₁, hpage⟩)
      rw [hd₁.look_of_not_fits (hsees.of_faults hfaults) hentry hfits] at hseen
      cases hseen

/-- Only a site that is ready can be finished. -/
theorem ready_of_finish (hf : h.faults = []) (hw : h.tree.WellFormed) (hslash : '/' ∉ readme.toList)
    (hrun : (finish outputDir readme).on h = (.ok r, h')) : ∃ k names, Ready h outputDir readme k ∧
      Finished readme k h.tree h'.tree names ∧
      r = ⟨outputDir, outputDir.child indexName, names.map outputDir.child⟩ := by
  obtain ⟨hne, k, fr, fi, h₁, hk, hfr, hfi, hf₁, hk₁, ht₁, rfl, hrelink⟩ :=
    finish_stages hf hw hslash hrun
  obtain ⟨-, hfinished⟩ :=
    finished_of_relinkPages hf₁ hw.toRooted hne hk₁ hfr hfi ht₁ hrelink
  obtain ⟨k', hd, hfits⟩ := fits_of_finish hf hw hslash hrun
  rw [hd.locate] at hk
  cases hk
  refine ⟨k, _, ⟨hd, hne, ⟨fr, hfr⟩, ⟨fi, hfi⟩, hfits, ?_⟩, hfinished, rfl⟩
  intro name f hname hindex hfile
  by_cases hreadme : name = pageName readme
  · obtain ⟨f', -, hf', -, text, htext, -⟩ := hfinished.index
    rw [← hreadme, hfile] at hf'
    cases hf'
    exact ⟨text, htext⟩
  · obtain ⟨-, -, text, htext, -⟩ :=
      hfinished.page name f hreadme hindex (hname.resolve_right hreadme) hfile
    exact ⟨text, htext⟩

end DeckPress.Site
