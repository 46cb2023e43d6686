import DeckPress.Proofs.Site.Page
import DeckPress.Proofs.Site.Raises

/-!
# What is blamed for a site that cannot be finished

Where the failures that wait are of the file system, or of texts for a page, and no path is too
long, the finishing of a site either succeeds or fails with a failure of the build, which names the
file at fault.  The readme document may have any name.

* `OrdinaryFaults` — the failures that wait; `WithinLimits` — the lengths of the paths.
* `directory_of_promote` — what is known of the directory of a site after its promotion.
* `Offence` — what may be wrong; `offence_of_finish` — something is, if a site is not finished.
* `pages_of_finish` — if it is, the pages of the result are those that are there.
-/

namespace DeckPress.Site

open Act Host

variable {h h' h₁ : Host} {D : Loc → Prop} {I : Host → Prop} {dir index p : Path} {readme : String}
  {r : Result} {f : Failure} {t u : Tree} {k : Loc} {rules : List Links.Rule}

/-! ## Failures and lengths -/

/-- The failures that wait for a build are of the file system, and for a page they may be of texts
as well.  None of them hides what a path is. -/
structure OrdinaryFaults (h : Host) : Prop where
  seesAll : h.SeesAll
  file : ∀ f ∈ h.faults, f.call ∈ [.unlink, .rename, .list] → f.cause.isOs = true
  page : ExpectedPageFaults h

theorem OrdinaryFaults.of_nil (hf : h.faults = []) : OrdinaryFaults h := by
  refine ⟨.of_nil hf, ?_, ?_⟩
  · rw [hf]
    exact List.forall_mem_nil _
  · rw [ExpectedPageFaults, hf]
    exact List.forall_mem_nil _

theorem OrdinaryFaults.of_course (hx : OrdinaryFaults h) (hc : Course D h h₁) :
    OrdinaryFaults h₁ := by
  refine ⟨hx.seesAll.of_faults hc.faults, ?_, ?_⟩
  · rw [hc.faults]
    exact hx.file
  · rw [ExpectedPageFaults, hc.faults]
    exact hx.page

/-- No path that is asked about is too long: neither those of the two pages of the promotion, nor
those of the entries of the directory. -/
structure WithinLimits (h : Host) (dir : Path) (readme : String) : Prop where
  readmePage : (dir / pageName readme).Fits
  index : (dir / indexName).Fits
  entry : ∀ k name, h.locate dir = .ok k → (h.tree.get? (k ++ [name])).isSome →
    (dir.child name).Fits

/-! ## After the promotion -/

/-- After a promotion the directory of the site can be worked on, and it has no entry that it did
not have before. -/
theorem directory_of_promote (hsees : h.SeesAll) (hw : h.tree.WellFormed)
    (hrun : (promote dir readme).on h = (.ok index, h₁)) : ∃ k, h.locate dir = .ok k ∧
      Directory h₁ dir k ∧
      ∀ q, (h₁.tree.get? q).isSome → (h.tree.get? q).isSome := by
  have hcwd : h₁.cwd = h.cwd := ((isQuiet_promote dir readme).course hrun).cwd
  obtain ⟨hspared, -⟩ := outlasts_promote dir readme h index h₁ hsees hrun
  have hends := promotion_of_ok (h := h.spared) rfl hw hspared
  generalize hu : h₁.spared.tree = u at hends
  have htree : h₁.tree = u := hu
  cases hends with
  | promoted source target page index _ hpage hindex hne hleads hview =>
    have hname : dir / indexName = dir.child indexName := Path.div_name dir isProperName_indexName
    rw [hname] at hleads
    obtain ⟨k, hk, hdir, -, -, rfl⟩ :=
      (Tree.locate_child_eq_ok (by decide) (by decide)).mp hleads
    obtain ⟨-, k', hk', -, -, -, he⟩ :=
      (reaches_child_iff (by decide) (by decide)).mp (hname ▸ hindex.toReaches)
    obtain ⟨rfl, -⟩ := List.append_inj' he rfl
    have hwas : ∀ q, (h₁.tree.get? q).isSome → (h.tree.get? q).isSome := by
      intro q hq
      rw [htree, hview] at hq
      split_ifs at hq with htarget hsource
      · rw [htarget]
        exact hindex.isSome
      · cases hq
      · exact hq
    refine ⟨k, hk', ⟨hasNul_of_promote hrun, ?_, by rw [htree, hdir], fun name hsome => ?_⟩, hwas⟩
    · rw [Host.locate, hcwd, htree]
      exact hk
    · exact hw.entryName k name (hwas _ hsome)

/-! ## A site that is not finished -/

/-- The path can be asked about, and no file is there. -/
def IsNoFile (h : Host) (p : Path) : Prop :=
  ∃ n?, h.look p = .ok n? ∧ n?.any Node.isFile = false

/-- The two steps of a promotion. -/
def exchange (dir : Path) (readme : String) : Act Unit := do
  Act.unlink (dir / indexName)
  Act.rename (dir / pageName readme) (dir / indexName)

/-- What is wrong with a site that cannot be finished, and the failure that tells of it; `h` is the
host before, and `h'` the one that is left. -/
inductive Offence (dir : Path) (readme : String) (h h' : Host) : SiteError → Prop where
  /-- There is no page for the readme document. -/
  | noReadme (hnone : IsNoFile h' (dir / pageName readme)) :
    Offence dir readme h h' { path := dir / pageName readme, problem := .noReadme }
  /-- There is no index. -/
  | noIndex (hnone : IsNoFile h' (dir / indexName)) :
    Offence dir readme h h' { path := dir / indexName, problem := .noIndex }
  /-- The pages cannot be exchanged. -/
  | unpromoted (c : Cause) (hc : c.isOs = true)
    (hrun : (exchange dir readme).on h = (.error (.cause c), h')) :
    Offence dir readme h h' { path := dir / pageName readme, problem := .failed c }
  /-- A failure waits for the list of the directory. -/
  | unlisted (c : Cause) (hc : c.isOs = true) (hlist : h'.waiting? .list dir = some c) :
    Offence dir readme h h' { path := dir, problem := .failed c }
  /-- A page cannot be relinked. -/
  | page (name : String) (c : Cause) (hname : isPageName name = true)
    (hc : Hurdle h' (dir.child name) c) :
    Offence dir readme h h' { path := dir.child name, problem := .failed c }

/-- An act on a file of a site, which fails for expected causes only. -/
theorem on_onFile_error {α : Type} {expected : Cause → Bool} {a : Act α}
    (ha : Raises I (OrExpected (fun _ => False) expected) a) (hI : I h)
    (hrun : (onFile p expected a).on h = (.error f, h')) : ∃ c, expected c = true ∧
      a.on h = (.error (.cause c), h') ∧ f = .site { path := p, problem := .failed c } := by
  cases hact : a.on h with
  | mk result h₁ =>
    cases result with
    | ok x =>
      rw [on_onFile_eq_ok.mpr hact] at hrun
      cases hrun
    | error f' =>
      obtain ⟨⟨⟩⟩ | ⟨c, rfl, hc⟩ := ha.of_error hI hact
      rw [on_onFile_cause hact hc] at hrun
      cases hrun
      exact ⟨c, hc, rfl, rfl⟩

/-- The exchange of pages that can be seen fails for causes of the file system only. -/
theorem raises_exchange (hreadme : (dir / pageName readme).hasNul = false)
    (hindex : (dir / indexName).hasNul = false) :
    Raises OrdinaryFaults (OrExpected (fun _ => False) Cause.isOs) (exchange dir readme) := by
  have hx : ExpectsOs OrdinaryFaults (OrExpected (fun _ => False) Cause.isOs) :=
    ⟨fun hc hx => hx.of_course hc, fun _ => .inr ⟨_, rfl, rfl⟩⟩
  have hwait : ∀ call ∈ [.unlink, .rename, .list],
      Awaits OrdinaryFaults (OrExpected (fun _ => False) Cause.isOs) call :=
    fun _ hcall _ hx f hf he => .inr ⟨_, rfl, hx.file f hf (he ▸ hcall)⟩
  exact (raises_unlink hx (hwait _ (by simp)) (by simp [hindex])).seq fun _ =>
    raises_rename hx (hwait _ (by simp)) (by simp [hreadme]) (by simp [hindex])

theorem offence_of_promote (hx : OrdinaryFaults h) (hlimits : WithinLimits h dir readme)
    (hrun : (promote dir readme).on h = (.error f, h')) :
    ∃ e, f = .site e ∧ Offence dir readme h h' e := by
  have hnul : ∀ {p : Path} {n? : Option Node}, h.look p = .ok n? → n?.any Node.isFile = true →
      p.hasNul = false := by
    intro p n? hlook hfile
    refine hasNul_of_seesFile (h := h) ?_
    rw [Host.seesFile, hlook]
    exact hfile
  obtain ⟨n?, hlook⟩ := exists_look (hx.seesAll.free _) hlimits.readmePage
  unfold promote at hrun
  rw [on_require, hlook] at hrun
  cases hreadme : n?.any Node.isFile with
  | false =>
    simp only [hreadme] at hrun
    cases hrun
    exact ⟨_, rfl, .noReadme ⟨n?, hlook, hreadme⟩⟩
  | true =>
    obtain ⟨m?, hlook'⟩ := exists_look (hx.seesAll.free _) hlimits.index
    simp only [hreadme, if_true] at hrun
    rw [on_require, hlook'] at hrun
    cases hindex : m?.any Node.isFile with
    | false =>
      simp only [hindex] at hrun
      cases hrun
      exact ⟨_, rfl, .noIndex ⟨m?, hlook', hindex⟩⟩
    | true =>
      simp only [hindex, if_true] at hrun
      rcases on_bind_eq_error.mp hrun with hrun | ⟨_, _, -, hrun⟩
      · obtain ⟨c, hc, hexchange, rfl⟩ := on_onFile_error
          (raises_exchange (hnul hlook hreadme) (hnul hlook' hindex)) hx hrun
        exact ⟨_, rfl, .unpromoted c hc hexchange⟩
      · cases hrun

theorem offence_of_pages (hx : OrdinaryFaults h') (hd : Directory h' dir k)
    (hentry : ∀ name, (h'.tree.get? (k ++ [name])).isSome → (dir.child name).Fits)
    (hrun : (pages dir).on h' = (.error f, h₁)) :
    h₁ = h' ∧ ∃ e, f = .site e ∧ Offence dir readme h h' e := by
  cases hlist : h'.waiting? .list dir with
  | some c =>
    have hc : c.isOs = true := by
      obtain ⟨f, hf, hcall, rfl⟩ := Host.exists_of_waiting? hlist
      exact hx.file f hf (by simp [hcall])
    rw [pages_unlisted hlist hc] at hrun
    cases hrun
    exact ⟨rfl, _, rfl, .unlisted c hc hlist⟩
  | none =>
    rw [pages_listed hd hx.seesAll hlist fun name hname =>
      hentry name (Tree.mem_names.mp (List.mem_filter.mp hname).1)] at hrun
    cases hrun

/-- Pages are relinked up to the first one that fails. -/
theorem relinkPages_error {ps : List Path} (hrun : (relinkPages rules ps).on h = (.error f, h')) :
    ∃ page ∈ ps, ∃ h₁, Course (fun _ => True) h h₁ ∧
      (relinkPage rules page).on h₁ = (.error f, h') := by
  induction ps generalizing h with
  | nil => cases hrun
  | cons page ps ih =>
    rcases on_bind_eq_error.mp hrun with hrun | ⟨_, h₁, hpage, hrun⟩
    · exact ⟨page, by simp, h, .refl _ h, hrun⟩
    · have hcourse := (isQuiet_relinkPage rules page).course hpage
      obtain ⟨other, hother, h₂, hcourse', hrun⟩ := ih hrun
      exact ⟨other, List.mem_cons_of_mem _ hother, h₂, hcourse.trans hcourse', hrun⟩

theorem hurdle_of_relinkPage (hx : ExpectedPageFaults h) (hnul : p.hasNul = false)
    (hrun : (relinkPage rules p).on h = (.error f, h')) :
    h' = h ∧ ∃ c, f = .site { path := p, problem := .failed c } ∧ Hurdle h p c := by
  rcases hurdle_or_relinkable h hnul with ⟨c, hc⟩ | ⟨k, g, text, hp⟩
  · rw [relinkPage_of_hurdle hx hnul hc] at hrun
    cases hrun
    exact ⟨rfl, c, rfl, hc⟩
  · rw [on_relinkPage rules hp] at hrun
    cases hrun

/-- **If a site cannot be finished, something in it is to blame**: a page that is missing, the
readme page if it cannot be moved, the directory if it cannot be listed, or a page that cannot be
relinked.  Nothing else comes out of it. -/
theorem offence_of_finish (hx : OrdinaryFaults h) (hw : h.tree.WellFormed)
    (hlimits : WithinLimits h dir readme) (hrun : (finish dir readme).on h = (.error f, h')) :
    ∃ e, f = .site e ∧ Offence dir readme h h' e := by
  unfold finish at hrun
  rcases on_bind_eq_error.mp hrun with hrun | ⟨index, h₁, hpromote, hrun⟩
  · exact offence_of_promote hx hlimits hrun
  have hx₁ : OrdinaryFaults h₁ := hx.of_course ((isQuiet_promote dir readme).course hpromote)
  obtain ⟨k, hk, hd, hwas⟩ := directory_of_promote hx.seesAll hw hpromote
  rcases on_bind_eq_error.mp hrun with hrun | ⟨ps, h₂, hpages, hrun⟩
  · obtain ⟨rfl, hoffence⟩ := offence_of_pages hx₁ hd
      (fun name hsome => hlimits.entry k name hk (hwas _ hsome)) hrun
    exact hoffence
  cases (isQuery_pages dir).eq hpages
  rcases on_bind_eq_error.mp hrun with hrun | ⟨_, _, -, hrun⟩
  · obtain ⟨page, hmem, h₂, hcourse, hrun⟩ := relinkPages_error hrun
    obtain ⟨rfl, c, rfl, hc⟩ := hurdle_of_relinkPage (hx₁.of_course hcourse).page
      (hasNul_of_mem_pages hpages page hmem) hrun
    obtain ⟨name, hname, rfl⟩ := child_of_mem_pages hpages hmem
    exact ⟨_, rfl, .page name c hname hc⟩
  · cases hrun

/-! ## A site that is finished -/

theorem pageNames_congr (hsame : ∀ name, isPageName name = true →
    t.isFile (k ++ [name]) = u.isFile (k ++ [name])) : pageNames t k = pageNames u k := by
  refine (pairwise_pageNames t k).eq_of_mem_iff (pairwise_pageNames u k) fun name => ?_
  simp only [mem_pageNames, ← isFile_eq_true]
  exact and_congr_right fun hname => by rw [hsame name hname]

/-- The file holds the text of a page that was relinked for the readme document. -/
def HoldsRelinked (readme : String) (g : File) : Prop :=
  ∃ text, g.bytes = Utf8.encode (Links.relink (Links.Rule.forReadme readme.toList) text)

/-- **If a site is finished, the pages of the result are those that are there**: all the pages of
its directory and nothing else, each once, and each holds a text that was relinked. -/
theorem pages_of_finish (hsees : h.SeesAll) (hw : h.tree.WellFormed)
    (hrun : (finish dir readme).on h = (.ok r, h')) : r.outputDir = dir ∧ ∃ k,
      h'.locate dir = .ok k ∧ r.pages = (pageNames h'.tree k).map dir.child ∧
      ∀ name ∈ pageNames h'.tree k, ∃ g, h'.tree.get? (k ++ [name]) = some (.file g) ∧
        HoldsRelinked readme g := by
  obtain ⟨hspared, -⟩ := outlasts_finish dir readme h r h' hsees hrun
  unfold finish at hspared
  simp only [on_bind_eq_ok, on_pure_eq_ok] at hspared
  obtain ⟨index, h₁, hpromote, ps, h₂, hpages, _, h₃, hrelink, rfl, he⟩ := hspared
  cases he
  have hf₁ : h₁.faults = [] := ((isQuiet_promote dir readme).course hpromote).faults
  obtain ⟨k, -, hd, -⟩ := directory_of_promote (h := h.spared)
    (SeesAll.of_nil rfl) hw hpromote
  obtain ⟨rfl, rfl⟩ := pages_of_eq_ok hf₁ hd.locate hd.entryName hpages
  obtain ⟨hk', hkept, hpage⟩ := relinkPages_effect hf₁ hd.locate
    (fun name hn => names_of_isPageName (mem_pageNames.mp hn).1) (nodup_pageNames _ _) hrelink
  -- The relinking takes no file away, and it makes none.
  have hsame : pageNames h'.tree k = pageNames h₂.tree k := by
    refine pageNames_congr fun name hname => ?_
    by_cases hn : name ∈ pageNames h₂.tree k
    · obtain ⟨f, g, hf, hg, -⟩ := hpage name hn
      have hg : h'.tree.get? (k ++ [name]) = some (.file g) := hg
      rw [isFile_eq_true.mpr ⟨f, hf⟩, isFile_eq_true.mpr ⟨g, hg⟩]
    · have hkeep : h'.tree.get? (k ++ [name]) = h₂.tree.get? (k ++ [name]) := by
        refine hkept _ fun other hother he => ?_
        rw [List.append_cancel_left_eq, List.singleton_inj] at he
        exact hn (he ▸ hother)
      rw [Tree.isFile, Tree.isFile, hkeep]
  refine ⟨rfl, k, hk', by rw [hsame], fun name hn => ?_⟩
  rw [hsame] at hn
  obtain ⟨f, g, -, hg, text, -, hbytes, -⟩ := hpage name hn
  exact ⟨g, hg, text, hbytes⟩

end DeckPress.Site
