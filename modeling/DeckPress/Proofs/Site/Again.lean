import DeckPress.Proofs.Site.Build
import DeckPress.Proofs.Site.Course
import DeckPress.Proofs.Site.Ready
import DeckPress.Proofs.Text.Utf8
import DeckPress.Proofs.Tree.Again

/-!
# Building a site twice

A second rendering puts the pages of the renderer over the finished site, so that what it leaves is
a mixture: pages as they were rendered, and old pages whose links were replaced already.  Finishing
that mixture gives the finished site again, because relinking a relinked page changes nothing.

* `wellFormed_finish` — the tree stays well-formed.
* `Rerendered` — what a second rendering leaves; `Rerendered.cases` — each place is as after the
  first one, or an old page that is relinked already.
* `Rerendered.ready` — it can be finished, and `Finished.again` — what that gives.
* `WritesAt` — a renderer that writes the same files; `exists_rerendered` — what its next call
  leaves.
* `build_twice` — the result.
-/

namespace DeckPress

open Act

namespace Site

variable {h h' : Host} {outputDir : Path} {readme name : String} {names names' : List String}
  {k q : Loc} {t u s v : Tree} {f f' g g' fr fi : File} {rules : List Links.Rule} {r : Result}

/-! ## The finished site is well-formed -/

theorem wellFormed_promoted (hw : t.WellFormed) (hne : pageName readme ≠ indexName)
    (hfr : t.get? (k ++ [pageName readme]) = some (.file fr))
    (hfi : t.get? (k ++ [indexName]) = some (.file fi)) : (promoted t k readme).WellFormed := by
  have hsome : ∀ q, ((promoted t k readme).get? q).isSome → (t.get? q).isSome := by
    intro q hq
    rw [get?_promoted hw.toRooted hne hfr hfi] at hq
    split at hq
    · rename_i hindex
      rw [hindex, hfi]
      rfl
    · split at hq
      · cases hq
      · exact hq
  refine ⟨⟨?_, fun q name hq => ?_⟩, fun q name hq => hw.entryName q name (hsome _ hq)⟩
  · rw [promoted, Tree.nodes_move_nil (by simp) (by simp), Tree.nodes_erase_nil (by simp), hw.top]
  · exact directory_promoted hw.toRooted hne hfr hfi q (hw.parent q name (hsome _ hq))

theorem wellFormed_relinkPages {ps : List Path} (hf : h.faults = []) (hw : h.tree.WellFormed)
    {x : Unit} (hrun : (relinkPages rules ps).on h = (.ok x, h')) : h'.tree.WellFormed := by
  induction ps generalizing h with
  | nil =>
    obtain ⟨-, rfl⟩ := on_pure_eq_ok.mp hrun
    exact hw
  | cons p ps ih =>
    obtain ⟨b, h₁, hstep, hrest⟩ := on_bind_eq_ok.mp hrun
    obtain ⟨k, f, text, -, hfile, -, -, he⟩ := (relinkPage_eq_ok hf).mp hstep
    have hf₁ : h₁.faults = [] := by
      rw [he]
      exact hf
    have hw₁ : h₁.tree.WellFormed := by
      rw [he]
      exact hw.set_file hfile
    exact ih hf₁ hw₁ hrest

theorem wellFormed_finish (hf : h.faults = []) (hw : h.tree.WellFormed)
    (hslash : '/' ∉ readme.toList) (hrun : (finish outputDir readme).on h = (.ok r, h')) :
    h'.tree.WellFormed := by
  obtain ⟨hne, k, fr, fi, h₁, -, hfr, hfi, hf₁, -, ht, -, hrelink⟩ :=
    finish_stages hf hw hslash hrun
  refine wellFormed_relinkPages hf₁ ?_ hrelink
  rw [ht]
  exact wellFormed_promoted hw hne hfr hfi

/-! ## What finishing touches -/

/-- A place is that of the readme page, of the index or of another page, or finishing the site
leaves it alone. -/
theorem touched_cases (readme : String) (k : Loc) (t : Tree) (q : Loc) :
    q = k ++ [pageName readme] ∨ q = k ++ [indexName] ∨
      (∃ name f, q = k ++ [name] ∧ name ≠ pageName readme ∧ name ≠ indexName ∧
        isPageName name = true ∧ t.get? q = some (.file f)) ∨
      ∀ name, q = k ++ [name] → name ≠ pageName readme ∧ name ≠ indexName ∧
        ¬ (isPageName name = true ∧ t.isFile q = true) := by
  by_cases hreadme : q = k ++ [pageName readme]
  · exact .inl hreadme
  by_cases hindex : q = k ++ [indexName]
  · exact .inr (.inl hindex)
  refine .inr (.inr ?_)
  by_cases hpage : ∃ name f, q = k ++ [name] ∧ isPageName name = true ∧ t.get? q = some (.file f)
  · obtain ⟨name, f, rfl, hname, hfile⟩ := hpage
    exact .inl ⟨name, f, rfl, fun he => hreadme (he ▸ rfl), fun he => hindex (he ▸ rfl), hname,
      hfile⟩
  · refine .inr fun name hq => ⟨fun he => hreadme (he ▸ hq), fun he => hindex (he ▸ hq), ?_⟩
    rintro ⟨hname, hfile⟩
    obtain ⟨f, hf⟩ := isFile_eq_true.mp hfile
    exact hpage ⟨name, f, hq, hname, hf⟩

theorem Finished.sameDirectories (hf : Finished readme k t u names)
    (hfi : t.get? (k ++ [indexName]) = some (.file fi)) : Tree.SameDirectories u t := by
  intro q
  rcases touched_cases readme k t q with rfl | rfl | ⟨name, f, rfl, hr, hi, hname, hfile⟩ | hkept
  · obtain ⟨f, -, hfr, -⟩ := hf.index
    rw [hf.readmePage, hfr]
    simp
  · obtain ⟨-, g, -, hg, -⟩ := hf.index
    rw [hg, hfi]
    simp
  · obtain ⟨g, hg, -⟩ := hf.page name f hr hi hname hfile
    rw [hg, hfile]
    simp
  · rw [hf.kept q hkept]

/-! ## Relinking twice -/

/-- What a page becomes depends on its contents alone. -/
theorem Relinked.timeless_eq (h1 : Relinked rules f g) (h2 : Relinked rules f' g')
    (hbytes : f'.bytes = f.bytes) (hexec : f'.isExecutable = f.isExecutable) :
    (Node.file g').timeless = (Node.file g).timeless := by
  obtain ⟨text, htext, hg, hx⟩ := h1
  obtain ⟨text', htext', hg', hx'⟩ := h2
  rw [hbytes, htext] at htext'
  cases htext'
  simp [Node.timeless, hg, hg', hx, hx', hexec]

/-- A page that was relinked stays as it is when it is relinked again. -/
theorem Relinked.again (hdetached : Text.Detached (pageName readme).toList indexName.toList)
    (h1 : Relinked (Links.Rule.forReadme readme.toList) f g)
    (h2 : Relinked (Links.Rule.forReadme readme.toList) g g') :
    (Node.file g').timeless = (Node.file g).timeless := by
  obtain ⟨text, -, hg, -⟩ := h1
  obtain ⟨text', htext', hg', hx'⟩ := h2
  rw [hg, Utf8.decode_encode] at htext'
  cases htext'
  rw [pageName, String.toList_append] at hdetached
  have hnormal := Links.isNormal_relink hdetached text
  rw [Links.relink_of_isNormal (fun _ => Links.search_ne_nil) hnormal] at hg'
  simp [Node.timeless, hg, hg', hx']

/-! ## A finished site that is rendered again -/

/-- The tree `s` is what a second rendering leaves of the finished site `u`, where the first one
left the tree `t`. -/
structure Rerendered (readme : String) (k : Loc) (t u s : Tree) : Prop where
  readmePage : s.contents (k ++ [pageName readme]) = t.contents (k ++ [pageName readme])
  index : s.contents (k ++ [indexName]) = t.contents (k ++ [indexName])
  between : ∀ q, s.contents q = t.contents q ∨ s.get? q = u.get? q

/-- A second rendering leaves at a place what the first one left, or an old page as it was
relinked. -/
theorem Rerendered.cases (hs : Rerendered readme k t u s) (hf : Finished readme k t u names)
    (q : Loc) : s.contents q = t.contents q ∨ ∃ name f g, q = k ++ [name] ∧
      name ≠ pageName readme ∧ name ≠ indexName ∧ isPageName name = true ∧
      t.get? q = some (.file f) ∧ u.get? q = some (.file g) ∧ s.get? q = some (.file g) ∧
      Relinked (Links.Rule.forReadme readme.toList) f g := by
  rcases hs.between q with hsame | hold
  · exact .inl hsame
  rcases touched_cases readme k t q with rfl | rfl | ⟨name, f, rfl, hr, hi, hname, hfile⟩ | hkept
  · exact .inl hs.readmePage
  · exact .inl hs.index
  · obtain ⟨g, hg, hrel⟩ := hf.page name f hr hi hname hfile
    exact .inr ⟨name, f, g, rfl, hr, hi, hname, hfile, hg, hold.trans hg, hrel⟩
  · exact .inl (Tree.contents_congr (hold.trans (hf.kept q hkept)))

theorem Rerendered.isFile (hs : Rerendered readme k t u s) (hf : Finished readme k t u names)
    (q : Loc) : s.isFile q = t.isFile q := by
  rcases hs.cases hf q with hsame | ⟨name, f, g, -, -, -, -, ht, -, hold, -⟩
  · exact Tree.isFile_congr hsame
  · rw [isFile_eq_true.mpr ⟨g, hold⟩, isFile_eq_true.mpr ⟨f, ht⟩]

theorem Rerendered.directory (hs : Rerendered readme k t u s) (hf : Finished readme k t u names)
    (q : Loc) (hq : t.get? q = some .directory) : s.get? q = some .directory := by
  rcases hs.cases hf q with hsame | ⟨name, f, g, -, -, -, -, ht, -⟩
  · rw [← Tree.contents_eq_directory, hsame, Tree.contents_eq_directory, hq]
  · rw [hq] at ht
    cases ht

theorem Rerendered.isSome (hs : Rerendered readme k t u s) (hf : Finished readme k t u names)
    (hsome : (s.get? q).isSome) : (t.get? q).isSome := by
  rcases hs.cases hf q with hsame | ⟨name, f, g, -, -, -, -, ht, -⟩
  · rw [← Option.isSome_map (f := Node.timeless), ← Tree.contents, ← hsame, Tree.contents,
      Option.isSome_map]
    exact hsome
  · rw [ht]
    rfl

/-- What a second rendering leaves can be finished as well. -/
theorem Rerendered.ready (hs : Rerendered readme k h.tree u h'.tree)
    (hf : Finished readme k h.tree u names) (hcwd : h'.cwd = h.cwd) (hw : h'.tree.WellFormed)
    (hready : Ready h outputDir readme k) : Ready h' outputDir readme k := by
  have hdirectory := hs.directory hf
  have hfile : ∀ q, (∃ f, h.tree.get? q = some (.file f)) →
      ∃ f, h'.tree.get? q = some (.file f) := by
    intro q hq
    rw [← isFile_eq_true] at hq ⊢
    rw [hs.isFile hf, hq]
  refine ⟨⟨hready.hasNul, ?_, hdirectory k hready.directory, fun name => hw.entryName k name⟩,
    hready.distinct, hfile _ hready.readmePage, hfile _ hready.index,
    fun name hname hsome => hready.fits name hname (hs.isSome hf hsome), ?_⟩
  · rw [Host.locate, hcwd]
    exact Tree.locate_mono hdirectory hready.locate
  · intro name f hname hindex hpage
    rcases hs.cases hf (k ++ [name]) with hsame | ⟨_, _, g, _, _, _, _, _, _, hold, text, -, hg, -⟩
    · obtain ⟨f', hf', hbytes, -⟩ := Tree.exists_file_of_contents hpage hsame.symm
      rw [← hbytes]
      exact hready.text name f' hname hindex hf'
    · rw [hpage] at hold
      cases hold
      exact ⟨_, by rw [hg, Utf8.decode_encode]⟩

/-- Finishing what a second rendering leaves gives the finished site again. -/
theorem Finished.again (hdetached : Text.Detached (pageName readme).toList indexName.toList)
    (hu : Finished readme k t u names) (hs : Rerendered readme k t u s)
    (hv : Finished readme k s v names') :
    names' = names ∧ ∀ q, v.contents q = u.contents q := by
  constructor
  · refine hv.sorted.eq_of_mem_iff hu.sorted fun name => ?_
    rw [hv.mem_names, hu.mem_names, hs.isFile hu]
  intro q
  rcases touched_cases readme k t q with rfl | rfl | ⟨name, f, rfl, hr, hi, hname, hfile⟩ | hkept
  · exact Tree.contents_congr (hv.readmePage.trans hu.readmePage.symm)
  · -- The index is made from the readme page, which is as it was rendered first.
    obtain ⟨f, g, hf, hg, hrel⟩ := hu.index
    obtain ⟨f', g', hf', hg', hrel'⟩ := hv.index
    obtain ⟨f'', hf'', hbytes, hexec⟩ := Tree.exists_file_of_contents hf hs.readmePage
    rw [hf'] at hf''
    cases hf''
    rw [Tree.contents, Tree.contents, hg, hg', Option.map_some, Option.map_some,
      hrel.timeless_eq hrel' hbytes hexec]
  · obtain ⟨g, hg, hrel⟩ := hu.page name f hr hi hname hfile
    obtain ⟨f', hf'⟩ : ∃ f', s.get? (k ++ [name]) = some (.file f') := by
      rw [← isFile_eq_true, hs.isFile hu]
      exact isFile_eq_true.mpr ⟨f, hfile⟩
    obtain ⟨g', hg', hrel'⟩ := hv.page name f' hr hi hname hf'
    rw [Tree.contents, Tree.contents, hg, hg', Option.map_some, Option.map_some]
    rcases hs.cases hu (k ++ [name]) with hsame | ⟨_, _, g₀, -, -, -, -, -, hg₀, hold, -⟩
    · -- The page was rendered again.
      obtain ⟨f'', hf'', hbytes, hexec⟩ := Tree.exists_file_of_contents hfile hsame
      rw [hf'] at hf''
      cases hf''
      rw [hrel.timeless_eq hrel' hbytes hexec]
    · -- The page is an old one.
      rw [hg] at hg₀
      rw [hf'] at hold
      cases hg₀
      cases hold
      rw [hrel.again hdetached hrel']
  · have hkept' : ∀ name, q = k ++ [name] → name ≠ pageName readme ∧ name ≠ indexName ∧
        ¬ (isPageName name = true ∧ s.isFile q = true) := by
      rw [hs.isFile hu]
      exact hkept
    rw [Tree.contents_congr (hv.kept q hkept'), Tree.contents_congr (hu.kept q hkept)]
    rcases hs.cases hu q with hsame | ⟨name, f, g, hq, -, -, hname, hfile, -⟩
    · exact hsame
    · exact absurd ⟨hname, isFile_eq_true.mpr ⟨f, hfile⟩⟩ (hkept name hq).2.2

/-! ## Renderers that write the same files -/

/-- Files that make a site: the readme page and the index are among them, and each has a name that a
file can have. -/
structure MakesSite (files : List (String × Node)) (readme : String) : Prop where
  readmePage : ∃ f, (pageName readme, Node.file f) ∈ files
  index : ∃ f, (indexName, Node.file f) ∈ files
  hasNul : ∀ e ∈ files, (Path.ofString e.1).hasNul = false

/-- Where a renderer is called on the host `h`, it writes the files and nothing else, and it
succeeds if they can be written.  The times that they are given may be others on every call. -/
structure WritesAt (files : List (String × Node)) (outputDir : Path) (render : Act Unit)
    (h : Host) : Prop where
  writes : ∀ h', render.on h = (.ok (), h') → h'.cwd = h.cwd ∧ h'.faults = h.faults ∧
    ∃ files', Tree.SameFiles files files' ∧
      Tree.filled h.cwd.names outputDir files' h.tree = .ok h'.tree
  succeeds : ∀ t, Tree.filled h.cwd.names outputDir files h.tree = .ok t →
    ∃ h', render.on h = (.ok (), h')

variable {files files' : List (String × Node)} {render : Act Unit} {h₁ h₂ : Host}

theorem MakesSite.congr (hmakes : MakesSite files readme) (hsame : Tree.SameFiles files files') :
    MakesSite files' readme := by
  have hfile : ∀ name, (∃ f, (name, Node.file f) ∈ files) → ∃ f, (name, Node.file f) ∈ files' := by
    rintro name ⟨f, hf⟩
    obtain ⟨⟨_, n⟩, hmem, rfl, hn⟩ := hsame.exists_mem hf
    cases n with
    | directory => cases hn
    | file g => exact ⟨g, hmem⟩
  refine ⟨hfile _ hmakes.readmePage, hfile _ hmakes.index, fun e he => ?_⟩
  obtain ⟨e', he', hname, -⟩ := Tree.SameFiles.exists_mem hsame.symm he
  rw [← hname]
  exact hmakes.hasNul e' he'

/-- A renderer that writes the same files on every call does so where no failure waits. -/
theorem writesAt_writing (hf : h.faults = []) (contentDir theme : Path) :
    WritesAt files outputDir (Rendering.writing files contentDir outputDir theme) h := by
  constructor
  · intro h' hrun
    unfold Rendering.writing at hrun
    obtain ⟨_, h₁, hrecord, hrun⟩ := on_bind_eq_ok.mp hrun
    cases hrecord
    rw [on_get_bind] at hrun
    split at hrun
    · rename_i t hfill
      cases hrun
      refine ⟨rfl, rfl, files, rfl, ?_⟩
      rw [Tree.filled, ← shows_of_faults hf]
      exact hfill
    · obtain ⟨_, _, -, hfail⟩ := on_bind_eq_ok.mp hrun
      cases on_fail_eq_ok.mp hfail
  · intro t hfill
    rw [Tree.filled, ← shows_of_faults hf] at hfill
    let called : Host :=
      { h with events := .rendering contentDir outputDir theme :: h.events }
    have hrecord : (record (.rendering contentDir outputDir theme)).on h = (.ok (), called) := rfl
    refine ⟨called.commit t, ?_⟩
    unfold Rendering.writing
    rw [on_bind_of_ok hrecord, on_get_bind]
    split
    · rename_i t' hfill'
      cases hfill.symm.trans hfill'
      rfl
    · rename_i hfill'
      cases hfill.symm.trans hfill'

/-- Once the site is finished, its renderer can be called again, and leaves a mixture of what it
left before and of the finished site. -/
theorem exists_rerendered (hf : h.faults = []) (hw : h.tree.WellFormed)
    (hcwd : h.tree.get? h.cwd.names = some .directory) (hdir : outputDir.IsProper)
    (hslash : '/' ∉ readme.toList) (hmakes : MakesSite files readme)
    (hwrites : WritesAt files outputDir render h) (hrender : render.on h = (.ok (), h₁))
    (hfinish : (finish outputDir readme).on h₁ = (.ok r, h₂))
    (hwrites' : WritesAt files outputDir render h₂) : ∃ k names h₃,
      Ready h₁ outputDir readme k ∧ Finished readme k h₁.tree h₂.tree names ∧
      r = ⟨outputDir, outputDir.child indexName, names.map outputDir.child⟩ ∧
      render.on h₂ = (.ok (), h₃) ∧ h₃.faults = [] ∧ h₃.cwd = h₁.cwd ∧ h₃.tree.WellFormed ∧
      Rerendered readme k h₁.tree h₂.tree h₃.tree := by
  obtain ⟨hcwd₁, hf₁, files₁, hsame, hfill⟩ := hwrites.writes h₁ hrender
  rw [hf] at hf₁
  have hmakes₁ := hmakes.congr hsame
  have hnul := hasNul_of_finish hf₁ hslash hfinish
  have hw₁ : h₁.tree.WellFormed := hw.filled hcwd hdir hnul hmakes₁.hasNul hfill
  obtain ⟨k, names, hready, hfinished, hr⟩ := ready_of_finish hf₁ hw₁ hslash hfinish
  obtain ⟨fi, hfi⟩ := hready.index
  have hdirs := hfinished.sameDirectories hfi
  -- Finishing the site changes files only.
  have hquiet := (isQuiet_finish outputDir readme).course hfinish
  have hcwd₂ : h₂.cwd = h.cwd := hquiet.cwd.trans hcwd₁
  -- The renderer can be called again.
  obtain ⟨t, ht, -⟩ := Tree.exists_filled_again hfill hdirs hsame.symm
  rw [← hcwd₂] at ht
  obtain ⟨h₃, hrender'⟩ := hwrites'.succeeds t ht
  obtain ⟨hcwd₃, hf₃, files₃, hsame₃, hfill₃⟩ := hwrites'.writes h₃ hrender'
  rw [hcwd₂] at hfill₃
  obtain ⟨v, hv, hover, hputs⟩ := Tree.exists_filled_again hfill hdirs (hsame.symm.trans hsame₃)
  rw [hfill₃] at hv
  cases hv
  have hput : ∀ name, Path.IsProperName name → name ≠ ".." →
      (∃ f, (name, Node.file f) ∈ files₁) →
        h₃.tree.contents (k ++ [name]) = h₁.tree.contents (k ++ [name]) := by
    rintro name hname hup ⟨f, hmem⟩
    obtain ⟨k', g, hl, -, hcontents⟩ := hputs name f hmem
    rw [Path.div_name _ hname, ← hcwd₁] at hl
    obtain ⟨k'', hk, -, -, -, rfl⟩ := (Tree.locate_child_eq_ok hname.1 hup).mp hl
    have hlocate := hready.locate
    rw [Host.locate, hk] at hlocate
    cases hlocate
    exact hcontents
  have hcwd' : h₂.tree.get? h.cwd.names = some .directory :=
    (hdirs _).mpr ((Tree.keepsKinds_filled hfill).directory _ hcwd)
  have hw₂ := wellFormed_finish hf₁ hw₁ hslash hfinish
  have hw₃ := hw₂.filled hcwd' hdir hnul (hmakes.congr hsame₃).hasNul hfill₃
  refine ⟨k, names, h₃, hready, hfinished, hr, hrender', ?_, ?_, hw₃, ?_, ?_, ?_⟩
  · rw [hf₃, hquiet.faults, hf₁]
  · rw [hcwd₃, hcwd₂, hcwd₁]
  · exact hput _ (isProperName_pageName hslash) (pageName_ne (by decide) readme)
      hmakes₁.readmePage
  · exact hput _ isProperName_indexName (by decide) hmakes₁.index
  · intro q
    rcases hover q with ⟨-, hsame⟩ | ⟨hold, -⟩
    · exact .inl hsame
    · exact .inr hold

/-! ## The whole -/

variable {root : Path} {answer : Act Unit} {renderer? : Option Renderer}
  {settings? : Option Settings} {settings : Settings} {outputDir? : Option Path} {job : Job}

/-- **Building twice is building once.**  If a site was built, whatever was in its directory before,
then it can be built again with the same arguments; the result is the same, and every place of the
tree holds what it held after the first build.  No failure waits, the settings are the same on both
calls, whether they are given or read from the settings file, the renderer writes the same files on
both calls, the readme page and the index among them, and the name of the readme page is detached
from that of the index. -/
theorem build_twice (hf : h.faults = []) (hw : h.tree.WellFormed)
    (hcwd : h.tree.get? h.cwd.names = some .directory)
    (hjob : jobOf answer root renderer? settings outputDir? = .ok job)
    (hdir : job.outputDir.IsProper) (hslash : '/' ∉ job.readme.toList)
    (hdetached : Text.Detached (pageName job.readme).toList indexName.toList)
    (hmakes : MakesSite files job.readme)
    (hrun : (build answer root renderer? settings? outputDir?).on h = (.ok r, h₁))
    (hsettings : ∀ g ∈ [h, h₁], (settingsOf root settings?).on g = (.ok settings, g))
    (hwrites : ∀ g ∈ [h, h₁], WritesAt files job.outputDir job.render g) :
    ∃ h₂, (build answer root renderer? settings? outputDir?).on h₁ = (.ok r, h₂) ∧
      ∀ q, h₂.tree.contents q = h₁.tree.contents q := by
  obtain ⟨settings', h₀, job', hR, hs, hjob', hrender, hfinish⟩ := build_eq_ok_of_job.mp hrun
  rw [hsettings h (by simp)] at hs
  cases hs
  rw [hjob] at hjob'
  cases hjob'
  obtain ⟨k, names, hR', hready, hfinished, rfl, hrender', hf', hcwd', hw', hrerendered⟩ :=
    exists_rerendered hf hw hcwd hdir hslash hmakes (hwrites h (by simp)) hrender hfinish
      (hwrites h₁ (by simp))
  have hready' := hrerendered.ready hfinished hcwd' hw' hready
  obtain ⟨h₂, names', hfinish', hfinished'⟩ := finish_of_ready hf' hw' hslash hready'
  obtain ⟨rfl, hcontents⟩ := hfinished.again hdetached hrerendered hfinished'
  exact ⟨h₂, build_eq_ok_of_job.mpr
    ⟨settings, h₁, job, hR', hsettings h₁ (by simp), hjob, hrender', hfinish'⟩, hcontents⟩

/-! ## A project -/

/-- A project with an earlier site, in which a page is left of slides that are gone. -/
def outdated : Tree :=
  let file (text : String) : Node := .file ⟨Utf8.encode text.toList, 0, false⟩
  ((((∅ : Tree).set ["project"] .directory).set ["project", "_static"] .directory).set
    ["project", "_static", "index.html"] (file "welcome")).set ["project", "_static", "old.html"]
    (file "<a href=\"README.md\">")

/-- What the renderer makes of the slides of today. -/
def deck : List (String × Node) :=
  let file (text : String) : Node := .file ⟨Utf8.encode text.toList, 0, false⟩
  [("README.html", file "<a href=\"intro.md\">"), ("index.html", file "generic"),
    ("intro.html", file "<a href=\"README.md\">")]

theorem makesSite_deck : MakesSite deck "README" :=
  ⟨⟨_, List.mem_cons_self⟩, ⟨_, List.mem_cons_of_mem _ List.mem_cons_self⟩, by
    unfold deck
    decide +kernel⟩

/-- The project can be built twice. -/
theorem build_twice_outdated : outdated.WellFormed ∧ MakesSite deck "README" ∧
    Text.Detached (pageName "README").toList indexName.toList ∧ ∃ r h₁ h₂,
      (build (pure ()) ⟨.top, ["project"]⟩ (some (Rendering.writing deck))
        (some Settings.default)).on (hostOf outdated) = (.ok r, h₁) ∧
      (build (pure ()) ⟨.top, ["project"]⟩ (some (Rendering.writing deck))
        (some Settings.default)).on h₁ = (.ok r, h₂) ∧
      ∀ q, h₂.tree.contents q = h₁.tree.contents q := by
  have hw : outdated.WellFormed := by decide +kernel
  have hdetached : Text.Detached (pageName "README").toList indexName.toList := by decide
  have hjob : jobOf (pure ()) ⟨.top, ["project"]⟩ (some (Rendering.writing deck)) Settings.default
      none = .ok ⟨Rendering.writing deck ⟨.top, ["project", "markdown", "workshop"]⟩
        ⟨.top, ["project", "_static"]⟩ ⟨.top, ["project", "themes", "simplabs.css"]⟩,
        ⟨.top, ["project", "_static"]⟩, "README"⟩ := rfl
  obtain ⟨r, h₁, hrun⟩ : ∃ r h₁, (build (pure ()) ⟨.top, ["project"]⟩
      (some (Rendering.writing deck)) (some Settings.default)).on (hostOf outdated) = (.ok r, h₁) :=
    exists_of_isOk (by decide +kernel)
  have hf₁ : h₁.faults = [] := by
    have hnone : ((build (pure ()) ⟨.top, ["project"]⟩ (some (Rendering.writing deck))
        (some Settings.default)).on (hostOf outdated)).2.faults = [] := by decide +kernel
    rwa [hrun] at hnone
  have hfaults : ∀ g ∈ [hostOf outdated, h₁], g.faults = [] := by
    rw [List.forall_mem_cons, List.forall_mem_singleton]
    exact ⟨rfl, hf₁⟩
  obtain ⟨h₂, hagain, hsame⟩ := build_twice rfl hw rfl hjob (by decide) (by decide) hdetached
    makesSite_deck hrun (fun _ _ => rfl) fun g hg => writesAt_writing (hfaults g hg) _ _
  exact ⟨hw, makesSite_deck, hdetached, r, h₁, h₂, hrun, hagain, hsame⟩

end Site

end DeckPress
