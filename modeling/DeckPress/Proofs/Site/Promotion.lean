import DeckPress.Proofs.Site.Failures

/-!
# How a promotion ends

The readme page takes the place of the index in two steps: the index is removed, and then the readme
page is moved.  Both pages are looked for before the first step, so that the second one should not
fail.  The readme page is named by a text that may lead anywhere, also to the index itself.

* `LeadsToFile` — the path of a page leads to a file; `look_cases` — or it leads to none, or is too
  long.
* `on_require` — what comes of a look for a page.
* `on_exchange` — the two steps, once both pages are seen.
* `promote_endings` — all the ways in which a promotion ends, and what is left;
  `promote_loses_index` — the one of them in which a page is lost.
-/

namespace DeckPress.Site

open Act

variable {h h' : Host} {outputDir p : Path} {readme : String} {k source target : Loc}
  {f page index : File} {r : Except Failure Path}

/-! ## The two pages -/

/-- The path leads to a file. -/
structure LeadsToFile (h : Host) (p : Path) (k : Loc) (f : File) : Prop extends h.Reaches p k where
  file : h.tree.get? k = some (.file f)

theorem LeadsToFile.ne_nil (hp : LeadsToFile h p k f) : k ≠ [] :=
  Tree.ne_nil_of_not_directory (t := h.tree) (by simp [hp.file])

theorem LeadsToFile.isSome (hp : LeadsToFile h p k f) : (h.tree.get? k).isSome := by
  rw [hp.file]
  rfl

/-- Where another file is removed, the path leads to the same place. -/
theorem LeadsToFile.locate_erase (hp : LeadsToFile h p k f) {q : Path} {d : Loc} {g : File}
    (hq : LeadsToFile h q d g) : (h.tree.erase d).locate h.cwd.names p = .ok k :=
  Tree.locate_mono (directory_erase hq.file) hp.locate

/-- A path is too long to be asked about, leads to no file, or leads to one. -/
theorem look_cases (hf : h.faults = []) (p : Path) :
    h.look p = .error (Errno.nameTooLong.on p) ∨
    (∃ n?, h.look p = .ok n? ∧ n?.any Node.isFile = false) ∨
      ∃ k f, h.look p = .ok (some (.file f)) ∧ LeadsToFile h p k f := by
  cases hlook : h.look p with
  | error c => exact .inl (congrArg _ ((Host.SeesAll.of_nil hf).eq_of_look hlook))
  | ok n? =>
    cases n? with
    | none => exact .inr (.inl ⟨none, rfl, rfl⟩)
    | some n =>
      cases n with
      | directory => exact .inr (.inl ⟨some .directory, rfl, rfl⟩)
      | file f =>
        obtain ⟨hnul, k, hl, hk⟩ := (look_eq_some hf).mp hlook
        exact .inr (.inr ⟨k, f, rfl, ⟨hnul, hl⟩, hk⟩)

/-- An act that needs a file. -/
theorem on_require {α : Type} {e : Failure} {a : Act α} :
    (isFile p >>= fun isFile => if (!isFile) = true then (throw e : Act Unit) >>= fun _ => a
      else a).on h =
      match h.look p with
      | .ok n? => if n?.any Node.isFile then a.on h else (.error e, h)
      | .error c => (.error (.cause c), h) := by
  rw [on_bind, on_isFile]
  cases h.look p with
  | error e => rfl
  | ok n? =>
    dsimp only
    cases n?.any Node.isFile <;> rfl

/-- Whatever text names the document, the path of its page ends in the name of an entry. -/
theorem hasEntryName_page (p : Path) (document : String) :
    Tree.hasEntryName (p / pageName document) = true := by
  obtain ⟨name, hname, hsuffix⟩ :=
    p.exists_last_name document (b := ".html") (by decide) (by decide)
  have hup : name ≠ ".." := by
    rintro rfl
    exact absurd hsuffix (by decide)
  rw [Tree.hasEntryName, pageName, hname]
  simpa using hup

/-! ## The exchange -/

/-- Once both pages are seen, the index is removed and the readme page takes its place, unless it
was the index. -/
theorem on_exchange (hf : h.faults = []) (hw : h.tree.WellFormed)
    (hpage : LeadsToFile h (outputDir / pageName readme) source page)
    (hindex : LeadsToFile h (outputDir / indexName) target index) :
    (do
      Act.unlink (outputDir / indexName)
      Act.rename (outputDir / pageName readme) (outputDir / indexName) : Act Unit).on h =
      if source = target then
        (.error (.cause
          (Errno.noEntry.moving (outputDir / pageName readme) (outputDir / indexName))),
          h.commit (h.tree.erase target))
      else
        (.ok (),
          (h.commit (h.tree.erase target)).commit ((h.tree.erase target).move source target)) := by
  have hunlink : (Act.unlink (outputDir / indexName)).on h =
      (.ok (), h.commit (h.tree.erase target)) :=
    (on_unlink_eq_ok hf).mpr ⟨hindex.hasNul, target, index, hindex.locate, hindex.file, rfl⟩
  have hf' : (h.commit (h.tree.erase target)).faults = [] := hf
  have hrename : (h.commit (h.tree.erase target)).tree.rename
      (h.commit (h.tree.erase target)).cwd.names (outputDir / pageName readme)
      (outputDir / indexName) = (h.tree.erase target).renameAt source target := by
    have hname : Tree.hasEntryName (outputDir / indexName) = true :=
      hasEntryName_page outputDir "index"
    show (h.tree.erase target).rename h.cwd.names _ _ = _
    rw [Tree.rename, hpage.locate_erase hindex, hindex.locate_erase hindex, hasEntryName_page,
      hname]
    rfl
  have hgone : (h.tree.erase target).get? target = none := by
    rw [Tree.get?_erase hindex.ne_nil, if_pos rfl]
  rw [on_bind_of_ok hunlink, on_rename hf' hpage.hasNul hindex.hasNul, hrename]
  by_cases hne : source = target
  · rw [if_pos hne, hne, Tree.renameAt, hgone]
  · have hleft : (h.tree.erase target).get? source = some (.file page) := by
      rw [Tree.get?_erase hindex.ne_nil, if_neg hne, hpage.file]
    have hbelow := hw.toRooted.not_prefix_of_file hpage.file hindex.isSome hne
    have habove := hw.toRooted.not_prefix_of_file hindex.file hpage.isSome (Ne.symm hne)
    rw [if_neg hne, (Tree.renameAt_of_none hleft hgone hbelow habove).mpr rfl]

/-! ## The whole -/

/-- The ways in which a promotion ends: what it gives or fails with, and the tree that is left. -/
inductive Promotion (h : Host) (outputDir : Path) (readme : String) :
    Except Failure Path → Tree → Prop where
  /-- The pages are two files.  The readme page takes the place of the index, and nothing else is
  changed. -/
  | promoted (source target : Loc) (page index : File) (u : Tree)
    (hpage : LeadsToFile h (outputDir / pageName readme) source page)
    (hindex : LeadsToFile h (outputDir / indexName) target index) (hne : source ≠ target)
    (hleads : u.locate h.cwd.names (outputDir / indexName) = .ok target)
    (hu : ∀ q, u.get? q = if q = target then some (.file page)
      else if q = source then none else h.tree.get? q) :
    Promotion h outputDir readme (.ok (outputDir / indexName)) u
  /-- There is no readme page. -/
  | noReadme (n? : Option Node) (hlook : h.look (outputDir / pageName readme) = .ok n?)
    (hnone : n?.any Node.isFile = false) : Promotion h outputDir readme
      (.error (.site { path := outputDir / pageName readme, problem := .noReadme })) h.tree
  /-- There is a readme page, but no index. -/
  | noIndex (source : Loc) (page : File) (n? : Option Node)
    (hpage : LeadsToFile h (outputDir / pageName readme) source page)
    (hlook : h.look (outputDir / indexName) = .ok n?) (hnone : n?.any Node.isFile = false) :
    Promotion h outputDir readme
      (.error (.site { path := outputDir / indexName, problem := .noIndex })) h.tree
  /-- The readme page is the index.  It is removed, and then there is nothing to be moved. -/
  | lost (k : Loc) (f : File) (e : SiteError) (u : Tree)
    (hpage : LeadsToFile h (outputDir / pageName readme) k f)
    (hindex : LeadsToFile h (outputDir / indexName) k f)
    (he : Blames e (outputDir / pageName readme)
      (Errno.noEntry.moving (outputDir / pageName readme) (outputDir / indexName)))
    (hu : ∀ q, u.get? q = if q = k then none else h.tree.get? q) :
    Promotion h outputDir readme (.error (.site e)) u
  /-- The path of one of the pages is too long to be asked about. -/
  | tooLong (p : Path) (hp : p = outputDir / pageName readme ∨ p = outputDir / indexName)
    (hlook : h.look p = .error (Errno.nameTooLong.on p)) :
    Promotion h outputDir readme (.error (.cause (Errno.nameTooLong.on p))) h.tree

/-- Two pages at different places are exchanged. -/
theorem promoted_of_exchange (hw : h.tree.WellFormed)
    (hpage : LeadsToFile h (outputDir / pageName readme) source page)
    (hindex : LeadsToFile h (outputDir / indexName) target index) (hne : source ≠ target) :
    Promotion h outputDir readme (.ok (outputDir / indexName))
      ((h.tree.erase target).move source target) := by
  have hleft : (h.tree.erase target).get? source = some (.file page) := by
    rw [Tree.get?_erase hindex.ne_nil, if_neg hne, hpage.file]
  have hgone : (h.tree.erase target).get? target ≠ some .directory := by
    simp [Tree.get?_erase hindex.ne_nil]
  have hu : ∀ q, ((h.tree.erase target).move source target).get? q =
      if q = target then some (.file page) else if q = source then none else h.tree.get? q := by
    intro q
    rw [(hw.toRooted.erase_file hindex.file).get?_move_file hleft hgone]
    split_ifs with htarget
    · rfl
    · rfl
    · rw [Tree.get?_erase hindex.ne_nil, if_neg htarget]
  -- The way to the index is made of directories, and these are all kept.
  have hkept : ∀ q, h.tree.get? q = some .directory →
      ((h.tree.erase target).move source target).get? q = some .directory := by
    intro q hq
    have htarget : q ≠ target := by
      rintro rfl
      rw [hindex.file] at hq
      cases hq
    have hsource : q ≠ source := by
      rintro rfl
      rw [hpage.file] at hq
      cases hq
    rw [hu, if_neg htarget, if_neg hsource, hq]
  exact .promoted source target page index _ hpage hindex hne
    (Tree.locate_mono hkept hindex.locate) hu

/-- A promotion that succeeds has exchanged two pages. -/
theorem promotion_of_ok (hf : h.faults = []) (hw : h.tree.WellFormed) {place : Path}
    (hrun : (promote outputDir readme).on h = (.ok place, h')) :
    Promotion h outputDir readme (.ok place) h'.tree := by
  unfold promote at hrun
  obtain ⟨_, _, hreadme, hsecond⟩ := on_bind_eq_ok.mp hrun
  obtain ⟨hthere, hsecond⟩ := on_check_eq_ok.mp hsecond
  rw [hthere, on_isFile_true_eq_ok hf] at hreadme
  obtain ⟨rfl, hnul, source, page, hl, hfile⟩ := hreadme
  obtain ⟨_, _, hindex, hthird⟩ := on_bind_eq_ok.mp hsecond
  obtain ⟨hthere, hthird⟩ := on_check_eq_ok.mp hthird
  rw [hthere, on_isFile_true_eq_ok hf] at hindex
  obtain ⟨rfl, hnul', target, index, hl', hfile'⟩ := hindex
  obtain ⟨_, _, hexchange, hend⟩ := on_bind_eq_ok.mp hthird
  obtain ⟨rfl, rfl⟩ := on_pure_eq_ok.mp hend
  have hpage : LeadsToFile _ (outputDir / pageName readme) source page := ⟨⟨hnul, hl⟩, hfile⟩
  have hindex : LeadsToFile _ (outputDir / indexName) target index := ⟨⟨hnul', hl'⟩, hfile'⟩
  rw [on_onFile_eq_ok, on_exchange hf hw hpage hindex] at hexchange
  split_ifs at hexchange with hne
  · cases hexchange
  · cases hexchange
    exact promoted_of_exchange hw hpage hindex hne

/-- **How a promotion ends**, whatever text names the readme document.  It is all or nothing: the
readme page takes the place of the index, or the build fails and the tree is as it was.  There are
two exceptions.  If the path of the readme page leads to the index, the build fails and the index is
lost; and if one of the two paths is too long to be asked about, the failure is not one of the
build. -/
theorem promote_endings (hf : h.faults = []) (hw : h.tree.WellFormed)
    (hrun : (promote outputDir readme).on h = (r, h')) :
    Promotion h outputDir readme r h'.tree := by
  unfold promote at hrun
  rw [on_require] at hrun
  rcases look_cases hf (outputDir / pageName readme) with hr | ⟨n?, hr, hnone⟩ |
    ⟨source, page, hr, hpage⟩
  · rw [hr] at hrun
    cases hrun
    exact .tooLong _ (.inl rfl) hr
  · simp only [hr, hnone] at hrun
    cases hrun
    exact .noReadme n? hr hnone
  simp only [hr, Option.any_some, Node.isFile, if_true] at hrun
  rw [on_require] at hrun
  rcases look_cases hf (outputDir / indexName) with hi | ⟨n?, hi, hnone⟩ |
    ⟨target, index, hi, hindex⟩
  · rw [hi] at hrun
    cases hrun
    exact .tooLong _ (.inr rfl) hi
  · simp only [hi, hnone] at hrun
    cases hrun
    exact .noIndex source page n? hpage hi hnone
  simp only [hi, Option.any_some, Node.isFile, if_true] at hrun
  have hexchange := on_exchange hf hw hpage hindex
  by_cases hne : source = target
  · subst hne
    have hsame := hpage.file.symm.trans hindex.file
    cases hsame
    rw [if_pos rfl] at hexchange
    rw [on_bind_of_error (on_onFile_cause hexchange rfl)] at hrun
    cases hrun
    exact .lost source page _ _ hpage hindex (blames _ _) fun q => Tree.get?_erase hindex.ne_nil
  · rw [if_neg hne] at hexchange
    rw [on_bind_of_ok (on_onFile_eq_ok.mpr hexchange)] at hrun
    cases hrun
    exact promoted_of_exchange hw hpage hindex hne

/-- The readme page of a rendered site, named in a roundabout way. -/
theorem promote_endings_rendered : (hostOf rendered).faults = [] ∧ rendered.WellFormed ∧
    ∃ index h', (promote ⟨.top, ["site"]⟩ "old.html/../README").on (hostOf rendered) =
        (.ok index, h') ∧
      Promotion (hostOf rendered) ⟨.top, ["site"]⟩ "old.html/../README" (.ok index) h'.tree := by
  have hok : ((promote ⟨.top, ["site"]⟩ "old.html/../README").on (hostOf rendered)).1.isOk =
      true := by decide +kernel
  obtain ⟨index, h', hrun⟩ := exists_of_isOk hok
  exact ⟨rfl, wellFormed_rendered, index, h', hrun, promote_endings rfl wellFormed_rendered hrun⟩

/-- The failure of a promotion that moves the index to its own place. -/
def losing : SiteError where
  path := ⟨.top, ["site", "index.html"]⟩
  problem := .failed (Errno.noEntry.moving ⟨.top, ["site", "index.html"]⟩
    ⟨.top, ["site", "index.html"]⟩)

/-- **A promotion can lose the index.**  If the readme document is called `index`, the build fails
after the page is removed. -/
theorem promote_loses_index : (hostOf rendered).faults = [] ∧ rendered.WellFormed ∧
    rendered.isFile ["site", "index.html"] = true ∧ ∃ h',
      (promote ⟨.top, ["site"]⟩ "index").on (hostOf rendered) = (.error (.site losing), h') ∧
      h'.tree.get? ["site", "index.html"] = none := by
  have hfacts : ∀ result, (promote ⟨.top, ["site"]⟩ "index").on (hostOf rendered) = result →
      result.1 = .error (.site losing) ∧
        result.2.tree.get? ["site", "index.html"] = none := by
    rintro result rfl
    decide +kernel
  cases hrun : (promote ⟨.top, ["site"]⟩ "index").on (hostOf rendered) with
  | mk r h' =>
    obtain ⟨he, hgone⟩ := hfacts _ hrun
    cases he
    exact ⟨rfl, wellFormed_rendered, by decide +kernel, h', rfl, hgone⟩

end DeckPress.Site
