import DeckPress.Proofs.Site.Course

/-!
# How the relinking of pages ends

The pages of a site are relinked one after the other, and the first one that cannot be read, is no
text or cannot be written ends this.  What is left then is known exactly: the pages before it are
relinked, and all else is as the promotion left it.

* `obstacle?` — what keeps a page from being relinked; `relinkPage_stops` and `relinkPage_passes`
  are the two ways in which relinking a page ends.
* `relinkPages_passes` — the run of the loop over pages without obstacles, by induction on them.
* `finish_endings` — all the ways in which finishing a site ends once the promotion is done.
-/

namespace DeckPress

open Act

namespace Site

variable {α : Type} {h h₁ h' : Host} {outputDir page p : Path} {readme name : String}
  {names : List String} {k : Loc} {t u v : Tree} {f g : File} {rules : List Links.Rule} {c : Cause}
  {text : Text}

/-- The failure of a build at a file, for a cause that is its own and that it was chained to. -/
structure Blames (e : SiteError) (p : Path) (c : Cause) : Prop where
  path : e.path = p
  cause : e.cause? = some c
  chained : e.isChained = true
  run : e.run? = none

theorem blames (p : Path) (c : Cause) : Blames { path := p, problem := .failed c } p c :=
  ⟨rfl, rfl, rfl, rfl⟩

theorem on_onFile_cause {expected : Cause → Bool} {a : Act α}
    (ha : a.on h = (.error (.cause c), h')) (hc : expected c = true) :
    (onFile p expected a).on h = (.error (.site { path := p, problem := .failed c }), h') := by
  rw [onFile, on_bind, on_attempt, ha]
  simp only [hc, if_true]
  rfl

/-! ## One page -/

/-- What keeps a page from being relinked: it cannot be read, it is no text, or it cannot be
written.  What is met first counts. -/
def obstacle? (h : Host) (page : Path) (f : File) : Option Cause :=
  match h.waiting? .read page, Utf8.decode f.bytes with
  | some c, _ => some c
  | none, .error e => some (.undecodable e)
  | none, .ok _ => h.waiting? .write page

theorem obstacle?_congr (hf : h'.faults = h.faults) (hcwd : h'.cwd = h.cwd) :
    obstacle? h' page f = obstacle? h page f := by
  rw [obstacle?, obstacle?, Host.waiting?_congr hf hcwd, Host.waiting?_congr hf hcwd]

theorem on_readPage (hreach : h.Reaches page k) (hfile : h.tree.get? k = some (.file f)) :
    (readPage page).on h =
      match h.waiting? .read page with
      | some c => (.error (.cause c), h)
      | none => (.ok f.bytes, h) := by
  have hopen : (openFile page).on h = (.ok f, h) :=
    on_lookUp_eq_ok.mpr ⟨hreach.hasNul, rfl, k, hreach.locate, Tree.readFile_eq_ok.mpr hfile⟩
  rw [readPage, on_bind, on_heed]
  cases h.waiting? .read page with
  | some c => rfl
  | none => exact on_bind_eq_ok.mpr ⟨f, h, hopen, rfl⟩

theorem on_writePage (hreach : h.Reaches page k) (hfile : h.tree.get? k = some (.file f))
    (bytes : List UInt8) : (writePage page bytes).on h =
      match h.waiting? .write page with
      | some c => (.error (.cause c), h)
      | none => (.ok (), { h.commit (h.tree.set k (.file ⟨bytes, h.stamp, f.isExecutable⟩)) with
          stamp := h.stamp + 1 }) := by
  have hwritten : written h.tree k bytes h.stamp = ⟨bytes, h.stamp, f.isExecutable⟩ := by
    simp [written, hfile]
  have hset : h.tree.writeFile k (written h.tree k bytes h.stamp) =
      .ok (h.tree.set k (.file ⟨bytes, h.stamp, f.isExecutable⟩)) := by
    rw [hwritten]
    exact Tree.writeFile_eq_ok.mpr ⟨by simp [hfile], rfl⟩
  have hedit : (edit page fun t k => t.writeFile k (written t k bytes h.stamp)).on h =
      (.ok (), h.commit (h.tree.set k (.file ⟨bytes, h.stamp, f.isExecutable⟩))) :=
    on_edit_eq_ok.mpr ⟨hreach.hasNul, k, _, hreach.locate, hset, rfl⟩
  rw [writePage, on_bind, on_heed]
  cases h.waiting? .write page with
  | some c => rfl
  | none =>
    show (get >>= _ : Act Unit).on h = _
    rw [on_get_bind]
    exact on_bind_of_ok hedit

/-- A page with an obstacle ends the build, and is not touched. -/
theorem relinkPage_stops (hreach : h.Reaches page k) (hfile : h.tree.get? k = some (.file f))
    (hc : obstacle? h page f = some c) (hcause : isPageCause c = true) :
    (relinkPage rules page).on h = (.error (.site { path := page, problem := .failed c }), h) := by
  refine on_onFile_cause ?_ hcause
  have hread := on_readPage hreach hfile
  rw [obstacle?] at hc
  cases hf : h.waiting? .read page with
  | some c' =>
    rw [hf] at hc hread
    cases hc
    exact on_bind_of_error hread
  | none =>
    rw [hf] at hread
    rw [on_bind_of_ok hread]
    cases htext : Utf8.decode f.bytes with
    | error e =>
      rw [hf, htext] at hc
      cases hc
      rfl
    | ok text =>
      rw [hf, htext] at hc
      have hwrite := on_writePage hreach hfile (Utf8.encode (Links.relink rules text))
      have hc : h.waiting? .write page = some c := hc
      rw [hc] at hwrite
      have hlift : (lift ((Except.ok text).mapError Cause.undecodable)).on h = (.ok text, h) := rfl
      rw [on_bind_of_ok hlift]
      exact on_bind_of_error hwrite

/-- A page without an obstacle is replaced by what its text becomes under the rules. -/
theorem relinkPage_passes (rules : List Links.Rule) (hreach : h.Reaches page k)
    (hfile : h.tree.get? k = some (.file f))
    (hfree : obstacle? h page f = none) : ∃ b text, Utf8.decode f.bytes = .ok text ∧
      (relinkPage rules page).on h = (.ok b,
        { h.commit (h.tree.set k (.file (relinkedFile rules f text h.stamp))) with
          stamp := h.stamp + 1 }) := by
  have hread := on_readPage hreach hfile
  rw [obstacle?] at hfree
  cases hf : h.waiting? .read page with
  | some c =>
    rw [hf] at hfree
    cases hfree
  | none =>
    cases htext : Utf8.decode f.bytes with
    | error e =>
      rw [hf, htext] at hfree
      cases hfree
    | ok text =>
      rw [hf, htext] at hfree
      rw [hf] at hread
      have hwrite := on_writePage hreach hfile (Utf8.encode (Links.relink rules text))
      have hfree : h.waiting? .write page = none := hfree
      rw [hfree] at hwrite
      refine ⟨decide (Links.relink rules text ≠ text), text, rfl, on_onFile_eq_ok.mpr ?_⟩
      refine on_bind_eq_ok.mpr ⟨f.bytes, h, hread, ?_⟩
      rw [htext]
      exact on_bind_eq_ok.mpr ⟨text, h, on_lift_eq_ok.mpr ⟨rfl, rfl⟩,
        on_bind_eq_ok.mpr ⟨(), _, hwrite, rfl⟩⟩

/-! ## The loop over the pages -/

/-- The tree `u` is `t` with the pages of the given names in the directory `k` relinked, and with
nothing else changed. -/
structure RelinkedJust (rules : List Links.Rule) (k : Loc) (names : List String) (t u : Tree) :
    Prop where
  page : ∀ name ∈ names, ∃ f g, t.get? (k ++ [name]) = some (.file f) ∧
    u.get? (k ++ [name]) = some (.file g) ∧ Relinked rules f g
  kept : ∀ q, (∀ name ∈ names, q ≠ k ++ [name]) → u.get? q = t.get? q

theorem RelinkedJust.nil : RelinkedJust rules k [] t t := ⟨by simp, fun _ _ => rfl⟩

theorem RelinkedJust.cons (hstep : RelinkedJust rules k [name] t u)
    (hrest : RelinkedJust rules k names u v) (hnot : name ∉ names) :
    RelinkedJust rules k (name :: names) t v := by
  have hother : ∀ other ∈ names, k ++ [other] ≠ k ++ [name] := by
    intro other hn he
    rw [List.append_cancel_left_eq, List.singleton_inj] at he
    exact hnot (he ▸ hn)
  constructor
  · intro other hn
    rcases List.mem_cons.mp hn with rfl | hn
    · obtain ⟨f, g, hf, hg, hrel⟩ := hstep.page other (List.mem_singleton_self _)
      exact ⟨f, g, hf, by rw [hrest.kept _ fun n hn => (hother n hn).symm, hg], hrel⟩
    · obtain ⟨f, g, hf, hg, hrel⟩ := hrest.page other hn
      refine ⟨f, g, ?_, hg, hrel⟩
      rw [← hf, hstep.kept]
      simpa using hother other hn
  · intro q hq
    rw [List.forall_mem_cons] at hq
    rw [hrest.kept q hq.2, hstep.kept q (by simpa using hq.1)]

theorem RelinkedJust.directory (hu : RelinkedJust rules k names t u) {r : Loc}
    (hr : t.get? r = some .directory) : u.get? r = some .directory := by
  rw [hu.kept r, hr]
  rintro name hn rfl
  obtain ⟨f, -, hf, -⟩ := hu.page name hn
  rw [hf] at hr
  cases hr

/-- Pages that can be looked up, in the directory of a site. -/
structure Listed (h : Host) (outputDir : Path) (k : Loc) (names : List String) : Prop where
  nodup : names.Nodup
  reaches : ∀ name ∈ names, h.Reaches (outputDir.child name) (k ++ [name])
  file : ∀ name ∈ names, ∃ f, h.tree.get? (k ++ [name]) = some (.file f)

/-- The files of the pages can be relinked. -/
def Unhindered (h : Host) (outputDir : Path) (k : Loc) (names : List String) : Prop :=
  ∀ name ∈ names, ∀ f, h.tree.get? (k ++ [name]) = some (.file f) →
    obstacle? h (outputDir.child name) f = none

/-- The host after pages were relinked: other files, but the same paths and failures. -/
structure Passed (rules : List Links.Rule) (k : Loc) (names : List String) (h h' : Host) :
    Prop where
  faults : h'.faults = h.faults
  cwd : h'.cwd = h.cwd
  relinked : RelinkedJust rules k names h.tree h'.tree

theorem Passed.reaches (hp : Passed rules k names h h') {q : Loc} (hq : h.Reaches p q) :
    h'.Reaches p q := by
  refine ⟨hq.hasNul, ?_⟩
  rw [Host.locate, hp.cwd]
  exact Tree.locate_mono (fun r hr => hp.relinked.directory hr) hq.locate

/-- One page without an obstacle is relinked, and no other place is touched. -/
theorem relinkPage_passed (rules : List Links.Rule)
    (hreach : h.Reaches (outputDir.child name) (k ++ [name]))
    (hfile : h.tree.get? (k ++ [name]) = some (.file f))
    (hfree : obstacle? h (outputDir.child name) f = none) : ∃ b h',
      (relinkPage rules (outputDir.child name)).on h = (.ok b, h') ∧
        Passed rules k [name] h h' := by
  obtain ⟨b, text, htext, hrun⟩ := relinkPage_passes rules hreach hfile hfree
  have hview : ∀ q, (h.tree.set (k ++ [name]) (.file (relinkedFile rules f text h.stamp))).get? q =
      if q = k ++ [name] then some (.file (relinkedFile rules f text h.stamp))
      else h.tree.get? q := fun q => Tree.get?_set (by simp)
  refine ⟨b, _, hrun, rfl, rfl, ?_, ?_⟩
  · intro other hother
    rw [List.mem_singleton.mp hother]
    refine ⟨f, relinkedFile rules f text h.stamp, hfile, ?_, text, htext, rfl, rfl⟩
    show (h.tree.set _ _).get? _ = _
    rw [hview, if_pos rfl]
  · intro q hq
    show (h.tree.set _ _).get? q = _
    rw [hview, if_neg (hq name (List.mem_singleton_self _))]

theorem Listed.passed (hl : Listed h outputDir k (name :: names))
    (hp : Passed rules k [name] h h') : Listed h' outputDir k names := by
  obtain ⟨hnot, hnodup⟩ := List.nodup_cons.mp hl.nodup
  refine ⟨hnodup, fun other hn => hp.reaches (hl.reaches other (List.mem_cons_of_mem _ hn)),
    fun other hn => ?_⟩
  obtain ⟨f, hf⟩ := hl.file other (List.mem_cons_of_mem _ hn)
  refine ⟨f, ?_⟩
  rw [hp.relinked.kept, hf]
  intro n hn' he
  rw [List.mem_singleton.mp hn', List.append_cancel_left_eq, List.singleton_inj] at he
  exact hnot (he ▸ hn)

/-- Pages without obstacles are all relinked, and nothing else is touched. -/
theorem relinkPages_passes (rules : List Links.Rule) (hl : Listed h outputDir k names)
    (hfree : Unhindered h outputDir k names) :
    ∃ h', (relinkPages rules (names.map outputDir.child)).on h = (.ok (), h') ∧
      Passed rules k names h h' := by
  induction names generalizing h with
  | nil => exact ⟨h, rfl, rfl, rfl, .nil⟩
  | cons first names ih =>
    obtain ⟨f, hfile⟩ := hl.file first List.mem_cons_self
    obtain ⟨b, h₁, hstep, hpassed⟩ := relinkPage_passed rules
      (hl.reaches first List.mem_cons_self) hfile (hfree first List.mem_cons_self f hfile)
    obtain ⟨hnot, -⟩ := List.nodup_cons.mp hl.nodup
    have hfree₁ : Unhindered h₁ outputDir k names := by
      intro other hn g hg
      rw [obstacle?_congr hpassed.faults hpassed.cwd]
      refine hfree other (List.mem_cons_of_mem _ hn) g ?_
      rw [← hg, hpassed.relinked.kept]
      intro n hn' he
      rw [List.mem_singleton.mp hn', List.append_cancel_left_eq, List.singleton_inj] at he
      exact hnot (he ▸ hn)
    obtain ⟨h', hrest, hpassed'⟩ := ih (hl.passed hpassed) hfree₁
    refine ⟨h', ?_, hpassed'.faults.trans hpassed.faults, hpassed'.cwd.trans hpassed.cwd,
      hpassed.relinked.cons hpassed'.relinked hnot⟩
    rw [List.map_cons, relinkPages, on_bind_eq_ok]
    exact ⟨b, h₁, hstep, hrest⟩

theorem on_relinkPages_append {ps qs : List Path}
    (hps : (relinkPages rules ps).on h = (.ok (), h₁)) :
    (relinkPages rules (ps ++ qs)).on h = (relinkPages rules qs).on h₁ := by
  induction ps generalizing h with
  | nil =>
    cases hps
    rfl
  | cons p ps ih =>
    obtain ⟨b, h₂, hp, hps⟩ := on_bind_eq_ok.mp hps
    rw [List.cons_append, relinkPages, on_bind_of_ok hp]
    exact ih hps

/-- The first page with an obstacle ends the loop: the pages before it are relinked, and nothing
else is touched. -/
theorem relinkPages_stops (rules : List Links.Rule) {before after : List String}
    (hl : Listed h outputDir k (before ++ name :: after)) (hfree : Unhindered h outputDir k before)
    (hfile : h.tree.get? (k ++ [name]) = some (.file f))
    (hc : obstacle? h (outputDir.child name) f = some c) (hcause : isPageCause c = true) :
    ∃ h', (relinkPages rules ((before ++ name :: after).map outputDir.child)).on h =
        (.error (.site { path := outputDir.child name, problem := .failed c }), h') ∧
      Passed rules k before h h' := by
  have hbefore : Listed h outputDir k before :=
    ⟨(List.nodup_append.mp hl.nodup).1,
      fun n hn => hl.reaches n (List.mem_append_left _ hn),
      fun n hn => hl.file n (List.mem_append_left _ hn)⟩
  obtain ⟨h', hrun, hpassed⟩ := relinkPages_passes rules hbefore hfree
  have hnot : ∀ n ∈ before, k ++ [name] ≠ k ++ [n] := by
    intro n hn he
    rw [List.append_cancel_left_eq, List.singleton_inj] at he
    exact (List.nodup_append.mp hl.nodup).2.2 n hn name List.mem_cons_self he.symm
  have hreach : h'.Reaches (outputDir.child name) (k ++ [name]) :=
    hpassed.reaches (hl.reaches name (by simp))
  have hfile' : h'.tree.get? (k ++ [name]) = some (.file f) := by
    rw [hpassed.relinked.kept _ hnot, hfile]
  have hc' : obstacle? h' (outputDir.child name) f = some c := by
    rw [obstacle?_congr hpassed.faults hpassed.cwd, hc]
  refine ⟨h', ?_, hpassed⟩
  rw [List.map_append, List.map_cons, on_relinkPages_append hrun]
  exact on_bind_of_error (relinkPage_stops hreach hfile' hc' hcause)

/-! ## The list of the pages -/

end Site

theorem Tree.size_le_of_walk {t : Tree} {here q : Loc} {names : List String}
    (hw : t.walk here names = .ok q) : ∀ name ∈ names, name.utf8ByteSize ≤ nameLimit := by
  induction names generalizing here with
  | nil => simp
  | cons name names ih =>
    obtain ⟨-, hsize, hw⟩ := walk_cons_eq_ok.mp hw
    rw [List.forall_mem_cons]
    exact ⟨hsize, ih hw⟩

namespace Site

/-- The directory of a site: it can be looked up, and its entries have names of entries. -/
structure Directory (h : Host) (outputDir : Path) (k : Loc) : Prop where
  hasNul : outputDir.hasNul = false
  locate : h.locate outputDir = .ok k
  directory : h.tree.get? k = some .directory
  entryName : ∀ name, (h.tree.get? (k ++ [name])).isSome → Tree.IsEntryName name

theorem Directory.hasNul_child (hd : Directory h outputDir k) (hname : Tree.IsEntryName name) :
    (outputDir.child name).hasNul = false := by
  have hlast : name.toList.contains '\x00' = false := by simpa using hname.2.2.2.2
  rw [Path.hasNul_child, hd.hasNul, hlast]
  rfl

theorem Directory.reaches (hd : Directory h outputDir k) (hname : Tree.IsEntryName name)
    (hfits : (outputDir.child name).Fits) : h.Reaches (outputDir.child name) (k ++ [name]) :=
  (reaches_child_iff hname.1 hname.2.2.1).mpr ⟨hd.hasNul_child hname, k, hd.locate, hd.directory,
    hfits.1, hfits.2 name (by simp), rfl⟩

/-- What is at an entry of the directory can be seen unless its path is too long. -/
theorem Directory.look_of_fits (hd : Directory h outputDir k) (hsees : h.SeesAll)
    (hname : Tree.IsEntryName name) (hfits : (outputDir.child name).Fits) :
    h.look (outputDir.child name) = .ok (h.tree.get? (k ++ [name])) := by
  rw [look_of_free (hsees.free _) (hd.hasNul_child hname), (hd.reaches hname hfits).locate]

/-- What is found has a path that is not too long, and neither is one of its names. -/
theorem Directory.fits_of_locate (hd : Directory h outputDir k) (hname : Tree.IsEntryName name)
    {q : Loc} (hl : h.locate (outputDir.child name) = .ok q) : (outputDir.child name).Fits := by
  obtain ⟨-, -, -, hsize, hlast, -⟩ := (Tree.locate_child_eq_ok hname.1 hname.2.2.1).mp hl
  have hnames := Tree.size_le_of_walk (Tree.locate_eq_walk.mp hd.locate).2
  refine ⟨hsize, ?_⟩
  rw [Path.names_child, List.forall_mem_append]
  exact ⟨hnames, by simpa using hlast⟩

theorem Directory.look_of_not_fits (hd : Directory h outputDir k) (hsees : h.SeesAll)
    (hname : Tree.IsEntryName name) (hfits : ¬ (outputDir.child name).Fits) :
    h.look (outputDir.child name) = .error (Errno.nameTooLong.on (outputDir.child name)) := by
  rw [look_of_free (hsees.free _) (hd.hasNul_child hname)]
  cases hl : h.locate (outputDir.child name) with
  | ok q => exact absurd (hd.fits_of_locate hname hl) hfits
  | error e =>
    rw [Tree.locate_child_eq_error hd.locate hd.directory hl]
    rfl

/-- The names in a directory that are those of pages; what they name need not be a file. -/
def candidates (t : Tree) (k : Loc) : List String := (t.names k).filter isPageName

theorem pageNames_eq (t : Tree) (k : Loc) :
    pageNames t k = (candidates t k).filter fun name => t.isFile (k ++ [name]) := by
  rw [pageNames, candidates, List.filter_filter]
  simp only [Bool.and_comm]

theorem Directory.entryName_of_candidate (hd : Directory h outputDir k)
    (hname : name ∈ candidates h.tree k) : Tree.IsEntryName name :=
  hd.entryName name (Tree.mem_names.mp (List.mem_filter.mp hname).1)

theorem Directory.on_list (hd : Directory h outputDir k) (hlist : h.waiting? .list outputDir = none) :
    (onFile outputDir Cause.isOs (Act.list outputDir)).on h = (.ok (h.tree.names k), h) := by
  have hlook : (lookUp outputDir Tree.entries).on h = (.ok (h.tree.names k), h) :=
    on_lookUp_eq_ok.mpr ⟨hd.hasNul, rfl, k, hd.locate,
      Tree.entries_eq_ok.mpr ⟨hd.directory, rfl⟩⟩
  rw [on_onFile_eq_ok, Act.list, on_bind, on_heed, hlist]
  exact hlook

/-- A failure that waits for the list ends the build at the directory. -/
theorem pages_unlisted (hlist : h.waiting? .list outputDir = some c) (hc : c.isOs = true) :
    (pages outputDir).on h = (.error (.site { path := outputDir, problem := .failed c }), h) := by
  have hrun : (Act.list outputDir).on h = (.error (.cause c), h) := by
    rw [Act.list, on_bind, on_heed, hlist]
  exact on_bind_of_error (on_onFile_cause hrun hc)

/-- The pages are listed if no path is too long. -/
theorem pages_listed (hd : Directory h outputDir k) (hsees : h.SeesAll)
    (hlist : h.waiting? .list outputDir = none)
    (hfits : ∀ name ∈ candidates h.tree k, (outputDir.child name).Fits) :
    (pages outputDir).on h = (.ok ((pageNames h.tree k).map outputDir.child), h) := by
  have hlook : ∀ name ∈ candidates h.tree k,
      h.look (outputDir.child name) = .ok (h.tree.get? (k ++ [name])) := fun name hn =>
    hd.look_of_fits hsees (hd.entryName_of_candidate hn) (hfits name hn)
  have hsees' : ∀ name ∈ candidates h.tree k,
      (h.seesFile ∘ outputDir.child) name = h.tree.isFile (k ++ [name]) := by
    intro name hn
    rw [Function.comp_apply, Host.seesFile, hlook name hn]
    rfl
  refine on_bind_eq_ok.mpr ⟨_, h, hd.on_list hlist, on_keep_isFile_eq_ok.mpr ⟨rfl, ?_, ?_⟩⟩
  · intro p hp
    obtain ⟨name, hn, rfl⟩ := List.mem_map.mp hp
    rw [hlook name hn]
    rfl
  · rw [List.filter_map, ← candidates, List.filter_congr hsees', ← pageNames_eq]

/-- The pages of a directory can be looked up if no path is too long. -/
theorem Directory.listed (hd : Directory h outputDir k)
    (hfits : ∀ name ∈ candidates h.tree k, (outputDir.child name).Fits) :
    Listed h outputDir k (pageNames h.tree k) := by
  have hpage : ∀ name ∈ pageNames h.tree k, name ∈ candidates h.tree k := by
    intro name hn
    rw [pageNames_eq] at hn
    exact (List.mem_filter.mp hn).1
  refine ⟨nodup_pageNames _ _, fun name hn => ?_, fun name hn => (mem_pageNames.mp hn).2⟩
  exact hd.reaches (hd.entryName_of_candidate (hpage name hn)) (hfits name (hpage name hn))

theorem on_keep_isFile_error {before after : List Path}
    (hbefore : ∀ q ∈ before, (h.look q).isOk = true) (hp : h.look p = .error c) :
    (keep isFile (before ++ p :: after)).on h = (.error (.cause c), h) := by
  induction before with
  | nil =>
    rw [List.nil_append, keep, on_bind, on_isFile, hp]
  | cons q before ih =>
    obtain ⟨hq, hbefore⟩ := List.forall_mem_cons.mp hbefore
    have hfirst : (isFile q).on h = (.ok (h.seesFile q), h) :=
      on_isFile_eq_ok.mpr ⟨rfl, hq, rfl⟩
    rw [List.cons_append, keep, on_bind_of_ok hfirst]
    exact on_bind_of_error (ih hbefore)

/-- The first path that is too long makes the list fail, and the failure is not one of the
build. -/
theorem pages_tooLong (hd : Directory h outputDir k) (hsees : h.SeesAll)
    (hlist : h.waiting? .list outputDir = none) {before after : List String}
    (hsplit : candidates h.tree k = before ++ name :: after)
    (hbefore : ∀ other ∈ before, (outputDir.child other).Fits)
    (hname : ¬ (outputDir.child name).Fits) :
    (pages outputDir).on h =
      (.error (.cause (Errno.nameTooLong.on (outputDir.child name))), h) := by
  have hentry : ∀ other ∈ before ++ name :: after, Tree.IsEntryName other := fun other hn =>
    hd.entryName_of_candidate (hsplit ▸ hn)
  rw [pages, on_bind_of_ok (hd.on_list hlist), ← candidates, hsplit, List.map_append, List.map_cons]
  refine on_keep_isFile_error ?_ (hd.look_of_not_fits hsees (hentry name (by simp)) hname)
  intro q hq
  obtain ⟨other, hn, rfl⟩ := List.mem_map.mp hq
  rw [hd.look_of_fits hsees (hentry other (List.mem_append_left _ hn)) (hbefore other hn)]
  rfl

/-! ## The whole -/

/-- The promotion leaves a directory whose pages can be listed, in another tree. -/
theorem of_promote (hsees : h.SeesAll) (hw : h.tree.WellFormed) (hslash : '/' ∉ readme.toList)
    {index : Path} (hrun : (promote outputDir readme).on h = (.ok index, h₁)) :
    index = outputDir.child indexName ∧ h₁.faults = h.faults ∧
      ∃ k, Directory h₁ outputDir k ∧ h.locate outputDir = .ok k ∧
        h₁.tree = promoted h.tree k readme := by
  obtain ⟨hspared, hfaults⟩ := outlasts_promote outputDir readme h index h₁ hsees hrun
  obtain ⟨rfl, hne, k, fr, fi, hr, hi, hfr, hfi, he⟩ :=
    (promote_eq_ok (h := h.spared) rfl hslash).mp hspared
  have htree : h₁.spared.tree = promoted h.tree k readme := by rw [he]; rfl
  have hcwd : h₁.spared.cwd = h.cwd := by rw [he]; rfl
  change h₁.tree = _ at htree
  change h₁.cwd = _ at hcwd
  obtain ⟨hnul, k', hk, hdir, -, -, hkk⟩ := (reaches_child_iff (by decide) (by decide)).mp hi
  obtain ⟨rfl, -⟩ := List.append_inj' hkk rfl
  have hkeep := directory_promoted hw.toRooted hne hfr hfi
  rw [Path.hasNul_child, Bool.or_eq_false_iff] at hnul
  refine ⟨rfl, hfaults, k, ⟨hnul.1, ?_, ?_, ?_⟩, hk, htree⟩
  · rw [Host.locate, htree, hcwd]
    exact Tree.locate_mono hkeep hk
  · rw [htree]
    exact hkeep k hdir
  · intro name hsome
    rw [htree, get?_promoted hw.toRooted hne hfr hfi] at hsome
    split at hsome
    · rename_i hname
      rw [List.append_cancel_left_eq, List.singleton_inj] at hname
      rw [hname]
      decide
    · split at hsome
      · cases hsome
      · exact hw.entryName k name hsome

theorem exists_first {β : Type} {P : β → Prop} {l : List β} (hl : ¬ ∀ x ∈ l, P x) :
    ∃ before x after, l = before ++ x :: after ∧ (∀ y ∈ before, P y) ∧ ¬ P x := by
  classical
  induction l with
  | nil => exact absurd (by simp) hl
  | cons y l ih =>
    by_cases hy : P y
    · have hl' : ¬ ∀ x ∈ l, P x := fun hall => hl (List.forall_mem_cons.mpr ⟨hy, hall⟩)
      obtain ⟨before, x, after, rfl, hbefore, hx⟩ := ih hl'
      exact ⟨y :: before, x, after, rfl, List.forall_mem_cons.mpr ⟨hy, hbefore⟩, hx⟩
    · exact ⟨[], y, l, rfl, by simp, hy⟩

/-- The ways in which a site is finished once the promotion has left the host `h`, with the
directory of the site at `k`: what the build ends with, and the tree that is left. -/
inductive Ending (h : Host) (outputDir : Path) (readme : String) (k : Loc) :
    Except Failure Result → Tree → Prop where
  /-- The directory cannot be listed. -/
  | unlisted (c : Cause) (e : SiteError) (hlist : h.waiting? .list outputDir = some c)
    (he : Blames e outputDir c) : Ending h outputDir readme k (.error (.site e)) h.tree
  /-- The path of an entry with the name of a page is too long to be asked about. -/
  | tooLong (before after : List String) (name : String)
    (hlist : h.waiting? .list outputDir = none)
    (hsplit : candidates h.tree k = before ++ name :: after)
    (hbefore : ∀ other ∈ before, (outputDir.child other).Fits)
    (hname : ¬ (outputDir.child name).Fits) :
    Ending h outputDir readme k
      (.error (.cause (Errno.nameTooLong.on (outputDir.child name)))) h.tree
  /-- No page has an obstacle, and all are relinked. -/
  | finished (u : Tree) (hlist : h.waiting? .list outputDir = none)
    (hfits : ∀ name ∈ candidates h.tree k, (outputDir.child name).Fits)
    (hfree : Unhindered h outputDir k (pageNames h.tree k))
    (hu : RelinkedJust (Links.Rule.forReadme readme.toList) k (pageNames h.tree k) h.tree u) :
    Ending h outputDir readme k (.ok ⟨outputDir, outputDir.child indexName,
      (pageNames h.tree k).map outputDir.child⟩) u
  /-- A page has an obstacle, and just the pages before it are relinked. -/
  | stopped (before after : List String) (name : String) (f : File) (c : Cause) (e : SiteError)
    (u : Tree) (hlist : h.waiting? .list outputDir = none)
    (hfits : ∀ name ∈ candidates h.tree k, (outputDir.child name).Fits)
    (hsplit : pageNames h.tree k = before ++ name :: after)
    (hfree : Unhindered h outputDir k before)
    (hfile : h.tree.get? (k ++ [name]) = some (.file f))
    (hc : obstacle? h (outputDir.child name) f = some c)
    (he : Blames e (outputDir.child name) c)
    (hu : RelinkedJust (Links.Rule.forReadme readme.toList) k before h.tree u) :
    Ending h outputDir readme k (.error (.site e)) u

/-- Failures of the file system wait for lists, and such failures and those of a text for reading
and writing. -/
def ExpectedFaults (h : Host) : Prop := ∀ f ∈ h.faults,
  (f.call = .list → f.cause.isOs = true) ∧
    (f.call = .read ∨ f.call = .write → isPageCause f.cause = true)

theorem isPageCause_of_obstacle (hx : ExpectedFaults h) (hc : obstacle? h page f = some c) :
    isPageCause c = true := by
  rw [obstacle?] at hc
  split at hc
  · rename_i hread
    cases hc
    obtain ⟨fault, hmem, hcall, rfl⟩ := Host.exists_of_waiting? hread
    exact (hx fault hmem).2 (.inl hcall)
  · cases hc
    rfl
  · obtain ⟨fault, hmem, hcall, rfl⟩ := Host.exists_of_waiting? hc
    exact (hx fault hmem).2 (.inr hcall)

/-- **How finishing a site ends once the readme page is promoted.**  A directory that cannot be
listed is blamed, and nothing is touched.  Otherwise all pages are relinked, or the first one that
cannot be read, is no text or cannot be written is blamed, and just the pages before it are
relinked.  Only a path that is too long to be asked about ends it with a failure that is not one of
the build. -/
theorem finish_endings (hsees : h.SeesAll) (hx : ExpectedFaults h) (hw : h.tree.WellFormed)
    (hslash : '/' ∉ readme.toList) {index : Path}
    (hpromote : (promote outputDir readme).on h = (.ok index, h₁)) {r : Except Failure Result}
    (hrun : (finish outputDir readme).on h = (r, h')) :
    ∃ k, h₁.locate outputDir = .ok k ∧ Ending h₁ outputDir readme k r h'.tree := by
  obtain ⟨rfl, hfaults, k, hd, -, -⟩ := of_promote hsees hw hslash hpromote
  have hsees₁ : h₁.SeesAll := hsees.of_faults hfaults
  have hx₁ : ExpectedFaults h₁ := by
    rw [ExpectedFaults, hfaults]
    exact hx
  refine ⟨k, hd.locate, ?_⟩
  rw [finish, on_bind_of_ok hpromote] at hrun
  cases hlist : h₁.waiting? .list outputDir with
  | some c =>
    obtain ⟨fault, hmem, hcall, rfl⟩ := Host.exists_of_waiting? hlist
    rw [on_bind_of_error (pages_unlisted hlist ((hx₁ fault hmem).1 hcall))] at hrun
    cases hrun
    exact .unlisted _ _ hlist (blames _ _)
  | none =>
    by_cases hfits : ∀ name ∈ candidates h₁.tree k, (outputDir.child name).Fits
    · rw [on_bind_of_ok (pages_listed hd hsees₁ hlist hfits)] at hrun
      have hl : Listed h₁ outputDir k (pageNames h₁.tree k) := hd.listed hfits
      by_cases hfree : Unhindered h₁ outputDir k (pageNames h₁.tree k)
      · obtain ⟨h₂, hloop, hpassed⟩ := relinkPages_passes
          (Links.Rule.forReadme readme.toList) hl hfree
        rw [on_bind_of_ok hloop] at hrun
        cases hrun
        exact .finished _ hlist hfits hfree hpassed.relinked
      · obtain ⟨before, name, after, hsplit, hbefore, hname⟩ := exists_first hfree
        simp only [not_forall] at hname
        obtain ⟨f, hfile, hobstacle⟩ := hname
        obtain ⟨c, hc⟩ := Option.ne_none_iff_exists'.mp hobstacle
        obtain ⟨h₂, hloop, hpassed⟩ := relinkPages_stops
          (Links.Rule.forReadme readme.toList) (hsplit ▸ hl) hbefore hfile hc
          (isPageCause_of_obstacle hx₁ hc)
        rw [hsplit, on_bind_of_error hloop] at hrun
        cases hrun
        exact .stopped before after name f c _ _ hlist hfits hsplit hbefore hfile hc (blames _ _)
          hpassed.relinked
    · obtain ⟨before, name, after, hsplit, hbefore, hname⟩ := exists_first hfits
      rw [on_bind_of_error (pages_tooLong hd hsees₁ hlist hsplit hbefore hname)] at hrun
      cases hrun
      exact .tooLong before after name hlist hsplit hbefore hname

/-- A rendered site with a page that cannot be written. -/
def jammed : Host :=
  { hostOf rendered with
    faults := [⟨.write, ⟨.here, ["site", "intro.html"]⟩, .raised .encoding "no bytes"⟩] }

theorem finish_endings_jammed : jammed.SeesAll ∧ ExpectedFaults jammed ∧
    jammed.tree.WellFormed ∧ '/' ∉ "README".toList ∧ ∃ index h₁ e h' k,
      (promote ⟨.top, ["site"]⟩ "README").on jammed = (.ok index, h₁) ∧
      (finish ⟨.top, ["site"]⟩ "README").on jammed = (.error (.site e), h') ∧
      Ending h₁ ⟨.top, ["site"]⟩ "README" k (.error (.site e)) h'.tree := by
  have hsees : jammed.SeesAll := by decide
  have hx : ExpectedFaults jammed := by
    intro f hf
    rw [List.mem_singleton.mp hf]
    decide
  have hslash : '/' ∉ "README".toList := by decide
  have hok : ((promote ⟨.top, ["site"]⟩ "README").on jammed).1.isOk = true := by decide +kernel
  have hbad : ((finish ⟨.top, ["site"]⟩ "README").on jammed).1 =
      .error (.site { path := ⟨.top, ["site", "intro.html"]⟩
                      problem := .failed (.raised .encoding "no bytes") }) := by decide +kernel
  refine ⟨hsees, hx, wellFormed_rendered, hslash, ?_⟩
  cases hpromote : (promote ⟨.top, ["site"]⟩ "README").on jammed with
  | mk index h₁ =>
    cases hrun : (finish ⟨.top, ["site"]⟩ "README").on jammed with
    | mk r h' =>
      rw [hpromote] at hok
      rw [hrun] at hbad
      cases index with
      | error e => cases hok
      | ok index =>
        cases hbad
        obtain ⟨k, -, hending⟩ :=
          finish_endings hsees hx wellFormed_rendered hslash hpromote hrun
        exact ⟨index, h₁, _, h', k, rfl, rfl, hending⟩

/-! ## A path that is too long -/

/-- A path that leads into the directory `a` and goes back up, `n` times, before it leads to the
directory `website`. -/
def windingBy (n : Nat) : Path := ⟨.top, (List.replicate n ["a", ".."]).flatten ++ ["website"]⟩

/-- The path with as many turns as the names of the readme page and of the index allow. -/
def winding : Path := windingBy 815

/-- A rendered site beside the directory `a`. -/
def remote : Tree :=
  let file (text : String) : Node := .file ⟨Utf8.encode text.toList, 0, false⟩
  (((((∅ : Tree).set ["a"] .directory).set ["website"] .directory).set ["website", "README.html"]
    (file "home")).set ["website", "index.html"] (file "generic")).set ["website", "welcome.html"]
    (file "x")

theorem wellFormed_remote : remote.WellFormed := by decide +kernel

theorem hasNul_windingBy (n : Nat) : (windingBy n).hasNul = false := by
  rw [Path.hasNul, List.any_eq_false]
  intro name hn
  have hname : name ∈ ["a", "..", "website"] := by
    simp only [windingBy, List.mem_append, List.mem_flatten, List.mem_replicate] at hn
    rcases hn with ⟨l, ⟨-, rfl⟩, hn⟩ | hn
    · exact List.mem_append_left ["website"] hn
    · exact List.mem_append_right ["a", ".."] hn
  clear hn
  revert name
  decide

/-- A way down and back up comes to nothing, however often it is repeated. -/
theorem walk_remote (n : Nat) (rest : List String) :
    remote.walk [] ((List.replicate n ["a", ".."]).flatten ++ rest) = remote.walk [] rest := by
  have htop : remote.get? [] = some .directory := rfl
  have ha : remote.get? ["a"] = some .directory := by decide +kernel
  have hsize : ¬ Tree.nameLimit < "a".utf8ByteSize ∧ ¬ Tree.nameLimit < "..".utf8ByteSize := by
    decide
  induction n with
  | zero => rfl
  | succ n ih =>
    rw [List.replicate_succ, List.flatten_cons, List.append_assoc, List.cons_append,
      List.singleton_append, Tree.walk, htop]
    dsimp only
    rw [if_neg hsize.1, if_neg (by decide), List.nil_append, Tree.walk, ha]
    dsimp only
    rw [if_neg hsize.2, if_pos rfl]
    exact ih

/-- The path of an entry of the site has the length of its name and of the way to it. -/
theorem size_windingBy_child (n : Nat) (name : String) :
    ((windingBy n).child name).toString.utf8ByteSize = 5 * n + 9 + name.utf8ByteSize := by
  have hloop : ("/".intercalate ((List.replicate n ["a", ".."]).flatten ++
      ["website", name])).utf8ByteSize = 5 * n + 8 + name.utf8ByteSize := by
    have h1 : "a".utf8ByteSize = 1 := by decide
    have h2 : "..".utf8ByteSize = 2 := by decide
    have h7 : "website".utf8ByteSize = 7 := by decide
    induction n with
    | zero =>
      simp only [List.replicate_zero, List.flatten_nil, List.nil_append]
      rw [Path.size_intercalate_cons, if_neg (by simp), String.intercalate_singleton, h7]
      omega
    | succ n ih =>
      rw [List.replicate_succ, List.flatten_cons, List.append_assoc, List.cons_append,
        List.singleton_append, Path.size_intercalate_cons, if_neg (by simp),
        Path.size_intercalate_cons, if_neg (by simp), ih, h1, h2]
      omega
  have hroot : Path.Root.top.text.utf8ByteSize = 1 := by decide
  rw [Path.toString_of_ne_nil (by simp), Path.names_child, Path.root_child, windingBy,
    List.append_assoc, List.singleton_append, String.utf8ByteSize_append, hloop, hroot]
  omega

theorem size_winding_child (name : String) :
    (winding.child name).toString.utf8ByteSize = 4084 + name.utf8ByteSize :=
  size_windingBy_child 815 name

theorem locate_winding : (hostOf remote).locate winding = .ok ["website"] := by
  have hsize : winding.toString.utf8ByteSize ≤ Tree.pathLimit := by
    have hx : "x".utf8ByteSize = 1 := by decide
    have hchild : winding.toString.utf8ByteSize ≤ (winding.child "x").toString.utf8ByteSize :=
      Path.size_toString_le_child winding (by decide)
    rw [size_winding_child] at hchild
    have hlimit : Tree.pathLimit = 4095 := rfl
    omega
  have hwalk : remote.walk [] winding.names = .ok ["website"] := by
    rw [winding, windingBy, walk_remote]
    decide +kernel
  exact Tree.locate_eq_walk.mpr ⟨hsize, hwalk⟩

theorem directory_remote : Directory (hostOf remote) winding ["website"] :=
  ⟨hasNul_windingBy 815, locate_winding, by decide +kernel,
    fun name hsome => wellFormed_remote.entryName ["website"] name hsome⟩

theorem fits_winding_child {name : String} (hname : name.utf8ByteSize ≤ 11) :
    (winding.child name).Fits := by
  have hlimit : Tree.pathLimit = 4095 := rfl
  have hwinding := Tree.size_le_of_walk (Tree.locate_eq_walk.mp locate_winding).2
  have hlast : name.utf8ByteSize ≤ Tree.nameLimit := by
    have : Tree.nameLimit = 255 := rfl
    omega
  refine ⟨?_, ?_⟩
  · rw [size_winding_child]
    omega
  · rw [Path.names_child, List.forall_mem_append]
    exact ⟨hwinding, by simpa using hlast⟩

theorem not_fits_welcome : ¬ (winding.child "welcome.html").Fits := by
  rintro ⟨hsize, -⟩
  have hlimit : Tree.pathLimit = 4095 := rfl
  have hwelcome : "welcome.html".utf8ByteSize = 12 := by decide
  rw [size_winding_child] at hsize
  omega

theorem exists_promoted_remote : ∃ index h₁,
    (promote winding "README").on (hostOf remote) = (.ok index, h₁) ∧
      Directory h₁ winding ["website"] ∧ h₁.faults = [] ∧
      h₁.tree = promoted remote ["website"] "README" := by
  have hslash : '/' ∉ "README".toList := by decide
  have hentry : ∀ name ∈ [pageName "README", indexName], Tree.IsEntryName name := by decide
  obtain ⟨⟨fr, hfr⟩, ⟨fi, hfi⟩⟩ :
      (∃ f, remote.get? (["website"] ++ [pageName "README"]) = some (.file f)) ∧
      ∃ f, remote.get? (["website"] ++ [indexName]) = some (.file f) := by
    simp only [← isFile_eq_true]
    decide +kernel
  have hr : (hostOf remote).Reaches (winding.child (pageName "README"))
      (["website"] ++ [pageName "README"]) :=
    directory_remote.reaches (hentry _ (by simp)) (fits_winding_child (by decide))
  have hi : (hostOf remote).Reaches (winding.child indexName) (["website"] ++ [indexName]) :=
    directory_remote.reaches (hentry _ (by simp)) (fits_winding_child (by decide))
  have hne : pageName "README" ≠ indexName := by decide
  have hfree : (hostOf remote).faults = [] := rfl
  have hpromote := (promote_eq_ok hfree hslash).mpr
    ⟨rfl, hne, ["website"], fr, fi, hr, hi, hfr, hfi, rfl⟩
  obtain ⟨-, hfaults, k, hd, hk, htree⟩ :=
    of_promote (by decide) wellFormed_remote hslash hpromote
  rw [locate_winding] at hk
  cases hk
  exact ⟨_, _, hpromote, hd, hfaults, htree⟩

/-- **Finishing a site can end with a failure that blames nothing.**  No failure waits, and the
readme page is promoted; but the path of the page `welcome.html` is too long to be asked about. -/
theorem finish_blames_nothing : (hostOf remote).faults = [] ∧ remote.WellFormed ∧
    '/' ∉ "README".toList ∧ ∃ index h₁,
      (promote winding "README").on (hostOf remote) = (.ok index, h₁) ∧
      "welcome.html" ∈ pageNames h₁.tree ["website"] ∧
      (finish winding "README").on (hostOf remote) =
        (.error (.cause (Errno.nameTooLong.on (winding.child "welcome.html"))), h₁) := by
  obtain ⟨index, h₁, hpromote, hd, hfaults, htree⟩ := exists_promoted_remote
  have hpage : "welcome.html" ∈ pageNames (promoted remote ["website"] "README") ["website"] := by
    decide +kernel
  have hsplit : candidates (promoted remote ["website"] "README") ["website"] =
      ["index.html"] ++ "welcome.html" :: [] := by decide +kernel
  have hsees : h₁.SeesAll := .of_nil hfaults
  have hlist : h₁.waiting? .list winding = none := by simp [Host.waiting?, hfaults]
  have hindex : (winding.child "index.html").Fits := fits_winding_child (by decide)
  have hpages := pages_tooLong hd hsees hlist (htree.symm ▸ hsplit) (by simpa using hindex)
    not_fits_welcome
  refine ⟨rfl, wellFormed_remote, by decide, index, h₁, hpromote, htree.symm ▸ hpage, ?_⟩
  rw [finish, on_bind_of_ok hpromote]
  exact on_bind_of_error hpages

end Site

end DeckPress
