import DeckPress.Proofs.Preview.Changes

/-!
# What is ignored, and what is a source

A preview says twice which files it is made from: events for some files are ignored, and some files
are listed in the signature.  Neither asks the other.  An ignored file makes no difference to the
signature if no path of a source leads to it; if one does, the signature tells of it, and the next
event for any other file sets off a rebuild.

* `Tree.FileChanged` — one file was made, changed or removed; `look_of_fileChanged` — what is seen
  elsewhere is the same.
* `signature_of_look` — the signature depends on what is seen where sources are looked for.
* `signature_eq_iff` — and tells of every stamp of a source.
* `begins_iff` — when a rebuild begins.
* `ignored_file_counts_as_source` — the result; `ignored_file_sets_off_rebuild` — a site below the
  directory of the slides.
-/

namespace DeckPress

open Act Host

/-! ## One file -/

namespace Tree

variable {t u : Tree} {k q : Loc}

/-- At the place a file was made, changed or removed, and nothing else happened to the tree. -/
structure FileChanged (k : Loc) (t u : Tree) : Prop where
  sameBut : SameBut (· = k) t u
  before : t.get? k ≠ some .directory
  after : u.get? k ≠ some .directory

theorem FileChanged.symm (h : FileChanged k t u) : FileChanged k u t :=
  ⟨fun q hq => (h.sameBut q hq).symm, h.after, h.before⟩

/-- Directories are left alone. -/
theorem FileChanged.directory (h : FileChanged k t u) (hq : t.get? q = some .directory) :
    u.get? q = some .directory := by
  have hqk : q ≠ k := by
    rintro rfl
    exact h.before hq
  rw [h.sameBut q hqk, hq]

/-- What paths lead to depends on directories only. -/
theorem FileChanged.locate (h : FileChanged k t u) {cwd j : Loc} {p : Path} :
    u.locate cwd p = .ok j ↔ t.locate cwd p = .ok j :=
  ⟨locate_mono fun _ => h.symm.directory, locate_mono fun _ => h.directory⟩

/-- So does that a path is too long. -/
theorem FileChanged.locate_tooLong (h : FileChanged k t u) {cwd : Loc} {p : Path} :
    u.locate cwd p = .error .nameTooLong ↔ t.locate cwd p = .error .nameTooLong :=
  ⟨locate_tooLong_mono fun _ => h.symm.directory, locate_tooLong_mono fun _ => h.directory⟩

/-- The same is at the place of a path that does not lead to the file. -/
theorem FileChanged.get?_below {dir : Path} (h : FileChanged k t u) {j : Loc} {names : List String}
    (hj : j = dir.place) (hnames : ∀ name ∈ names, IsEntryName name)
    (hk : (dir.below names).place ≠ k) : u.get? (j ++ names) = t.get? (j ++ names) := by
  rw [Path.place_below (up_not_mem hnames), ← hj] at hk
  exact h.sameBut _ hk

end Tree

variable {h h' g : Host} {u : Tree} {k : Loc} {q q' dir root x : Path}

/-- What is seen of a path is the same in any respect in which the node at its place is. -/
theorem Host.map_look_of_fileChanged {β : Type} {f : Option Node → β}
    (hchange : Tree.FileChanged k h.tree u) (hq : q.isAbsolute = true)
    (hf : f (u.get? q.place) = f (h.tree.get? q.place)) :
    (Host.look { h with tree := u } q).map f = (h.look q).map f := by
  by_cases hnul : q.hasNul
  · rw [look_of_hasNul hnul, look_of_hasNul hnul]
  have hwaits : Host.waiting? { h with tree := u } .stat q = h.waiting? .stat q := rfl
  rw [look, look, hwaits, if_neg hnul, if_neg hnul]
  cases h.waiting? .stat q with
  | some c => rfl
  | none =>
    dsimp only
    cases hl : h.locate q with
    | ok j =>
      have hl' : Host.locate { h with tree := u } q = .ok j := hchange.locate.mpr hl
      rw [hl']
      obtain rfl := Tree.place_of_locate hq hl
      exact congrArg Except.ok hf
    | error e =>
      cases hl' : Host.locate { h with tree := u } q with
      | ok j =>
        have hback : h.locate q = .ok j := hchange.locate.mp hl'
        rw [hl] at hback
        cases hback
      | error e' =>
        -- Of the failures only one is seen.
        have hlong : e' = .nameTooLong ↔ e = .nameTooLong := by
          have hiff : Host.locate { h with tree := u } q = .error .nameTooLong ↔
            h.locate q = .error .nameTooLong := hchange.locate_tooLong
          rwa [hl, hl', Except.error.injEq, Except.error.injEq] at hiff
        by_cases he : e = .nameTooLong
        · rw [he, hlong.mpr he]
        · simp only
          rw [if_neg he, if_neg (mt hlong.mp he)]

/-- What is seen at a path that does not lead to the file is the same. -/
theorem Host.look_of_fileChanged (hchange : Tree.FileChanged k h.tree u)
    (hq : q.isAbsolute = true) (hk : q.place ≠ k) :
    Host.look { h with tree := u } q = h.look q := by
  have hsame := map_look_of_fileChanged (f := id) hchange hq (hchange.sameBut _ hk)
  rwa [Except.map_id] at hsame

namespace Preview

variable {p : Preview} {settings : Settings} {number? : Option Int} {s? s'? : Option Signature}

theorem below_subset_of_fileChanged (hw : h.tree.WellFormed)
    (hchange : Tree.FileChanged k h.tree u) (hdir : dir.isAbsolute = true)
    (hk : ∀ names, names ≠ [] → (∀ name ∈ names, Tree.IsEntryName name) →
      (dir.below names).place ≠ k) (hq : q ∈ below h dir) :
    q ∈ below { h with tree := u } dir := by
  obtain ⟨j, hl, names, hne, hsome, rfl⟩ := mem_below.mp hq
  have hnames := hw.entryName_of_append hsome
  refine mem_below.mpr ⟨j, hchange.locate.mpr hl, names, hne, ?_, rfl⟩
  rwa [hchange.get?_below (Tree.place_of_locate hdir hl) hnames (hk names hne hnames)]

/-- Below a directory in which the file is not, the same is listed. -/
theorem below_of_fileChanged (hw : h.tree.WellFormed) (hu : u.WellFormed)
    (hchange : Tree.FileChanged k h.tree u) (hdir : dir.isAbsolute = true)
    (hk : ∀ names, names ≠ [] → (∀ name ∈ names, Tree.IsEntryName name) →
      (dir.below names).place ≠ k) : below { h with tree := u } dir = below h dir := by
  refine (pairwise_below _ _).eq_of_mem_iff (pairwise_below _ _) fun q => ⟨fun hq => ?_, ?_⟩
  · exact below_subset_of_fileChanged (h := { h with tree := u }) hu hchange.symm hdir hk hq
  · exact below_subset_of_fileChanged hw hchange hdir hk

end Preview

/-! ## Where the same is seen -/

/-- A sequence that changes nothing gives the same on two hosts if its acts do. -/
theorem Act.result_bind {α β : Type} {a : Act α} {f : α → Act β} (ha : IsQuery a)
    (hsame : (a.on h').1 = (a.on h).1)
    (hf : ∀ y, a.on h = (.ok y, h) → ((f y).on h').1 = ((f y).on h).1) :
    ((a >>= f).on h').1 = ((a >>= f).on h).1 := by
  rw [on_bind, on_bind]
  cases hrun : a.on h with
  | mk r g =>
    cases ha.eq hrun
    cases hrun' : a.on h' with
    | mk r' g' =>
      cases ha.eq hrun'
      rw [hrun, hrun'] at hsame
      cases hsame
      cases r with
      | ok y => exact hf y hrun
      | error e => rfl

theorem Act.result_probe (hlook : h'.look q = h.look q) :
    ((probe q).on h').1 = ((probe q).on h).1 := by
  rw [probe, on_get_bind, on_get_bind, hlook]
  cases h.look q <;> rfl

/-- Whether a path is a directory does not depend on files. -/
theorem Act.result_isDirectory_of_fileChanged (hchange : Tree.FileChanged k h.tree u)
    (hq : q.isAbsolute = true) :
    ((isDirectory q).on { h with tree := u }).1 = ((isDirectory q).on h).1 := by
  have hnode : (u.get? q.place).any Node.isDirectory =
      (h.tree.get? q.place).any Node.isDirectory := by
    by_cases hk : q.place = k
    · have hfile : ∀ {n? : Option Node}, n? ≠ some .directory →
          n?.any Node.isDirectory = false := by
        rintro (- | ⟨f⟩ | -) hne
        · rfl
        · rfl
        · exact absurd rfl hne
      rw [hk, hfile hchange.before, hfile hchange.after]
    · rw [hchange.sameBut _ hk]
  have hsame := map_look_of_fileChanged (f := Option.any Node.isDirectory) hchange hq hnode
  rw [isDirectory, probe, bind_assoc, on_get_bind, on_get_bind]
  cases hl : h.look q with
  | ok n? =>
    cases hl' : Host.look { h with tree := u } q with
    | ok n'? =>
      rw [hl, hl'] at hsame
      exact congrArg Except.ok (Except.ok.inj hsame)
    | error e => simp [hl, hl', Except.map] at hsame
  | error e =>
    cases hl' : Host.look { h with tree := u } q with
    | ok n'? => simp [hl, hl', Except.map] at hsame
    | error e' =>
      rw [hl, hl'] at hsame
      cases hsame
      rfl

namespace Preview

variable {p : Preview} {settings : Settings} {number? : Option Int} {s? s'? : Option Signature}

theorem result_stampsOf {files : List Path} (hlook : ∀ q ∈ files, h'.look q = h.look q) :
    ((stampsOf root files).on h').1 = ((stampsOf root files).on h).1 := by
  induction files with
  | nil => rfl
  | cons q files ih =>
    obtain ⟨hq, hfiles⟩ := List.forall_mem_cons.mp hlook
    refine result_bind (isQuery_stampOf root q) ?_ fun s? _ =>
      result_bind (isQuery_stampsOf root files) (ih hfiles) fun _ _ => rfl
    rw [stampOf, on_get_bind, on_get_bind, hq]
    split
    · split
      · rfl
      · rfl
    · rfl

theorem result_sources
    (hcontent : ((isDirectory p.contentDir).on h').1 = ((isDirectory p.contentDir).on h).1)
    (hbelow : below h' p.contentDir = below h p.contentDir)
    (hlook : ∀ q ∈ p.places h, h'.look q = h.look q) :
    (p.sources.on h').1 = (p.sources.on h).1 := by
  rw [places, List.forall_mem_append, List.forall_mem_singleton] at hlook
  obtain ⟨hslides, htheme⟩ := hlook
  have hkeep : ∀ files : List Path, (∀ q ∈ files, h'.look q = h.look q) →
      ((keep (fun q => return !(← Act.isDirectory q)) files).on h').1 =
        ((keep (fun q => return !(← Act.isDirectory q)) files).on h).1 := by
    intro files hfiles
    have hquery : ∀ q, IsQuery (do return !(← Act.isDirectory q)) := fun q =>
      (isQuery_isDirectory q).bind fun _ => isQuery_pure _
    induction files with
    | nil => rfl
    | cons q files ih =>
      obtain ⟨hq, hrest⟩ := List.forall_mem_cons.mp hfiles
      refine result_bind (hquery q) ?_ fun _ _ =>
        result_bind (isQuery_keep hquery files) (ih hrest) fun _ _ => rfl
      exact result_bind ((isQuery_probe q).bind fun _ => isQuery_pure _)
        (result_bind (isQuery_probe q) (result_probe hq) fun _ _ => rfl) fun _ _ => rfl
  have hend : ∀ slides : List Path,
      ((do return if ← Act.isFile p.theme then slides ++ [p.theme] else slides :
        Act (List Path)).on h').1 =
      ((do return if ← Act.isFile p.theme then slides ++ [p.theme] else slides :
        Act (List Path)).on h).1 := fun slides =>
    result_bind (isQuery_isFile _) (result_bind (isQuery_probe _) (result_probe htheme)
      fun _ _ => rfl) fun _ _ => rfl
  refine result_bind (isQuery_isDirectory _) hcontent fun isThere _ => ?_
  split
  · rw [on_get_bind, on_get_bind, hbelow]
    refine result_bind ?_ (hkeep _ hslides) fun slides _ => hend slides
    exact isQuery_keep (fun q => (isQuery_isDirectory q).bind fun _ => isQuery_pure _) _
  · exact result_bind (isQuery_pure _) rfl fun slides _ => hend slides

/-- The signature depends on what is seen where sources are looked for, and so does the failure if
it cannot be taken. -/
theorem signature_of_look (hsound : h.Sound)
    (hcontent : ((isDirectory p.contentDir).on h').1 = ((isDirectory p.contentDir).on h).1)
    (hbelow : below h' p.contentDir = below h p.contentDir)
    (hlook : ∀ q ∈ p.places h, h'.look q = h.look q) :
    (p.signature.on h').1 = (p.signature.on h).1 := by
  refine result_bind (isQuery_sources p) (result_sources hcontent hbelow hlook)
    fun files hfiles => ?_
  obtain ⟨-, -, rfl⟩ := (on_sources_eq_ok hsound).mp hfiles
  refine result_bind (isQuery_stampsOf _ _) (result_stampsOf fun q hq => ?_) fun _ _ => rfl
  exact hlook q (listed_subset hq)

/-! ## What the signature tells -/

theorem signatureOf_inj {a b : List SourceStamp} : signatureOf a = signatureOf b ↔ a = b := by
  rw [signatureOf, signatureOf]
  cases a <;> cases b <;> simp

theorem stampAt?_eq_some {s : SourceStamp} : h.stampAt? root q = some s ↔
    ∃ f rest, h.fileAt? q = some f ∧ q.relativeTo? root = some rest ∧
      s = ⟨rest.toString, f.modified, f.bytes.length⟩ := by
  rw [stampAt?]
  cases h.fileAt? q with
  | none => simp
  | some f =>
    cases q.relativeTo? root with
    | none => simp
    | some rest => simp [eq_comm]

theorem relativeTo?_eq_some {rest : Path} : q.relativeTo? root = some rest ↔
    q.root = root.root ∧ rest.root = .here ∧ q.names = root.names ++ rest.names := by
  rw [Path.relativeTo?]
  constructor
  · intro hrest
    split at hrest
    · rename_i hbelow
      cases hrest
      obtain ⟨hroot, names, hnames⟩ := hbelow
      exact ⟨hroot, rfl, by rw [← hnames]; simp⟩
    · cases hrest
  · rintro ⟨hroot, hhere, hnames⟩
    rw [if_pos ⟨hroot, hnames ▸ List.prefix_append _ _⟩, hnames, List.drop_left']
    · cases rest
      cases hhere
      rfl
    · rfl

/-- A stamp tells from which path it comes. -/
theorem eq_of_stampAt? (hq : q.IsProper) (hq' : q'.IsProper) {s : SourceStamp}
    (hs : g.stampAt? root q = some s) (hs' : h.stampAt? root q' = some s) : q = q' := by
  obtain ⟨f, rest, -, hrest, rfl⟩ := stampAt?_eq_some.mp hs
  obtain ⟨f', rest', -, hrest', he⟩ := stampAt?_eq_some.mp hs'
  obtain ⟨hroot, -, hnames⟩ := relativeTo?_eq_some.mp hrest
  obtain ⟨hroot', -, hnames'⟩ := relativeTo?_eq_some.mp hrest'
  have hproper : rest.IsProper := fun name hname => hq name (by simp [hnames, hname])
  have hproper' : rest'.IsProper := fun name hname => hq' name (by simp [hnames', hname])
  obtain rfl := Path.eq_of_toString_eq hproper hproper' (SourceStamp.mk.inj he).1
  cases q
  cases q'
  simp only at hroot hroot' hnames hnames'
  rw [hroot, hroot', hnames, hnames']

/-- The stamps are those of the sources. -/
theorem mem_stamps (hsound : h.Sound) {s : SourceStamp} :
    s ∈ p.stamps h ↔ ∃ q, p.IsSource q ∧ h.stampAt? p.root q = some s := by
  rw [stamps_eq, List.mem_append, List.mem_filterMap, Option.mem_toList]
  constructor
  · rintro (⟨q, hq, hs⟩ | hs)
    · exact ⟨q, .inr ((mem_filesBelow hsound).mp hq).1, hs⟩
    · exact ⟨p.theme, .inl rfl, hs⟩
  · rintro ⟨q, rfl | hq, hs⟩
    · exact .inr hs
    · obtain ⟨f, rest, hf, -⟩ := stampAt?_eq_some.mp hs
      exact .inl ⟨q, (mem_filesBelow hsound).mpr ⟨hq, by rw [hf]; rfl⟩, hs⟩

/-- The signature is the same exactly where all sources have the same stamps. -/
theorem signature_eq_iff (hg : g.Sound) (hh : h.Sound) (hproper : ∀ q, p.IsSource q → q.IsProper)
    (hs : p.signature.on g = (.ok s?, g)) (hs' : p.signature.on h = (.ok s'?, h)) :
    s? = s'? ↔ ∀ q, p.IsSource q → g.stampAt? p.root q = h.stampAt? p.root q := by
  obtain ⟨-, -, -, rfl⟩ := (signature_eq_ok hg).mp hs
  obtain ⟨-, -, -, rfl⟩ := (signature_eq_ok hh).mp hs'
  rw [signatureOf_inj]
  refine ⟨fun heq q hq => ?_, stamps_congr hg hh⟩
  have hone : ∀ {g h : Host} {s}, g.Sound → h.Sound → p.stamps g = p.stamps h →
      g.stampAt? p.root q = some s → h.stampAt? p.root q = some s := by
    intro g h s hg hh heq hs
    obtain ⟨q', hq', hs'⟩ := (mem_stamps hh).mp (heq ▸ (mem_stamps hg).mpr ⟨q, hq, hs⟩)
    rwa [eq_of_stampAt? (hproper q hq) (hproper q' hq') hs hs']
  ext s
  exact ⟨hone hg hh heq, hone hh hg heq.symm⟩

/-! ## When a rebuild begins -/

/-- A rebuild on the host announces that it builds. -/
def Begins (p : Preview) (h : Host) : Prop :=
  .printed announcement ∈ h.news (p.rebuild.on h).2

instance : Decidable (p.Begins h) := inferInstanceAs (Decidable (_ ∈ _))

/-- A rebuild begins if none is under way and none has just ended, and if the sources have a
signature other than the one that is remembered, or none at all. -/
theorem begins_iff : p.Begins h ↔ h.progress.isRebuilding = false ∧
    isTooSoon h.clock h.progress.rebuiltAt = false ∧
    ∃ s?, (p.signature.on h).1 = .ok s? ∧ (s?.isSome = true → h.progress.signature? ≠ s?) := by
  have hself : .printed announcement ∉ h.news h := by
    have hnews : h.news h = [] := news_eq rfl
    simp [hnews]
  rw [Begins, rebuild, on_rebuildUpTo_succ, ← and_assoc, ← Bool.or_eq_false_iff]
  split
  · rename_i hskip
    simp [hself, hskip]
  · rename_i hdue
    rw [Bool.not_eq_true] at hdue
    rw [and_iff_right hdue]
    cases hs : (p.signature.on h).1 with
    | error e => simp [hself]
    | ok s? =>
      simp only [Except.ok.injEq, exists_eq_left']
      split
      · rename_i hsame
        rw [Bool.and_eq_true, decide_eq_true_eq] at hsame
        simp only [hself, false_iff]
        exact fun hne => hne hsame.1 hsame.2.symm
      · rename_i hchanged
        have hbuild := quiet_build (p := p) (h := begun h) (unheard_rebuildUpTo (p := p) 1 rfl)
        obtain ⟨r, k, hc⟩ : ∃ r k, concluded s? ((p.build (p.rebuildUpTo 1)).on (begun h)).1
            ((p.build (p.rebuildUpTo 1)).on (begun h)).2 = (r, k) := ⟨_, _, rfl⟩
        obtain ⟨es, hnews, -⟩ := news_concluded hbuild hc
        rw [hc, hnews]
        refine iff_of_true (by simp) fun hsome heq => hchanged ?_
        rw [hsome, heq, decide_eq_true rfl, Bool.and_self]

/-! ## Ignored files -/

/-- A file to which no path of a source leads makes no difference to the signature. -/
theorem signature_of_fileChanged (hp : ofSettings root settings number? = .ok p)
    (habs : root.isAbsolute = true) (hsound : h.Sound) (hu : u.WellFormed)
    (hchange : Tree.FileChanged k h.tree u) (hk : ∀ q, p.IsSource q → q.place ≠ k) :
    (p.signature.on { h with tree := u }).1 = (p.signature.on h).1 := by
  have hdir : p.contentDir.isAbsolute = true := by
    obtain ⟨o, c, th, stagingDir, n, -, -, -, -, rfl⟩ := exists_of_ofSettings hp
    exact Path.isAbsolute_div habs c
  refine signature_of_look hsound (result_isDirectory_of_fileChanged hchange hdir)
    (below_of_fileChanged hsound.wellFormed hu hchange hdir fun names hne hnames =>
      hk _ (.inr ⟨names, hne, hnames, rfl⟩)) fun q hq => ?_
  have hsource : p.IsSource q := by
    rw [places, List.mem_append, List.mem_singleton] at hq
    refine hq.symm.imp id fun hbelow => ?_
    obtain ⟨j, -, names, hne, hsome, rfl⟩ := mem_below.mp hbelow
    exact ⟨names, hne, hsound.wellFormed.entryName_of_append hsome, rfl⟩
  exact look_of_fileChanged hchange (isAbsolute_of_isSource hp habs hsource) (hk q hsource)

/-- **An ignored file counts as a source if a path of a source leads to it, and not otherwise.**
Events for the file come to nothing.  If no path of a source leads to it, it makes no difference to
the signature, nor to whether a rebuild begins, that the file is made, changed or removed.  If one
does, the signature stays the same exactly if the stamps at such paths do; and if the signature was
remembered and becomes another one, a rebuild begins at the next event for any other file. -/
theorem ignored_file_counts_as_source (hp : ofSettings root settings number? = .ok p)
    (habs : root.isAbsolute = true) (hproper : root.IsProper) (hsound : h.Sound)
    (hu : u.WellFormed) (hignored : p.isIgnored x = true)
    (hchange : Tree.FileChanged x.place h.tree u) :
    (∀ isDirectory g, (p.onChange x isDirectory).on g = (.ok (), g)) ∧
    ((∀ q, p.IsSource q → q.place ≠ x.place) →
      (p.signature.on { h with tree := u }).1 = (p.signature.on h).1 ∧
        (p.Begins { h with tree := u } ↔ p.Begins h)) ∧
    ∀ s? s'?, (p.signature.on h).1 = .ok s? → (p.signature.on { h with tree := u }).1 = .ok s'? →
      (s'? = s? ↔ ∀ q, p.IsSource q → q.place = x.place →
        Host.stampAt? { h with tree := u } p.root q = h.stampAt? p.root q) ∧
      (s'? ≠ s? → h.progress.signature? = s? → h.progress.isRebuilding = false →
        isTooSoon h.clock h.progress.rebuiltAt = false → p.Begins { h with tree := u }) := by
  refine ⟨fun isDirectory g => ?_, fun hother => ?_, fun s? s'? hs hs' => ⟨?_, ?_⟩⟩
  · rw [onChange, hignored, Bool.or_true, if_pos rfl]
    rfl
  · have hsame := signature_of_fileChanged hp habs hsound hu hchange hother
    exact ⟨hsame, by rw [begins_iff, begins_iff, hsame]⟩
  · have hsound' : Host.Sound { h with tree := u } := ⟨hu, hsound.seesAll⟩
    rw [signature_eq_iff hsound' hsound (fun q => isProper_of_isSource hp hproper)
      (Prod.ext hs' (isQuery_signature p _)) (Prod.ext hs (isQuery_signature p _))]
    refine ⟨fun hstamps q hq _ => hstamps q hq, fun hstamps q hq => ?_⟩
    by_cases hk : q.place = x.place
    · exact hstamps q hq hk
    · refine stampAt?_congr ?_
      rw [fileAt?, fileAt?,
        look_of_fileChanged hchange (isAbsolute_of_isSource hp habs hq) hk]
  · intro hne hremembered hidle hdue
    exact begins_iff.mpr ⟨hidle, hdue, s'?, hs', fun _ he => hne (he.symm.trans hremembered)⟩

/-! ## A project -/

/-- A page of the finished site. -/
def oldPage : Path := ⟨.top, ["project", "new", "site", "old.html"]⟩

/-- The project after the page was written anew. -/
def rewrittenProject : Tree := authoredProject.set oldPage.place (.file ⟨[], 2000, false⟩)

theorem wellFormed_rewrittenProject : rewrittenProject.WellFormed := by decide +kernel

theorem fileChanged_rewrittenProject :
    Tree.FileChanged oldPage.place authoredProject rewrittenProject :=
  ⟨Tree.sameBut_set (by decide), by decide +kernel, by decide +kernel⟩

/-- A page of the finished site makes no difference to a preview whose slides lie elsewhere. -/
theorem ignored_file_counts_as_source_served : newPreview.isIgnored oldPage = true ∧
    (∀ q, newPreview.IsSource q → q.place ≠ oldPage.place) ∧
    (newPreview.signature.on hostAuthored).1.toOption =
      some (some [⟨"markdown/workshop/a.md", 0, 0⟩]) ∧
    (newPreview.signature.on { hostAuthored with tree := rewrittenProject }).1 =
      (newPreview.signature.on hostAuthored).1 ∧
    newPreview.Begins { hostAuthored with tree := rewrittenProject } := by
  have hother : ∀ q, newPreview.IsSource q → q.place ≠ oldPage.place := by
    rintro q (rfl | ⟨names, -, hnames, rfl⟩)
    · decide
    · rw [Path.place_below (Tree.up_not_mem hnames)]
      intro he
      have hhead := congrArg (fun k : Loc => k[1]?) he
      rw [List.getElem?_append_left (by decide)] at hhead
      revert hhead
      decide
  have hbegins : newPreview.Begins hostAuthored := by decide +kernel
  obtain ⟨-, hnothing, -⟩ := ignored_file_counts_as_source ofSettings_newSettings rfl
    isProper_project sound_hostAuthored wellFormed_rewrittenProject (x := oldPage) (by decide)
    fileChanged_rewrittenProject
  obtain ⟨hsame, hbegins'⟩ := hnothing hother
  exact ⟨by decide, hother, by decide +kernel, hsame, hbegins'.mpr hbegins⟩

/-- The settings of the project with slides anywhere in it, the sites not excepted. -/
def wideSettings : Settings := newSettings.set Settings.contentDir (.str ".")

/-- The preview of that project. -/
def widePreview : Preview := { newPreview with settings := wideSettings, contentDir := project }

/-- The project, on a host on which its sources are remembered as they are. -/
def hostRemembered : Host :=
  { hostAuthored with
    progress := { signature? := some [
      ⟨"bin/reveal-md", 0, 0⟩, ⟨"markdown/workshop/a.md", 0, 0⟩, ⟨"new/site/old.html", 0, 0⟩,
      ⟨"new/site.staging/half.html", 0, 0⟩] } }

/-- Where the site lies below the directory of the slides, a page of the site that was written anew
changes the signature, although events for it are ignored.  The next event for any other file sets
off a rebuild. -/
theorem ignored_file_sets_off_rebuild : ofSettings project wideSettings none = .ok widePreview ∧
    widePreview.contentDir.IsBelow project ∧ widePreview.theme.IsBelow project ∧
    hostRemembered.Sound ∧ widePreview.isIgnored oldPage = true ∧
    Tree.FileChanged oldPage.place hostRemembered.tree rewrittenProject ∧
    (widePreview.signature.on { hostRemembered with tree := rewrittenProject }).1.toOption ≠
      (widePreview.signature.on hostRemembered).1.toOption ∧
    ¬ widePreview.Begins hostRemembered ∧
    widePreview.Begins { hostRemembered with tree := rewrittenProject } := by
  exact ⟨rfl, by decide, by decide, ⟨sound_hostAuthored.wellFormed, by decide⟩, by decide,
    fileChanged_rewrittenProject, by decide +kernel, by decide +kernel, by decide +kernel⟩

end Preview

end DeckPress
