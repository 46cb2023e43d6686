import DeckPress.Preview.Sources
import DeckPress.Proofs.Host.Seen

/-!
# What the signature of the sources tells

The signature lists the files that can be seen at the paths of the sources.  It depends on these
files only, not on how the tree around them was listed.

* `IsSource` — the paths of the sources.
* `mem_filesBelow`, `pairwise_filesBelow` — the files below a directory are those at the paths that
  lead on from it by names of entries, in the order of the names.
* `signature_eq_ok` — when the signature can be taken, and what it is.
* `exists_signature` — it can be taken if the sources lie in the project and no path is too long.
* `signature_congr` — where the same files are seen at the paths of the sources, the signature is
  the same; `signature_of_legible` — and can be taken again.
-/

namespace DeckPress

open Act

/-! ## Files in order -/

namespace Path

/-- The order in which the files of a directory are listed. -/
def Before (p q : Path) : Prop := compare p.names q.names = .lt

instance : Std.Irrefl Before := ⟨fun p => by simp [Before]⟩

instance : Std.Antisymm Before where
  antisymm p q hpq hqp := by
    rw [Before, Std.OrientedOrd.eq_swap, hpq] at hqp
    cases hqp

end Path

namespace Host

variable {h : Host} {p : Path}

/-- The stamp of the file that is seen at a path, which names it from `root`. -/
def stampAt? (h : Host) (root p : Path) : Option SourceStamp :=
  (h.fileAt? p).bind fun f =>
    (p.relativeTo? root).map fun rest => ⟨rest.toString, f.modified, f.bytes.length⟩

/-- Only a file has a stamp. -/
theorem stampAt?_of_fileAt? {root : Path} (hnone : h.fileAt? p = none) :
    h.stampAt? root p = none := by
  rw [stampAt?, hnone]
  rfl

end Host

open Host

namespace Preview

variable {p : Preview} {g h h' : Host} {dir q root : Path} {names : List String} {f : File}

/-! ## The files below a directory -/

theorem mem_below : q ∈ below h dir ↔ ∃ k, h.locate dir = .ok k ∧ ∃ names, names ≠ [] ∧
    (h.tree.get? (k ++ names)).isSome = true ∧ q = dir.below names := by
  rw [below]
  cases hl : h.locate dir with
  | error e => simp
  | ok k =>
    simp only [List.mem_filterMap, Prod.exists, Tree.mem_branch, Except.ok.injEq,
      exists_eq_left', Option.isSome_iff_exists]
    constructor
    · rintro ⟨names, n, hn, hq⟩
      split at hq
      · cases hq
      · rename_i hne
        cases hq
        refine ⟨names, hne, ⟨n, ?_⟩, rfl⟩
        rwa [Tree.get?_of_ne_nil (by simp [hne])]
    · rintro ⟨names, hne, ⟨n, hn⟩, rfl⟩
      rw [Tree.get?_of_ne_nil (by simp [hne])] at hn
      exact ⟨names, n, hn, by rw [if_neg hne]; rfl⟩

theorem pairwise_below (h : Host) (dir : Path) : (below h dir).Pairwise Path.Before := by
  rw [below]
  split
  · exact .nil
  · rename_i k _
    refine List.Pairwise.filterMap _ ?_ (Tree.pairwise_branch h.tree k)
    rintro ⟨names, n⟩ ⟨names', n'⟩ hlt a ha b hb
    simp only at ha hb
    split at ha
    · cases ha
    · cases ha
      split at hb
      · cases hb
      · cases hb
        rwa [Path.Before, Tree.compare_append]

/-- The files that are seen below a directory, in order. -/
def filesBelow (h : Host) (dir : Path) : List Path :=
  (below h dir).filter fun q => (h.fileAt? q).isSome

theorem pairwise_filesBelow (h : Host) (dir : Path) : (filesBelow h dir).Pairwise Path.Before :=
  (pairwise_below h dir).filter _

/-- Below a directory are the files at the paths that lead on from it. -/
theorem mem_filesBelow (hsound : h.Sound) :
    q ∈ filesBelow h dir ↔ (∃ names, names ≠ [] ∧ (∀ name ∈ names, Tree.IsEntryName name) ∧
      q = dir.below names) ∧ (h.fileAt? q).isSome = true := by
  rw [filesBelow, List.mem_filter]
  refine and_congr_left fun hfile => ?_
  rw [mem_below]
  constructor
  · rintro ⟨k, -, names, hne, hsome, rfl⟩
    exact ⟨names, hne, hsound.wellFormed.entryName_of_append hsome, rfl⟩
  · rintro ⟨names, hne, hnames, rfl⟩
    obtain ⟨f, hf⟩ := Option.isSome_iff_exists.mp hfile
    obtain ⟨-, j, hl, hj⟩ := (fileAt?_eq_some hsound).mp hf
    obtain ⟨k, hk, rfl⟩ := Tree.of_locate_below hnames hl
    exact ⟨k, hk, names, hne, by rw [hj]; rfl, rfl⟩

/-- Below what is not seen to be a directory, nothing is seen. -/
theorem look_of_mem_below (hsound : h.Sound)
    (hdir : h.seesDirectory dir = false) (hq : q ∈ below h dir) : h.look q = .ok none := by
  obtain ⟨k, hl, names, hne, hsome, rfl⟩ := mem_below.mp hq
  have hk := hsound.wellFormed.toRooted.directory_of_append hne hsome
  have hnul : dir.hasNul = true := by
    by_contra hnul
    rw [seesDirectory, Act.look_of_free (hsound.seesAll.free dir) (Bool.eq_false_iff.mpr hnul),
      hl] at hdir
    simp [hk, Node.isDirectory] at hdir
  exact Act.look_of_hasNul (Path.hasNul_below hnul names)

/-! ## The signature -/

/-- The path is one at which a source can be: the style sheet, or a path below the directory of the
slides. -/
def IsSource (p : Preview) (q : Path) : Prop :=
  q = p.theme ∨ ∃ names, names ≠ [] ∧ (∀ name ∈ names, Tree.IsEntryName name) ∧
    q = p.contentDir.below names

/-- Where the sources are looked for. -/
def places (p : Preview) (h : Host) : List Path := below h p.contentDir ++ [p.theme]

/-- No path at which sources are looked for is too long. -/
def Legible (p : Preview) (h : Host) : Prop :=
  ∀ q ∈ p.contentDir :: p.places h, (h.look q).isOk = true

instance : Decidable (p.Legible h) :=
  inferInstanceAs (Decidable (∀ q ∈ p.contentDir :: p.places h, (h.look q).isOk = true))

/-- A signature, if there are stamps to make it from. -/
def signatureOf (stamps : List SourceStamp) : Option Signature :=
  if stamps.isEmpty then none else some stamps

theorem on_stampOf_eq_ok {s? : Option SourceStamp} : (stampOf root q).on h = (.ok s?, h') ↔
    h' = h ∧ ((h.fileAt? q).isSome = true → q.IsBelow root) ∧ s? = h.stampAt? root q := by
  rw [stampOf, on_get_bind]
  rcases hlook : h.look q with c | _ | f | _
  case ok.some.file =>
    simp only [stampAt?, fileAt?, hlook, ← Path.isSome_relativeTo?]
    cases hrest : q.relativeTo? root with
    | some rest => simp [on_pure_eq_ok, and_comm]
    | none => simp [on_fail_eq_ok]
  all_goals simp [stampAt?, fileAt?, hlook, on_pure_eq_ok, and_comm]

theorem on_stampsOf_eq_ok {files : List Path} {s : Signature} :
    (stampsOf root files).on h = (.ok s, h') ↔ h' = h ∧
      (∀ q ∈ files, (h.fileAt? q).isSome = true → q.IsBelow root) ∧
      s = files.filterMap (h.stampAt? root) := by
  induction files generalizing s h' with
  | nil =>
    rw [stampsOf, on_pure_eq_ok]
    simp [and_comm]
  | cons q files ih =>
    simp only [stampsOf, on_bind_eq_ok, on_stampOf_eq_ok, on_pure_eq_ok, List.forall_mem_cons,
      List.filterMap_cons]
    constructor
    · rintro ⟨_, _, ⟨rfl, h2, rfl⟩, _, _, hrest, rfl, rfl⟩
      obtain ⟨rfl, h4, rfl⟩ := ih.mp hrest
      exact ⟨rfl, ⟨h2, h4⟩, by cases h'.stampAt? root q <;> rfl⟩
    · rintro ⟨rfl, ⟨h2, h4⟩, rfl⟩
      exact ⟨_, _, ⟨rfl, h2, rfl⟩, _, _, ih.mpr ⟨rfl, h4, rfl⟩,
        by cases h'.stampAt? root q <;> rfl, rfl⟩

/-- The files that are stamped. -/
def listed (p : Preview) (h : Host) : List Path :=
  (if h.seesDirectory p.contentDir then (below h p.contentDir).filter fun q => !h.seesDirectory q
    else []) ++ if h.seesFile p.theme then [p.theme] else []

theorem on_sources_eq_ok (hsound : h.Sound) {files : List Path} :
    p.sources.on h = (.ok files, h') ↔ h' = h ∧ p.Legible h ∧ files = p.listed h := by
  have htest : ∀ q b h', ((do return !(← Act.isDirectory q)) : Act Bool).on h = (.ok b, h') ↔
      h' = h ∧ (h.look q).isOk = true ∧ b = !h.seesDirectory q := by
    intro q b h'
    simp only [on_bind_eq_ok, on_isDirectory_eq_ok, on_pure_eq_ok]
    constructor
    · rintro ⟨_, _, ⟨rfl, h1, rfl⟩, rfl, rfl⟩
      exact ⟨rfl, h1, rfl⟩
    · rintro ⟨rfl, h1, rfl⟩
      exact ⟨_, _, ⟨rfl, h1, rfl⟩, rfl, rfl⟩
  have hlegible : p.Legible h ↔ (h.look p.contentDir).isOk = true ∧
      (∀ q ∈ below h p.contentDir, (h.look q).isOk = true) ∧ (h.look p.theme).isOk = true := by
    rw [Legible, places, List.forall_mem_cons, List.forall_mem_append, List.forall_mem_singleton]
  have hend : ∀ {slides : List Path},
      (do return if ← Act.isFile p.theme then slides ++ [p.theme] else slides :
        Act (List Path)).on h = (.ok files, h') ↔ h' = h ∧ (h.look p.theme).isOk = true ∧
          files = slides ++ if h.seesFile p.theme then [p.theme] else [] := by
    intro slides
    simp only [on_bind_eq_ok, on_isFile_eq_ok, on_pure_eq_ok]
    constructor
    · rintro ⟨_, _, ⟨rfl, h1, rfl⟩, rfl, rfl⟩
      exact ⟨rfl, h1, by split <;> simp⟩
    · rintro ⟨rfl, h1, rfl⟩
      exact ⟨_, _, ⟨rfl, h1, rfl⟩, by split <;> simp, rfl⟩
  rw [hlegible, listed]
  unfold sources
  simp only [on_bind_eq_ok, on_isDirectory_eq_ok]
  cases hdir : h.seesDirectory p.contentDir with
  | true =>
    constructor
    · rintro ⟨_, _, ⟨rfl, hcontent, rfl⟩, hrun⟩
      rw [if_pos rfl, on_get_bind] at hrun
      obtain ⟨slides, _, hkeep, hrun⟩ := on_bind_eq_ok.mp hrun
      obtain ⟨rfl, hbelow, rfl⟩ := (on_keep_eq_ok htest).mp hkeep
      obtain ⟨rfl, htheme, rfl⟩ := hend.mp hrun
      exact ⟨rfl, ⟨hcontent, hbelow, htheme⟩, rfl⟩
    · rintro ⟨rfl, ⟨hcontent, hbelow, htheme⟩, rfl⟩
      refine ⟨_, _, ⟨rfl, hcontent, rfl⟩, ?_⟩
      rw [if_pos rfl, on_get_bind]
      exact on_bind_eq_ok.mpr ⟨_, _, (on_keep_eq_ok htest).mpr ⟨rfl, hbelow, rfl⟩,
        hend.mpr ⟨rfl, htheme, rfl⟩⟩
  | false =>
    have hbelow : ∀ q ∈ below h p.contentDir, (h.look q).isOk = true := fun q hq => by
      rw [look_of_mem_below hsound hdir hq]
      rfl
    constructor
    · rintro ⟨_, _, ⟨rfl, hcontent, rfl⟩, hrun⟩
      rw [if_neg Bool.false_ne_true] at hrun
      obtain ⟨slides, _, hnone, hrun⟩ := on_bind_eq_ok.mp hrun
      obtain ⟨rfl, rfl⟩ := on_pure_eq_ok.mp hnone
      obtain ⟨rfl, htheme, rfl⟩ := hend.mp hrun
      exact ⟨rfl, ⟨hcontent, hbelow, htheme⟩, rfl⟩
    · rintro ⟨rfl, ⟨hcontent, -, htheme⟩, rfl⟩
      refine ⟨_, _, ⟨rfl, hcontent, rfl⟩, ?_⟩
      rw [if_neg Bool.false_ne_true]
      exact on_bind_eq_ok.mpr ⟨_, _, on_pure_eq_ok.mpr ⟨rfl, rfl⟩, hend.mpr ⟨rfl, htheme, rfl⟩⟩

theorem listed_subset (hq : q ∈ p.listed h) : q ∈ p.places h := by
  rw [listed, List.mem_append] at hq
  rw [places, List.mem_append]
  refine hq.imp (fun hq => ?_) fun hq => ?_
  · split at hq
    · exact (List.mem_filter.mp hq).1
    · cases hq
  · split at hq
    · exact hq
    · cases hq

theorem mem_listed_of_file (hsound : h.Sound) (hq : q ∈ p.places h)
    (hfile : (h.fileAt? q).isSome = true) : q ∈ p.listed h := by
  rw [places, List.mem_append, List.mem_singleton] at hq
  rw [listed, List.mem_append]
  rcases hq with hq | rfl
  · left
    cases hdir : h.seesDirectory p.contentDir with
    | false =>
      rw [fileAt?, look_of_mem_below hsound hdir hq] at hfile
      cases hfile
    | true =>
      refine List.mem_filter.mpr ⟨hq, ?_⟩
      by_contra hnot
      rw [fileAt?_of_seesDirectory (by simpa using hnot)] at hfile
      cases hfile
  · right
    rw [h.seesFile_eq, if_pos hfile]
    exact List.mem_singleton_self _

/-- The stamps of the sources. -/
def stamps (p : Preview) (h : Host) : List SourceStamp :=
  (p.places h).filterMap (h.stampAt? p.root)

/-- What is not listed has no stamp. -/
theorem filterMap_listed (hsound : h.Sound) :
    (p.listed h).filterMap (h.stampAt? p.root) = p.stamps h := by
  rw [listed, stamps, places, List.filterMap_append, List.filterMap_append]
  congr 1
  · cases hdir : h.seesDirectory p.contentDir with
    | true =>
      rw [if_pos rfl, List.filterMap_filter]
      refine List.filterMap_congr fun q _ => ?_
      split
      · rfl
      · rename_i hq
        exact (stampAt?_of_fileAt? (fileAt?_of_seesDirectory (by simpa using hq))).symm
    | false =>
      rw [if_neg Bool.false_ne_true, List.filterMap_nil, eq_comm, List.filterMap_eq_nil_iff]
      intro q hq
      rw [stampAt?, fileAt?, look_of_mem_below hsound hdir hq]
      rfl
  · rw [h.seesFile_eq]
    split
    · rfl
    · rename_i hnone
      rw [List.filterMap_nil, List.filterMap_cons,
        stampAt?_of_fileAt? (Option.not_isSome_iff_eq_none.mp hnone)]
      rfl

/-- The signature can be taken if all paths can be looked up and all files lie in the project; it
consists of the stamps of the sources. -/
theorem signature_eq_ok (hsound : h.Sound) {s? : Option Signature} :
    p.signature.on h = (.ok s?, h') ↔ h' = h ∧ p.Legible h ∧
      (∀ q ∈ p.places h, (h.fileAt? q).isSome = true → q.IsBelow p.root) ∧
      s? = signatureOf (p.stamps h) := by
  unfold signature
  simp only [on_bind_eq_ok, on_sources_eq_ok hsound, on_pure_eq_ok]
  constructor
  · rintro ⟨_, _, ⟨rfl, hlegible, rfl⟩, _, _, hstamps, rfl, rfl⟩
    obtain ⟨rfl, hinside, rfl⟩ := on_stampsOf_eq_ok.mp hstamps
    refine ⟨rfl, hlegible, fun q hq hfile => ?_, ?_⟩
    · exact hinside q (mem_listed_of_file hsound hq hfile) hfile
    · rw [filterMap_listed hsound]
      rfl
  · rintro ⟨rfl, hlegible, hinside, rfl⟩
    refine ⟨_, _, ⟨rfl, hlegible, rfl⟩, _, _, on_stampsOf_eq_ok.mpr ⟨rfl, ?_, rfl⟩, ?_, rfl⟩
    · exact fun q hq => hinside q (listed_subset hq)
    · rw [filterMap_listed hsound]
      rfl

/-- The signature can be taken if the sources lie in the project and no path is too long. -/
theorem exists_signature (hsound : h.Sound)
    (hcontent : p.contentDir.IsBelow p.root) (htheme : p.theme.IsBelow p.root)
    (hlegible : p.Legible h) : ∃ s?, p.signature.on h = (.ok s?, h) := by
  refine ⟨_, (signature_eq_ok hsound).mpr ⟨rfl, hlegible, fun q hq _ => ?_, rfl⟩⟩
  rw [places, List.mem_append, List.mem_singleton] at hq
  rcases hq with hq | rfl
  · obtain ⟨k, -, names, -, -, rfl⟩ := mem_below.mp hq
    exact (Path.isBelow_below _ _).trans hcontent
  · exact htheme

/-- The stamps are those of the files below the directory of the slides, then that of the style
sheet. -/
theorem stamps_eq (p : Preview) (h : Host) : p.stamps h =
    (filesBelow h p.contentDir).filterMap (h.stampAt? p.root) ++
      (h.stampAt? p.root p.theme).toList := by
  have hfiles : (below h p.contentDir).filterMap (h.stampAt? p.root) =
      (filesBelow h p.contentDir).filterMap (h.stampAt? p.root) := by
    rw [filesBelow, List.filterMap_filter]
    refine List.filterMap_congr fun q _ => ?_
    split
    · rfl
    · rename_i hnone
      exact stampAt?_of_fileAt? (Option.not_isSome_iff_eq_none.mp hnone)
  rw [stamps, places, List.filterMap_append, hfiles]
  cases hstamp : h.stampAt? p.root p.theme with
  | none => simp [hstamp]
  | some s => simp [hstamp]

/-- A source is listed if it has a stamp. -/
theorem mem_filter_filesBelow (hsound : h.Sound) :
    q ∈ (filesBelow h dir).filter (fun q => (h.stampAt? root q).isSome) ↔
      (∃ names, names ≠ [] ∧ (∀ name ∈ names, Tree.IsEntryName name) ∧ q = dir.below names) ∧
        (h.stampAt? root q).isSome = true := by
  rw [List.mem_filter, mem_filesBelow hsound, and_assoc]
  refine and_congr_right fun _ => and_iff_right_of_imp fun hstamp => ?_
  by_contra hnone
  rw [stampAt?_of_fileAt? (by simpa using hnone)] at hstamp
  cases hstamp

/-- Where the sources have the same stamps, the stamps are the same. -/
theorem stamps_congr (hg : g.Sound) (hh : h.Sound)
    (hsame : ∀ q, p.IsSource q → g.stampAt? p.root q = h.stampAt? p.root q) :
    p.stamps g = p.stamps h := by
  -- Both lists of stamps come from the files that have one.
  have hfilter : ∀ h : Host, (filesBelow h p.contentDir).filterMap (h.stampAt? p.root) =
      ((filesBelow h p.contentDir).filter fun q => (h.stampAt? p.root q).isSome).filterMap
        (h.stampAt? p.root) := by
    intro h
    rw [List.filterMap_filter]
    refine List.filterMap_congr fun q _ => ?_
    split
    · rfl
    · rename_i hnone
      exact Option.not_isSome_iff_eq_none.mp hnone
  have hfiles : (filesBelow g p.contentDir).filter (fun q => (g.stampAt? p.root q).isSome) =
      (filesBelow h p.contentDir).filter fun q => (h.stampAt? p.root q).isSome := by
    refine ((pairwise_filesBelow g _).filter _).eq_of_mem_iff ((pairwise_filesBelow h _).filter _)
      fun q => ?_
    rw [mem_filter_filesBelow hg, mem_filter_filesBelow hh]
    exact and_congr_right fun hq => by rw [hsame q (.inr hq)]
  rw [stamps_eq, stamps_eq, hsame _ (.inl rfl), hfilter g, hfilter h, hfiles]
  congr 1
  refine List.filterMap_congr fun q hq => hsame q (.inr ?_)
  exact ((mem_filter_filesBelow hh).mp hq).1

theorem stampAt?_congr (hsame : g.fileAt? q = h.fileAt? q) :
    g.stampAt? root q = h.stampAt? root q := by
  rw [stampAt?, stampAt?, hsame]

/-- **The signature depends on the sources only**: where the same files are seen at their paths, it
is the same, whatever else is different. -/
theorem signature_congr (hg : g.Sound) (hh : h.Sound)
    (hsame : ∀ q, p.IsSource q → g.fileAt? q = h.fileAt? q) {s? s'? : Option Signature}
    (hs : p.signature.on g = (.ok s?, g)) (hs' : p.signature.on h = (.ok s'?, h)) : s? = s'? := by
  obtain ⟨-, -, -, rfl⟩ := (signature_eq_ok hg).mp hs
  obtain ⟨-, -, -, rfl⟩ := (signature_eq_ok hh).mp hs'
  rw [stamps_congr hg hh fun q hq => stampAt?_congr (hsame q hq)]

/-- Where the same files are seen at the paths of the sources, the signature can be taken again if
no path has become too long. -/
theorem signature_of_legible (hg : g.Sound) (hh : h.Sound)
    (hsame : ∀ q, p.IsSource q → g.fileAt? q = h.fileAt? q) {s? : Option Signature}
    (hs : p.signature.on h = (.ok s?, h)) (hlegible : p.Legible g) :
    p.signature.on g = (.ok s?, g) := by
  obtain ⟨-, -, hinside, rfl⟩ := (signature_eq_ok hh).mp hs
  refine (signature_eq_ok hg).mpr ⟨rfl, hlegible, fun q hq hfile => ?_, by
    rw [stamps_congr hg hh fun q hq => stampAt?_congr (hsame q hq)]⟩
  -- A file that is seen there now was seen there before.
  rw [places, List.mem_append, List.mem_singleton] at hq
  rcases hq with hq | rfl
  · have hq' : q ∈ filesBelow g p.contentDir := List.mem_filter.mpr ⟨hq, hfile⟩
    have hsource : p.IsSource q := .inr ((mem_filesBelow hg).mp hq').1
    rw [hsame q hsource] at hfile
    have hbelow := (mem_filesBelow hh).mpr ⟨((mem_filesBelow hg).mp hq').1, hfile⟩
    exact hinside q (List.mem_append_left _ (List.mem_filter.mp hbelow).1) hfile
  · rw [hsame _ (.inl rfl)] at hfile
    exact hinside _ (List.mem_append_right _ (List.mem_singleton_self _)) hfile

/-- A host that shows the same has the same signature. -/
theorem signature_of_sameFiles (hsound : h.Sound) (hsame : h.SameFiles h') {s? : Option Signature}
    (hs : p.signature.on h = (.ok s?, h)) : p.signature.on h' = (.ok s?, h') := by
  have hplaces : p.places h' = p.places h := by
    rw [places, places, below, below, hsame.locate, hsame.tree]
  refine signature_of_legible (hsame.sound hsound) hsound (fun q _ => hsame.fileAt? q) hs
    fun q hq => ?_
  rw [hsame.look]
  exact ((signature_eq_ok hsound).mp hs).2.1 q (hplaces ▸ hq)

end Preview

end DeckPress
