import DeckPress.Proofs.Site.Promotion
import DeckPress.Proofs.Text.Utf8

/-!
# How the relinking of one page ends

A page is read, relinked and written back.  The result is known to the byte, and nothing is written
before all that can keep the page from being read has been met.

* `filter_relink` — characters that no rule takes out or puts in are left as they are, in number and
  order.
* `head?_relink` — the character with which a page begins is kept as well, unless it begins the name
  of the readme page.  For the mark that tells the order of bytes, this is a fact about bytes.
* `Hurdle` — what keeps a page from being relinked; `hurdle_or_relinkable` — a page has a hurdle or
  can be relinked.
* `relinkPage_endings` — the two ways in which it ends.
-/

namespace DeckPress

namespace Text

variable {p r s : Text} {c : Char} {keep : Char → Bool}

theorem filter_interleave (hr : r.filter keep = []) (s : Text) :
    (interleave r s).filter keep = s.filter keep := by
  induction s with
  | nil => exact hr
  | cons c s ih =>
    rw [interleave, List.filter_append, hr, List.nil_append, List.filter_cons, ih, List.filter_cons]

theorem filter_scan (hp : p ≠ []) (hpk : p.filter keep = []) (hr : r.filter keep = []) (s : Text) :
    (scan p r 0 s).filter keep = s.filter keep := by
  induction s using scan_induct hp with
  | nil => rw [scan_nil]
  | found s ih => rw [scan_found hp, List.filter_append, List.filter_append, hr, hpk, ih]
  | kept c s hc ih => rw [scan_kept hc, List.filter_cons, ih, List.filter_cons]

/-- Replacement leaves alone what is neither in the text that is searched for nor in the text that
is put in. -/
theorem filter_replace (hpk : p.filter keep = []) (hr : r.filter keep = []) (s : Text) :
    (replace p r s).filter keep = s.filter keep := by
  by_cases hp : p = []
  · subst hp
    exact filter_interleave hr s
  · rw [replace_eq_scan hp, filter_scan hp hpk hr]

/-- The first character is kept unless an occurrence begins there. -/
theorem head?_replace (hp : p ≠ []) (hr : r ≠ []) (s : Text) :
    (replace p r s).head? = if p <+: s then r.head? else s.head? := by
  rw [replace_eq_scan hp]
  by_cases hs : p <+: s
  · rw [if_pos hs]
    obtain ⟨s, rfl⟩ := hs
    rw [scan_found hp, List.head?_append_of_ne_nil _ hr]
  · rw [if_neg hs]
    cases s with
    | nil => rw [scan_nil]
    | cons c s => rw [scan_kept hs, List.head?_cons, List.head?_cons]

/-- A text begins with a character that is not put in just if it did so before, and this was not
replaced. -/
theorem head?_replace_eq_iff (hp : p ≠ []) (hr : r ≠ []) (hc : r.head? ≠ some c) :
    (replace p r s).head? = some c ↔ s.head? = some c ∧ ¬ p <+: s := by
  rw [head?_replace hp hr]
  split
  · rename_i hs
    exact ⟨fun h => absurd h hc, fun h => absurd hs h.2⟩
  · rename_i hs
    exact ⟨fun h => ⟨h, hs⟩, fun h => h.1⟩

/-- So it is in particular if the character begins neither text. -/
theorem head?_replace_other (hp : p ≠ []) (hr : r ≠ []) (hpc : p.head? ≠ some c)
    (hrc : r.head? ≠ some c) : (replace p r s).head? = some c ↔ s.head? = some c := by
  rw [head?_replace_eq_iff hp hr hrc]
  refine ⟨fun h => h.1, fun h => ⟨h, ?_⟩⟩
  rintro ⟨t, rfl⟩
  rw [List.head?_append_of_ne_nil _ hp] at h
  exact hpc h

end Text

namespace Utf8

/-- The bytes that some editors put at the beginning of a text. -/
def orderMark : List UInt8 := [0xEF, 0xBB, 0xBF]

/-- The mark is a character like any other. -/
theorem orderMark_prefix_encode {t : Text} : orderMark <+: encode t ↔ t.head? = some '\uFEFF' := by
  have hmark : String.utf8EncodeChar '\uFEFF' = orderMark := by decide
  constructor
  · rintro ⟨rest, hrest⟩
    have hdecoded := decodeFrom_encode t 0
    rw [← hrest, ← hmark, decodeFrom_utf8EncodeChar_append] at hdecoded
    obtain ⟨s, -, rfl⟩ := map_cons_eq_ok hdecoded
    rfl
  · intro h
    cases t with
    | nil => cases h
    | cons c t =>
      cases h
      exact ⟨encode t, by rw [← hmark]; rfl⟩

theorem encode_injective : Function.Injective encode := fun s t h => by
  have hs := decode_encode s
  rw [h, decode_encode] at hs
  cases hs
  rfl

end Utf8

namespace Links

open Text Rule

variable {rules : List Rule} {keep : Char → Bool} {readme page : Text} {c : Char}

/-- Characters that are in no rule are left as they are, in number and order. -/
theorem filter_relink
    (hrules : ∀ r ∈ rules, r.search.filter keep = [] ∧ r.replacement.filter keep = [])
    (page : Text) : (relink rules page).filter keep = page.filter keep := by
  induction rules generalizing page with
  | nil => rfl
  | cons r rules ih =>
    obtain ⟨hr, hrules⟩ := List.forall_mem_cons.mp hrules
    rw [relink_cons, ih hrules, filter_replace hr.1 hr.2]

/-- Whether a character ends a line or is part of what does. -/
def isLineEnd (c : Char) : Bool := c = '\r' || c = '\n'

/-- Pages keep their line ends, whether of one character or of two. -/
theorem filter_relink_forReadme (hreadme : readme.filter isLineEnd = []) (page : Text) :
    (relink (forReadme readme) page).filter isLineEnd = page.filter isLineEnd := by
  refine filter_relink ?_ page
  simp only [forReadme, List.forall_mem_cons]
  have hname : ".html".toList.filter isLineEnd = [] := by decide
  have hindex : "index.html".toList.filter isLineEnd = [] := by decide
  refine ⟨by decide, by decide, ⟨?_, hindex⟩, List.forall_mem_nil _⟩
  rw [index, List.filter_append, hreadme, hname, List.append_nil]

/-- A page begins with a character that begins no link just if it did so before, and this was not
the name of the readme page. -/
theorem head?_relink (hc : c ∉ ['h', '.', 'i']) (readme page : Text) :
    (relink (forReadme readme) page).head? = some c ↔
      page.head? = some c ∧ ¬ readme ++ ".html".toList <+: relink [assets, sources] page := by
  simp only [List.mem_cons, List.not_mem_nil, or_false, not_or] at hc
  obtain ⟨hh, hdot, hi⟩ := hc
  have hother : ∀ {s : Text} {d : Char}, s.head? = some d → c ≠ d → s.head? ≠ some c := by
    intro s d hs hd
    rw [hs]
    simpa using Ne.symm hd
  have hassets : (replace assets.search assets.replacement page).head? = some c ↔
      page.head? = some c :=
    head?_replace_other (by decide) (by decide) (hother (by decide) hh) (hother (by decide) hh)
  have hsources : (relink [assets, sources] page).head? = some c ↔ page.head? = some c := by
    rw [relink_cons, relink_cons, relink_nil, ← hassets]
    exact head?_replace_other (by decide) (by decide) (hother (by decide) hdot)
      (hother (by decide) hdot)
  have hlast : relink (forReadme readme) page =
      replace (readme ++ ".html".toList) "index.html".toList (relink [assets, sources] page) := rfl
  have hne : readme ++ ".html".toList ≠ [] := by simp
  rw [hlast, head?_replace_eq_iff hne (by decide) (hother (by decide) hi), hsources]

end Links

namespace Site

open Act

variable {h h' : Host} {page : Path} {k : Loc} {f g : File} {c : Cause} {text : Text}
  {r : Except Failure Bool} {rules : List Links.Rule} {readme : Text}

/-! ## What keeps a page from being relinked -/

/-- What keeps a page from being relinked.  The causes are in the order in which they are met, and
each of them is one only if none of those before it is. -/
inductive Hurdle (h : Host) (page : Path) : Cause → Prop where
  /-- A failure waits for reading it. -/
  | unreadable (c : Cause) (hread : h.waiting? .read page = some c) : Hurdle h page c
  /-- There is no such file. -/
  | missing (e : Errno) (hread : h.waiting? .read page = none)
    (hfind : h.locate page >>= h.tree.readFile = .error e) : Hurdle h page (e.on page)
  /-- Its bytes are no text. -/
  | noText (k : Loc) (f : File) (e : Utf8.DecodeError) (hread : h.waiting? .read page = none)
    (hfile : LeadsToFile h page k f) (he : Utf8.decode f.bytes = .error e) :
    Hurdle h page (.undecodable e)
  /-- A failure waits for writing it. -/
  | unwritable (k : Loc) (f : File) (text : Text) (c : Cause)
    (hread : h.waiting? .read page = none) (hfile : LeadsToFile h page k f)
    (htext : Utf8.decode f.bytes = .ok text) (hwrite : h.waiting? .write page = some c) :
    Hurdle h page c

/-- A page that can be read as a text and written. -/
structure Relinkable (h : Host) (page : Path) (k : Loc) (f : File) (text : Text) : Prop where
  read : h.waiting? .read page = none
  file : LeadsToFile h page k f
  text : Utf8.decode f.bytes = .ok text
  write : h.waiting? .write page = none

/-- What leads to no file cannot be opened. -/
theorem on_openFile_error (hnul : page.hasNul = false) {e : Errno}
    (hfind : h.locate page >>= h.tree.readFile = .error e) :
    (openFile page).on h = (.error (.cause (e.on page)), h) := by
  rw [openFile, lookUp, on_bind_of_ok (on_guardPath hnul), on_get_bind, hfind]
  rfl

theorem leadsToFile_of_find (hnul : page.hasNul = false)
    (hfind : h.locate page >>= h.tree.readFile = .ok f) : ∃ k, LeadsToFile h page k f := by
  cases hk : h.locate page with
  | error e =>
    rw [hk] at hfind
    cases hfind
  | ok k =>
    rw [hk] at hfind
    exact ⟨k, ⟨hnul, hk⟩, Tree.readFile_eq_ok.mp hfind⟩

/-- A page has a hurdle or can be relinked. -/
theorem hurdle_or_relinkable (h : Host) (hnul : page.hasNul = false) :
    (∃ c, Hurdle h page c) ∨ ∃ k f text, Relinkable h page k f text := by
  cases hread : h.waiting? .read page with
  | some c => exact .inl ⟨c, .unreadable c hread⟩
  | none =>
    cases hfind : h.locate page >>= h.tree.readFile with
    | error e => exact .inl ⟨_, .missing e hread hfind⟩
    | ok f =>
      obtain ⟨k, hfile⟩ := leadsToFile_of_find hnul hfind
      cases htext : Utf8.decode f.bytes with
      | error e => exact .inl ⟨_, .noText k f e hread hfile htext⟩
      | ok text =>
        cases hwrite : h.waiting? .write page with
        | some c => exact .inl ⟨c, .unwritable k f text c hread hfile htext hwrite⟩
        | none => exact .inr ⟨k, f, text, hread, hfile, htext, hwrite⟩

/-- Failures of the file system and of texts wait for reading and writing. -/
def ExpectedPageFaults (h : Host) : Prop :=
  ∀ f ∈ h.faults, f.call = .read ∨ f.call = .write → isPageCause f.cause = true

theorem ExpectedPageFaults.of_fault? (hx : ExpectedPageFaults h) {call : Call}
    (hcall : call = .read ∨ call = .write) (hc : h.waiting? call page = some c) :
    isPageCause c = true := by
  obtain ⟨fault, hmem, rfl, rfl⟩ := Host.exists_of_waiting? hc
  exact hx fault hmem hcall

/-- A hurdle ends the build at the page, and the page is not touched. -/
theorem relinkPage_of_hurdle (hx : ExpectedPageFaults h) (hnul : page.hasNul = false)
    (hc : Hurdle h page c) : (relinkPage rules page).on h =
      (.error (.site { path := page, problem := .failed c }), h) := by
  cases hc with
  | unreadable c hread =>
    refine on_onFile_cause (on_bind_of_error ?_) (hx.of_fault? (.inl rfl) hread)
    rw [readPage, on_bind, on_heed, hread]
  | missing e hread hfind =>
    refine on_onFile_cause (on_bind_of_error ?_) rfl
    rw [readPage, on_bind, on_heed, hread]
    exact on_bind_of_error (on_openFile_error hnul hfind)
  | noText k f e hread hfile he =>
    exact relinkPage_stops hfile.toReaches hfile.file (by rw [obstacle?, hread, he]) rfl
  | unwritable k f text c hread hfile htext hwrite =>
    refine relinkPage_stops hfile.toReaches hfile.file ?_ (hx.of_fault? (.inr rfl) hwrite)
    rw [obstacle?, hread, htext]
    exact hwrite

/-- Without a hurdle the page is replaced, and it is told whether its text is another one. -/
theorem on_relinkPage (rules : List Links.Rule) (hp : Relinkable h page k f text) :
    (relinkPage rules page).on h = (.ok (decide (Links.relink rules text ≠ text)),
      { h.commit (h.tree.set k (.file (relinkedFile rules f text h.stamp))) with
        stamp := h.stamp + 1 }) := by
  have hread := on_readPage hp.file.toReaches hp.file.file
  have hwrite := on_writePage hp.file.toReaches hp.file.file
    (Utf8.encode (Links.relink rules text))
  rw [hp.read] at hread
  rw [hp.write] at hwrite
  refine on_onFile_eq_ok.mpr (on_bind_eq_ok.mpr ⟨f.bytes, h, hread, ?_⟩)
  rw [hp.text]
  exact on_bind_eq_ok.mpr ⟨text, h, on_lift_eq_ok.mpr ⟨rfl, rfl⟩,
    on_bind_eq_ok.mpr ⟨(), _, hwrite, rfl⟩⟩

/-! ## The whole -/

/-- The ways in which the relinking of a page ends: what it gives or fails with, and the tree that
is left. -/
inductive PageEnding (h : Host) (readme : Text) (page : Path) :
    Except Failure Bool → Tree → Prop where
  /-- Nothing keeps the page from being relinked.  It is written anew from its text, with its line
  ends and, in general, its mark; no other place is touched. -/
  | relinked (k : Loc) (f g : File) (text : Text) (u : Tree) (hp : Relinkable h page k f text)
    (hu : ∀ q, u.get? q = if q = k then some (.file g) else h.tree.get? q)
    (hbytes : g.bytes = Utf8.encode (Links.relink (Links.Rule.forReadme readme) text))
    (hrun : g.isExecutable = f.isExecutable)
    (hlines : (Links.relink (Links.Rule.forReadme readme) text).filter Links.isLineEnd =
      text.filter Links.isLineEnd)
    (hmark : Utf8.orderMark <+: g.bytes ↔ Utf8.orderMark <+: f.bytes ∧
      ¬ readme ++ ".html".toList <+: Links.relink [Links.Rule.assets, Links.Rule.sources] text) :
    PageEnding h readme page (.ok (decide (g.bytes ≠ f.bytes))) u
  /-- Something does, and the build fails at the page for just this cause. -/
  | blamed (c : Cause) (e : SiteError) (hc : Hurdle h page c) (he : Blames e page c) :
    PageEnding h readme page (.error (.site e)) h.tree

/-- **How the relinking of a page ends**, whatever its bytes are and whatever failures wait for
reading and writing it.  If it can be read as a text and written, it holds exactly the bytes of the
relinked text, with the line ends that it had; the mark at its beginning is kept unless it begins
the name of the readme page; no other place is touched; and the result tells whether the bytes are
others.  If not, the build fails at the page, and the tree is as it was. -/
theorem relinkPage_endings (hx : ExpectedPageFaults h) (hnul : page.hasNul = false)
    (hreadme : readme.filter Links.isLineEnd = [])
    (hrun : (relinkPage (Links.Rule.forReadme readme) page).on h = (r, h')) :
    PageEnding h readme page r h'.tree := by
  rcases hurdle_or_relinkable h hnul with ⟨c, hc⟩ | ⟨k, f, text, hp⟩
  · rw [relinkPage_of_hurdle hx hnul hc] at hrun
    cases hrun
    exact .blamed c _ hc (blames page c)
  · rw [on_relinkPage _ hp] at hrun
    cases hrun
    have hbytes : f.bytes = Utf8.encode text := Utf8.decode_eq_ok.mp hp.text
    have hflag : decide (Links.relink (Links.Rule.forReadme readme) text ≠ text) =
        decide (Utf8.encode (Links.relink (Links.Rule.forReadme readme) text) ≠ f.bytes) := by
      rw [hbytes, decide_eq_decide, Utf8.encode_injective.ne_iff]
    rw [hflag]
    refine .relinked k f (relinkedFile (Links.Rule.forReadme readme) f text h.stamp) text _ hp
      (fun q => Tree.get?_set hp.file.ne_nil) rfl rfl
      (Links.filter_relink_forReadme hreadme text) ?_
    show Utf8.orderMark <+: Utf8.encode _ ↔ _
    rw [hbytes, Utf8.orderMark_prefix_encode, Utf8.orderMark_prefix_encode]
    exact Links.head?_relink (by decide) readme text

/-- A page with a mark, with both kinds of line ends and with a link to the readme page. -/
def marked : Tree :=
  (∅ : Tree).set ["p.html"]
    (.file ⟨Utf8.encode "\uFEFFREADME.md\r\nREADME\r.md\n".toList, 0, false⟩)

/-- One page is relinked, and another one is not there. -/
theorem relinkPage_endings_marked : ExpectedPageFaults (hostOf marked) ∧
    (⟨.top, ["p.html"]⟩ : Path).hasNul = false ∧ (⟨.top, ["q.html"]⟩ : Path).hasNul = false ∧
    "README".toList.filter Links.isLineEnd = [] ∧ ∃ h' e,
      (relinkPage (Links.Rule.forReadme "README".toList) ⟨.top, ["p.html"]⟩).on (hostOf marked) =
        (.ok true, h') ∧
      PageEnding (hostOf marked) "README".toList ⟨.top, ["p.html"]⟩ (.ok true) h'.tree ∧
      PageEnding (hostOf marked) "README".toList ⟨.top, ["q.html"]⟩ (.error (.site e)) marked := by
  have hx : ExpectedPageFaults (hostOf marked) := fun f hf => absurd hf List.not_mem_nil
  have hreadme : "README".toList.filter Links.isLineEnd = [] := by decide
  have hthere : ((relinkPage (Links.Rule.forReadme "README".toList) ⟨.top, ["p.html"]⟩).on
      (hostOf marked)).1 = .ok true := by decide +kernel
  have hmissing : Hurdle (hostOf marked) ⟨.top, ["q.html"]⟩
      (Errno.noEntry.on ⟨.top, ["q.html"]⟩) := .missing _ rfl (by decide +kernel)
  have hgone : (relinkPage (Links.Rule.forReadme "README".toList) ⟨.top, ["q.html"]⟩).on
      (hostOf marked) = _ := relinkPage_of_hurdle hx rfl hmissing
  cases hrun : (relinkPage (Links.Rule.forReadme "README".toList) ⟨.top, ["p.html"]⟩).on
    (hostOf marked) with
  | mk r h' =>
    rw [hrun] at hthere
    cases hthere
    exact ⟨hx, rfl, rfl, hreadme, h', _, rfl, relinkPage_endings hx rfl hreadme hrun,
      relinkPage_endings hx rfl hreadme hgone⟩

/-- A page that begins with a mark and holds the name of the page of a document that is called like
the mark. -/
def markNamed : Tree :=
  (∅ : Tree).set ["p.html"] (.file ⟨Utf8.encode "\uFEFF.html".toList, 0, false⟩)

/-- **A mark can be lost, and a page can fail without being blamed.**  If the name of the readme
document begins with the mark, a page may begin with a link to it, which is relinked.  And a path
that no file can have is refused in a way that is not a failure of the build. -/
theorem relinkPage_loses_mark :
    (∃ f h' g, LeadsToFile (hostOf markNamed) ⟨.top, ["p.html"]⟩ ["p.html"] f ∧
      (relinkPage (Links.Rule.forReadme ['\uFEFF']) ⟨.top, ["p.html"]⟩).on (hostOf markNamed) =
        (.ok true, h') ∧
      h'.tree.get? ["p.html"] = some (.file g) ∧ Utf8.orderMark <+: f.bytes ∧
      ¬ Utf8.orderMark <+: g.bytes) ∧
    ((relinkPage (Links.Rule.forReadme Links.defaultReadme) ⟨.top, ["a\x00b"]⟩).on
      (hostOf markNamed)).1 = .error (.cause .nulInPath) := by
  refine ⟨?_, by decide +kernel⟩
  have hp : Relinkable (hostOf markNamed) ⟨.top, ["p.html"]⟩ ["p.html"]
      ⟨Utf8.encode "\uFEFF.html".toList, 0, false⟩ "\uFEFF.html".toList :=
    ⟨rfl, ⟨⟨rfl, by decide +kernel⟩, by decide +kernel⟩, Utf8.decode_encode _, rfl⟩
  have hother : Links.relink (Links.Rule.forReadme ['\uFEFF']) "\uFEFF.html".toList ≠
      "\uFEFF.html".toList := by decide +kernel
  have hrun := on_relinkPage (Links.Rule.forReadme ['\uFEFF']) hp
  rw [decide_eq_true hother] at hrun
  refine ⟨_, _, _, hp.file, hrun, (Tree.get?_set hp.file.ne_nil).trans (if_pos rfl), ?_, ?_⟩
  · decide +kernel
  · decide +kernel

end Site

end DeckPress
