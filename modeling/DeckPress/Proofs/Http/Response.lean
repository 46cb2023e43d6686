import DeckPress.Proofs.Http.Lines
import DeckPress.Proofs.Http.Target
import DeckPress.Proofs.Site.Finish

/-!
# What the web server can answer

Every answer with a head is a refusal, the way to a directory, the notice that a file is known
already, or a file below the directory that is served.

* `Response.of_ofRequest` — the answers to a request, and the file that is shown.
* `Response.Asks.below`, `Response.Asks.index` — where the file lies that a request asks for.
* `answer_safe` — whatever is sent, the answer forbids caches to keep it, once; and it shows nothing
  but files below the directory.
-/

namespace DeckPress.Http

variable {h : Host} {directory p : Path} {raw : Text} {q : Request} {r : Response} {k : Loc}

/-! ## Answers -/

namespace Response

/-- The values of the fields of a name, in whatever case the names are written. -/
def values (r : Response) (name : String) : List Text :=
  (r.fields.filter fun f => Text.lower f.name = Text.lower name.toList).map (·.value)

/-- The file that a request asks for: the one that its target leads to, or an index of the directory
that its target leads to. -/
def Asks (h : Host) (directory : Path) (q : Request) (f : File) : Prop :=
  ∃ p k, Target.place directory q.target = .ok (some p) ∧ h.tree.get? k = some (.file f) ∧
    (h.locate p = .ok k ∨ ∃ name ∈ indexNames, h.locate (p.child name) = .ok k)

/-- The answers to a request. -/
inductive Answers (h : Host) (directory : Path) (q : Request) : Response → Prop where
  | refused (status : Nat) (hne : status ≠ 200) : Answers h directory q (refusal status)
  | redirected (a : Address) (ha : Target.split q.target = .ok a) :
    Answers h directory q (redirection a.asDirectory.text)
  | known : Answers h directory q (make 304 [] [])
  | shown (f : File) (hf : Asks h directory q f) :
    Answers h directory q (ofFile f (q.method = "HEAD".toList))

theorem answers_ofPath (hp : Target.place directory q.target = .ok (some p)) {p' : Path}
    (hp' : p' = p ∨ ∃ name ∈ indexNames, p' = p.child name) :
    Answers h directory q (ofPath h q p') := by
  rw [ofPath]
  cases hread : h.locate p' >>= h.tree.readFile with
  | error e => exact .refused 404 (by decide)
  | ok f =>
    cases hl : h.locate p' with
    | error e =>
      rw [hl] at hread
      cases hread
    | ok k =>
      rw [hl] at hread
      have hk : h.tree.get? k = some (.file f) := Tree.readFile_eq_ok.mp hread
      have hf : Asks h directory q f := by
        refine ⟨p, k, hp, hk, ?_⟩
        rcases hp' with rfl | ⟨name, hname, rfl⟩
        · exact .inl hl
        · exact .inr ⟨name, hname, hl⟩
      by_cases hknown : isKnown q f = true
      · simp only [hknown, if_true]
        exact .known
      · simp only [hknown]
        exact .shown f hf

theorem answers_ofDirectory (hp : Target.place directory q.target = .ok (some p))
    (hr : ofDirectory h q p = .ok r) : Answers h directory q r := by
  rw [ofDirectory] at hr
  cases ha : Target.split q.target with
  | error e =>
    rw [ha] at hr
    cases hr
  | ok a =>
    rw [ha] at hr
    simp only [bind, Except.bind] at hr
    split at hr
    · split at hr
      · rename_i name hname
        cases hr
        exact answers_ofPath hp (.inr ⟨name, List.mem_of_find?_eq_some hname, rfl⟩)
      · cases hr
        exact .refused 404 (by decide)
    · cases hr
      exact .redirected a ha

/-- A request is refused or redirected, its file is known, or the file is shown. -/
theorem of_ofRequest (hr : ofRequest h directory q = .ok r) : Answers h directory q r := by
  rw [ofRequest] at hr
  split at hr
  · rw [ofTarget] at hr
    split at hr
    · split at hr
      · cases hr
        exact .refused 404 (by decide)
      · cases hr
    · cases hr
      exact .refused 404 (by decide)
    · rename_i p hp
      split at hr
      · cases hd : ofDirectory h q p with
        | error e =>
          rw [hd] at hr
          cases hr
        | ok r' =>
          rw [hd] at hr
          cases hr
          exact answers_ofDirectory hp hd
      · split at hr
        · cases hr
          exact .refused 404 (by decide)
        · cases hr
          exact answers_ofPath hp (.inl rfl)
  · cases hr
    exact .refused 501 (by decide)

/-! ## Fields -/

/-- A response written on lines: no line ends inside a field. -/
def IsWellWritten (r : Response) : Prop := ∀ f ∈ r.fields, Text.IsLine f.name ∧ Text.IsLine f.value

theorem isWellWritten_make {status : Nat} {fields : List Field} {body : List UInt8}
    (h : ∀ f ∈ fields, Text.IsLine f.name ∧ Text.IsLine f.value) :
    (make status fields body).IsWellWritten := by
  intro f hf
  rcases List.mem_append.mp hf with hf | hf
  · exact h f hf
  · rw [List.mem_singleton.mp hf]
    decide

theorem isLine_contentLength (n : Nat) :
    Text.IsLine (contentLength n).name ∧ Text.IsLine (contentLength n).value :=
  ⟨by show Text.IsLine "Content-Length".toList; decide, Text.isLine_toString n⟩

theorem isWellWritten_refusal (status : Nat) : (refusal status).IsWellWritten := by
  refine isWellWritten_make fun f hf => ?_
  rw [List.mem_singleton.mp hf]
  decide

theorem Answers.isWellWritten (hr : Answers h directory q r) (hq : Text.IsLine q.target) :
    r.IsWellWritten := by
  cases hr with
  | refused status _ => exact isWellWritten_refusal status
  | redirected a ha =>
    obtain ⟨hscheme, hhost, hpath, hquery, hfragment⟩ := Target.isLine_of_split hq ha
    have hdirectory : Text.IsLine a.asDirectory.path :=
      Text.isLine_append.mpr ⟨hpath, by decide⟩
    have hlocation : Text.IsLine a.asDirectory.text :=
      Address.isLine_text hscheme hhost hdirectory hquery hfragment
    refine isWellWritten_make fun f hf => ?_
    simp only [List.mem_cons, List.not_mem_nil, or_false] at hf
    rcases hf with rfl | rfl
    · exact ⟨by show Text.IsLine "Location".toList; decide, hlocation⟩
    · exact isLine_contentLength 0
  | known => exact isWellWritten_make (by simp)
  | shown f _ =>
    refine isWellWritten_make fun g hg => ?_
    rw [List.mem_singleton.mp hg]
    exact isLine_contentLength _

/-- Every answer forbids caches to keep it, in one field. -/
theorem Answers.values_noCaching (hr : Answers h directory q r) :
    r.values "Cache-Control" = ["no-cache, no-store, must-revalidate".toList] := by
  cases hr <;> rfl

theorem values_contentLength_ofFile (f : File) (isHeadOnly : Bool) :
    (ofFile f isHeadOnly).values "Content-Length" = [(toString f.bytes.length).toList] := rfl

theorem values_noCaching_refusal (status : Nat) : (refusal status).values "Cache-Control" =
    ["no-cache, no-store, must-revalidate".toList] := rfl

end Response

theorem status_of_refused {status : Nat} {wantsHead : Bool}
    (h : Request.read raw = .refused status wantsHead) : status ≠ 200 := by
  have hwords : ∀ words b rest, Request.ofWords words b rest = .refused status wantsHead →
      status ≠ 200 := by
    intro words b rest hw
    have hfields : ∀ method target, Request.withFields method target b rest =
        .refused status wantsHead → status ≠ 200 := by
      intro method target hf
      rw [Request.withFields] at hf
      split at hf <;> cases hf
      decide
    rw [Request.ofWords.eq_def] at hw
    split at hw
    · split at hw
      · exact hfields _ _ hw
      · cases hw
        decide
    · exact hfields _ _ hw
    · cases hw
      decide
  rw [Request.read] at h
  dsimp only at h
  split at h
  · cases h
    decide
  · split at h
    · cases h
    · split at h
      · cases h
        decide
      · split at h
        · cases h
          decide
        · exact hwords _ _ _ h
    · exact hwords _ _ _ h

open Response

/-- What is sent with a head: a refusal of what could not be read, or an answer to a request. -/
theorem of_answer (hr : answer h directory raw = .ok (.response r)) :
    (∃ status, status ≠ 200 ∧ r = refusal status) ∨
      ∃ q, Request.read raw = .request q ∧ Answers h directory q r := by
  have hof : ∀ b r', Reply.of b r' = .response r → r' = r := by
    intro b r' h
    rw [Reply.of] at h
    split at h
    · cases h
      rfl
    · cases h
  rw [answer] at hr
  split at hr
  · cases hr
  · rename_i status b hread
    rw [Except.ok.injEq] at hr
    exact .inl ⟨status, status_of_refused hread, (hof _ _ hr).symm⟩
  · rename_i q hread
    cases hq : ofRequest h directory q with
    | error c =>
      rw [hq] at hr
      cases hr
    | ok r' =>
      rw [hq] at hr
      have hr : Reply.of q.wantsHead r' = .response r := Except.ok.inj hr
      rw [← hof _ _ hr]
      exact .inr ⟨q, hread, of_ofRequest hq⟩

/-- The file that a request asks for lies below the directory, wherever that leads. -/
theorem Response.Asks.below {f : File} (hf : Asks h directory q f) :
    ∃ d names, h.locate directory = .ok d ∧ h.tree.get? (d ++ names) = some (.file f) := by
  obtain ⟨p, k, hp, hk, hl⟩ := hf
  obtain ⟨ns, -, rfl, hns⟩ := Target.place_eq_ok hp
  have hindex : ∀ name ∈ indexNames, Tree.IsEntryName name := by decide
  rcases hl with hl | ⟨name, hname, hl⟩
  · obtain ⟨d, hd, rfl⟩ := Tree.of_locate_below hns hl
    exact ⟨d, ns, hd, hk⟩
  · rw [← Path.below_concat] at hl
    have hnames : ∀ n ∈ ns ++ [name], Tree.IsEntryName n :=
      List.forall_mem_append.mpr ⟨hns, List.forall_mem_singleton.mpr (hindex name hname)⟩
    obtain ⟨d, hd, rfl⟩ := Tree.of_locate_below hnames hl
    exact ⟨d, ns ++ [name], hd, hk⟩

/-- A request that leads to a directory asks for an index of it. -/
theorem Response.Asks.index {f : File} (hf : Asks h directory q f)
    (hp : Target.place directory q.target = .ok (some p)) (hl : h.locate p = .ok k)
    (hk : h.tree.get? k = some .directory) :
    ∃ name ∈ indexNames, h.tree.get? (k ++ [name]) = some (.file f) := by
  obtain ⟨p', k', hp', hk', hl'⟩ := hf
  obtain rfl : p = p' := by
    rw [hp] at hp'
    cases hp'
    rfl
  have hindex : ∀ name ∈ indexNames, Tree.IsEntryName name := by decide
  rcases hl' with hl' | ⟨name, hname, hl'⟩
  · rw [hl] at hl'
    cases hl'
    rw [hk] at hk'
    cases hk'
  · have hentry := hindex name hname
    obtain ⟨j, hj, -, -, -, rfl⟩ :=
      (Tree.locate_child_eq_ok hentry.1 hentry.2.2.1).mp hl'
    have hjk : Except.ok j = Except.ok k := hj.symm.trans hl
    cases hjk
    exact ⟨name, hname, hk'⟩

/-- **The web server shows nothing but files below its directory, and no answer may be kept.**
Whatever is received, an answer with a head has one field that forbids caches to keep it, and no
line ends inside its fields.  An answer with status 200 has the bytes of a file below the directory,
or nothing if only a head was asked for, and tells their number.  A directory without an index is
not shown. -/
theorem answer_safe (hr : answer h directory raw = .ok (.response r)) :
    r.values "Cache-Control" = ["no-cache, no-store, must-revalidate".toList] ∧
      r.IsWellWritten ∧
      (r.status = 200 → ∃ q d names f, Request.read raw = .request q ∧
        h.locate directory = .ok d ∧ h.tree.get? (d ++ names) = some (.file f) ∧
        r.body = (if q.method = "HEAD".toList then [] else f.bytes) ∧
        r.values "Content-Length" = [(toString f.bytes.length).toList]) ∧
      ∀ q p k, Request.read raw = .request q → Target.place directory q.target = .ok (some p) →
        h.locate p = .ok k → h.tree.get? k = some .directory →
        (∀ name ∈ ["index.html", "index.htm"], h.tree.isFile (k ++ [name]) = false) →
        r.status ≠ 200 := by
  rcases of_answer hr with ⟨status, hne, rfl⟩ | ⟨q, hread, hq⟩
  · exact ⟨values_noCaching_refusal status, isWellWritten_refusal status,
      fun h200 => absurd h200 hne, fun _ _ _ _ _ _ _ _ => hne⟩
  · refine ⟨hq.values_noCaching, hq.isWellWritten (Request.isLine_target hread), ?_, ?_⟩
    · intro h200
      cases hq with
      | refused status hne => exact absurd h200 hne
      | redirected a _ => simp [redirection, make] at h200
      | known => simp [make] at h200
      | shown f hf =>
        obtain ⟨d, names, hd, hk⟩ := hf.below
        refine ⟨q, d, names, f, hread, hd, hk, ?_, values_contentLength_ofFile f _⟩
        simp only [ofFile, make, decide_eq_true_eq]
    · intro q' p k hread' hp hl hk hindex
      rw [hread] at hread'
      cases hread'
      cases hq with
      | refused status hne => exact hne
      | redirected a _ => simp [redirection, make]
      | known => simp [make]
      | shown f hf =>
        obtain ⟨name, hname, hfile⟩ := hf.index hp hl hk
        have := hindex name hname
        rw [Tree.isFile, hfile] at this
        cases this

/-- A request for a page whose target is written with escapes, dots and several slashes. -/
def crookedRequest : Text := "GET /%2e%2E//site/../intro%2ehtml?x HTTP/1.1\r\n\r\n".toList

/-- The page is shown however its target is written, and no answer to the request may be kept. -/
theorem answer_safe_crooked : ∃ r,
    answer (Site.hostOf Site.rendered) ⟨.top, ["site"]⟩ crookedRequest = .ok (.response r) ∧
      r.status = 200 ∧
      r.values "Cache-Control" = ["no-cache, no-store, must-revalidate".toList] ∧
      ∃ q d names f, Request.read crookedRequest = .request q ∧
        (Site.hostOf Site.rendered).locate ⟨.top, ["site"]⟩ = .ok d ∧
        Site.rendered.get? (d ++ names) = some (.file f) ∧
        r.body = (if q.method = "HEAD".toList then [] else f.bytes) := by
  have hok : (answer (Site.hostOf Site.rendered) ⟨.top, ["site"]⟩ crookedRequest).toOption =
      some (.response (ofFile ⟨Utf8.encode "<a href=\"README.md\">".toList, 0, false⟩ false)) := by
    decide +kernel
  cases hrun : answer (Site.hostOf Site.rendered) ⟨.top, ["site"]⟩ crookedRequest with
  | error c =>
    rw [hrun] at hok
    cases hok
  | ok reply =>
    rw [hrun] at hok
    cases hok
    obtain ⟨hcache, -, hshown, -⟩ := answer_safe hrun
    obtain ⟨q, d, names, f, hq, hd, hf, hbody, -⟩ := hshown rfl
    exact ⟨_, rfl, rfl, hcache, q, d, names, f, hq, hd, hf, hbody⟩

end DeckPress.Http
