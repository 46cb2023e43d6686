import DeckPress.Proofs.Preview.Escapes
import DeckPress.Proofs.Preview.Start

/-!
# The port of a preview

A preview has the port that it is given, or else the one that the document of the project names, or
else the default; its web server is opened on that port and on no other.

* `Settings.saidPort` — the port of a project whose preview is given none.
* `portNumberOf_given`, `portNumberOf_said` — a number counts for itself, and without one, or with
  zero, the document does.
* `Making` — how the making of a preview ends for which a port counts; `making_of_portNumberOf` —
  it is made with that port if there are paths for its directories.
* `Host.Opens` — the web servers that were opened in the meantime; `opensOn_run` — a preview that
  serves opens one, on its port.
-/

namespace DeckPress

open Act Host

variable {h h' h₁ : Host} {root : Path} {s : Settings} {p : Preview} {document? : Option Document}
  {number? : Option Int} {n : Int} {ns ms : List Int} {port : Except NumberError Int}

namespace Settings

/-- The port of a project whose preview is given none: what its document says of it, as a whole
number, or else the default. -/
def saidPort (document? : Option Document) : Except NumberError Int :=
  match document? with
  | none => .ok 4000
  | some d =>
    match said? d Settings.port with
    | some v => v.toWhole d.collections
    | none => .ok 4000

/-- A document that says something is a mapping, and its collections are those of the settings. -/
theorem collections_of_said? {d : Document} {key : String} {v : Value}
    (hv : said? d key = some v) : (ofDocument d).collections = d.collections := by
  rw [said?, Option.bind_eq_some_iff] at hv
  obtain ⟨entries, hentries, -⟩ := hv
  rw [ofDocument, hentries]

end Settings

namespace Preview

/-! ## The port that counts -/

/-- A number counts for itself, whatever the settings say. -/
theorem portNumberOf_given (s : Settings) (hn : n ≠ 0) : portNumberOf s (some n) = .ok n := by
  rw [portNumberOf, Option.filter_some, if_pos (decide_eq_true hn)]

/-- Without a number, or with zero, the settings of the project count. -/
theorem portNumberOf_said (document? : Option Document)
    (hnumber : number? = none ∨ number? = some 0) :
    portNumberOf (Settings.ofDocument? document?) number? = Settings.saidPort document? := by
  have hnone : number?.filter (· ≠ 0) = none := by
    rcases hnumber with rfl | rfl <;> rfl
  have hdefault : Settings.default.get? Settings.port = some (.int 4000) := rfl
  rw [portNumberOf, hnone, Settings.get?_ofDocument?, hdefault]
  cases document? with
  | none => rfl
  | some d =>
    rw [Option.bind_some, Settings.saidPort]
    cases hsaid : Settings.said? d Settings.port with
    | none => rfl
    | some v =>
      show v.toWhole (Settings.ofDocument d).collections = v.toWhole d.collections
      rw [Settings.collections_of_said? hsaid]

/-! ## Making a preview -/

/-- The settings give the finished site a directory with a name, so that there is a name for the
next one. -/
def AdmitsStaging (root : Path) (s : Settings) : Prop :=
  ∃ o, s.text Settings.outputDir = .ok o ∧ (root / o).names ≠ []

/-- Once the directory of the finished site is known there are three steps left. -/
theorem ofSettings_of_outputDir {o : String} (ho : s.text Settings.outputDir = .ok o)
    (hnames : (root / o).names ≠ []) : ofSettings root s number? = (do
      let c ← s.text Settings.contentDir
      let t ← s.text Settings.theme
      let n ← (portNumberOf s number?).mapError .number
      return {
        root, settings := s, outputDir := root / o, contentDir := root / c, theme := root / t
        stagingDir := (root / o).parent.child ((root / o).name ++ stagingSuffix)
        portNumber := n }) := by
  have hstaging : (root / o).withName? ((root / o).name ++ stagingSuffix) =
      some ((root / o).parent.child ((root / o).name ++ stagingSuffix)) := if_neg hnames
  simp only [ofSettings, ho, hstaging, bind, Except.bind]

/-- How the making of a preview ends if its directory has a name: it is made with the port, or the
port is none, or the slides or the style sheet have no path.  The host is left as it was. -/
inductive Making (h : Host) (root : Path) (s : Settings) (port : Except NumberError Int) :
    Except Failure Preview × Host → Prop where
  | made (p : Preview) (hroot : p.root = root) (hsettings : p.settings = s)
    (hport : port = .ok p.portNumber) : Making h root s port (.ok p, h)
  | noPort (e : NumberError) (hport : port = .error e) :
    Making h root s port (.error (.cause (.number e)), h)
  | unwritable (key : String) (hkey : key = Settings.contentDir ∨ key = Settings.theme)
    (e : NumberError) (he : s.Unwritable key e) :
    Making h root s port (.error (.cause (.number e)), h)

/-- The preview is made if the port is a number and all paths are known. -/
theorem Making.exists_preview {r : Except Failure Preview × Host} {c t : String}
    (hr : Making h root s (.ok n) r) (hc : s.text Settings.contentDir = .ok c)
    (ht : s.text Settings.theme = .ok t) : ∃ p, r = (.ok p, h) ∧ p.portNumber = n := by
  cases hr with
  | made p hroot hsettings hport =>
    cases hport
    exact ⟨p, rfl, rfl⟩
  | noPort e hport => cases hport
  | unwritable key hkey e he =>
    have hfails := he.text
    rcases hkey with rfl | rfl
    · rw [hc] at hfails
      cases hfails
    · rw [ht] at hfails
      cases hfails

/-- The preview of a project is made with the port that counts. -/
theorem making_of_portNumberOf (hload : (Settings.load root).on h = (.ok s, h))
    (hcomplete : s.IsComplete) (hadmits : AdmitsStaging root s)
    (hport : portNumberOf s number? = port) :
    Making h root s port ((ofProject root number?).on h) := by
  obtain ⟨o, ho, hnames⟩ := hadmits
  rw [ofProject, on_bind_of_ok hload, ofSettings_of_outputDir ho hnames, hport]
  cases hc : s.text Settings.contentDir with
  | error c =>
    obtain ⟨e, rfl, he⟩ := Settings.unwritable_of_text (hcomplete _ (by decide)) hc
    exact .unwritable _ (.inl rfl) e he
  | ok c =>
    cases ht : s.text Settings.theme with
    | error c' =>
      obtain ⟨e, rfl, he⟩ := Settings.unwritable_of_text (hcomplete _ (by decide)) ht
      exact .unwritable _ (.inr rfl) e he
    | ok t =>
      cases port with
      | error e => exact .noPort e rfl
      | ok n => exact .made _ rfl rfl rfl

end Preview

/-! ## Web servers -/

/-- The port of a web server that is opened. -/
def Event.portNumber? : Event → Option Int
  | .listening n => some n
  | _ => none

theorem Event.portNumber?_of_isStart {e : Event} (he : e.IsStart) : e.portNumber? = none := by
  obtain ⟨command, directory, rfl⟩ := he
  rfl

theorem Event.portNumber?_of_ne {e : Event} (he : ∀ n, e ≠ .listening n) :
    e.portNumber? = none := by
  cases e with
  | listening n => exact absurd rfl (he n)
  | _ => rfl

namespace Host

/-- Since `h` web servers were opened on the given ports, the last one first, and on no others. -/
def Opens (ns : List Int) (h h' : Host) : Prop :=
  ∃ es, h'.events = es ++ h.events ∧ es.filterMap Event.portNumber? = ns

theorem Opens.of_events (he : h'.events = h.events) : Opens [] h h' := ⟨[], he, rfl⟩

theorem Opens.trans (h1 : Opens ns h h₁) (h2 : Opens ms h₁ h') : Opens (ms ++ ns) h h' := by
  obtain ⟨es, hes, rfl⟩ := h1
  obtain ⟨es', hes', rfl⟩ := h2
  exact ⟨es' ++ es, by rw [hes', hes, List.append_assoc], List.filterMap_append⟩

theorem Opens.of_course {D : Loc → Prop} (hc : Course D h h') : Opens [] h h' := by
  obtain ⟨es, hes, hstarts⟩ := hc.events
  exact ⟨es, hes, List.filterMap_eq_nil_iff.mpr fun e he =>
    Event.portNumber?_of_isStart (hstarts e he)⟩

theorem indifferent_opens : Indifferent (Opens []) where
  refl _ := .of_events rfl
  trans := .trans
  event _ e he := ⟨[e], rfl, List.filterMap_cons_none (Event.portNumber?_of_ne he)⟩
  watching _ := .of_events rfl

/-- A web server was opened on the port, and no other, or none was and it came to a failure. -/
def OpensOn {α : Type} (n : Int) (h : Host) (r : Except Failure α × Host) : Prop :=
  Opens [n] h r.2 ∨ Opens [] h r.2 ∧ r.1.isOk = false

/-- What opens no web server may come before what opens one, if it comes to no failure. -/
theorem OpensOn.after {α β : Type} {a : Act α} {f : α → Act β} (ha : Opens [] h (a.on h).2)
    (hf : ∀ x h₁, a.on h = (.ok x, h₁) → OpensOn n h₁ ((f x).on h₁)) :
    OpensOn n h ((a >>= f).on h) := by
  rw [on_bind]
  cases hrun : a.on h with
  | mk r h₁ =>
    rw [hrun] at ha
    cases r with
    | error e => exact .inr ⟨ha, rfl⟩
    | ok x => exact (hf x h₁ hrun).imp (ha.trans ·) fun hnone => ⟨ha.trans hnone.1, hnone.2⟩

/-- What opens no web server may come after what opens one. -/
theorem OpensOn.before {α β : Type} {a : Act α} {f : α → Act β} (ha : OpensOn n h (a.on h))
    (hf : ∀ x, Leaves (Opens []) (f x)) : OpensOn n h ((a >>= f).on h) := by
  rw [on_bind]
  cases hrun : a.on h with
  | mk r h₁ =>
    rw [hrun] at ha
    cases r with
    | error e => exact ha
    | ok x =>
      rcases ha with hone | ⟨-, hfailed⟩
      · exact .inl (hone.trans (hf x h₁))
      · cases hfailed

end Host

namespace Preview

theorem opensOn_listen (p : Preview) (h : Host) : OpensOn p.portNumber h (p.listen.on h) := by
  cases hnumber : Literal.decimal p.portNumber with
  | ok text =>
    rw [listen, hnumber]
    exact .inl ⟨[.printed _, .listening p.portNumber], rfl, rfl⟩
  | error e =>
    rw [listen, hnumber]
    exact .inr ⟨.of_events rfl, rfl⟩

/-- A preview that serves opens one web server, on its port, unless it fails before. -/
theorem opensOn_run (p : Preview) (h : Host) : OpensOn p.portNumber h (p.run.on h) := by
  have hsignature : Leaves (Opens []) p.signature := indifferent_opens.query (isQuery_signature p)
  have hrest : Leaves (Opens []) (p.watch >>= fun _ => stop) :=
    indifferent_opens.bind (leaves_watch indifferent_opens p) fun _ =>
      leaves_stop indifferent_opens
  -- Nothing is opened until the signature has been taken and remembered.
  refine OpensOn.after (hsignature h) fun signature? h₁ _ => ?_
  refine OpensOn.after (Opens.of_events rfl) fun _ h₂ _ => ?_
  exact OpensOn.before (opensOn_listen p h₂) fun _ => hrest

end Preview

end DeckPress
