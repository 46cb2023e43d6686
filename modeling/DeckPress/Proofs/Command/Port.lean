import DeckPress.Proofs.Command.Precedence
import DeckPress.Proofs.Number.Decimal
import DeckPress.Proofs.Preview.Port

/-!
# Which port is served on

The option for the port goes before the document of the project, and the document before the
default, for a preview that is made and for the command that serves one.  But zero counts as no
option.

* `GivesPort` — the words that give a port; `ofWords_givesPort` reads them back.
* `Serving` — how the command ends for which a port counts; `serving_of_making`.
* `port_option_goes_first` — the whole.
* `zero_port_gives_way` — the limit: zero is given, and the document counts.
-/

namespace DeckPress.Command

open Act Host Preview

variable {h : Host} {root : Path} {answer : Act Unit} {isColoured : Bool} {s : Settings}
  {p : Preview} {document? : Option Document} {number? : Option Int} {n : Int}
  {port : Except NumberError Int} {words : List String} {e : NumberError}

/-! ## The words -/

/-- The words that give the port in decimal digits, or no words if none is given. -/
inductive GivesPort : Option Int → List String → Prop where
  | none : GivesPort none []
  | some (n : Int) (text : String) (htext : Literal.decimal n = .ok text) (spelling : Spelling) :
    GivesPort (some n) (spelling.words Description.portOption.name text)

theorem isValued_port : Description.portOption.IsValued Description.serve.options := by decide

/-- The value of the option is read as a whole number. -/
theorem ofWords_port (spelling : Spelling) (text : String) :
    Invocation.ofWords ("serve" :: spelling.words Description.portOption.name text) =
      match Literal.whole 10 (Quoted.encode text) text.toList with
      | .ok n => .ok (.serve (some n))
      | .error _ => .error ⟨Description.serve, .notWhole Description.portOption.name text⟩ := by
  have hscan : Scanned.ofWords Description.serve.options true
      (spelling.words Description.portOption.name text) =
        .ok { options := [(Description.portOption.name, text)] } := by
    have hspelling := Scanned.ofWords_spelling isValued_port spelling text []
    rwa [List.append_nil] at hspelling
  have hread : Invocation.ofCommand Description.serve
      (spelling.words Description.portOption.name text) Invocation.serveOf =
        match Literal.whole 10 (Quoted.encode text) text.toList with
        | .ok n => .ok (.serve (some n))
        | .error _ => .error ⟨Description.serve, .notWhole Description.portOption.name text⟩ := by
    have hvalue : Scanned.value? { options := [(Description.portOption.name, text)] }
        Description.portOption.name = some text := rfl
    have hhelp : Scanned.has { options := [(Description.portOption.name, text)] }
        Description.helpOption.name = false := rfl
    rw [Invocation.ofCommand, Invocation.ofCommand.read, hscan]
    simp only [bind, Except.bind, hhelp, Invocation.serveOf, hvalue]
    cases Literal.whole 10 (Quoted.encode text) text.toList <;> rfl
  exact hread

/-- The words ask to serve on the port that they give. -/
theorem ofWords_givesPort (hwords : GivesPort number? words) :
    Invocation.ofWords ("serve" :: words) = .ok (.serve number?) := by
  cases hwords with
  | none => rfl
  | some n text htext spelling => rw [ofWords_port, Literal.whole_of_decimal htext]

/-! ## The command -/

/-- A command succeeds only if what it was asked for did. -/
theorem eq_ok_of_concluded {r : Except Failure Unit} {ending : Ending}
    (hr : concluded isColoured root r = .ok ending) (hstatus : ending.status = 0) :
    r = .ok () := by
  match r with
  | .ok () => rfl
  | .error (.site e) =>
    cases hr
    cases hstatus
  | .error (.cause c) =>
    rw [concluded] at hr
    split at hr
    · cases hr
      cases hstatus
    · cases hr

/-- The command builds and then serves the preview that is made. -/
theorem on_run_serve (hwords : Invocation.ofWords words = .ok (.serve number?))
    (hmade : (ofProject h.cwd number?).on h = (.ok p, h)) :
    (Command.run answer isColoured words).on h =
      (concluded isColoured h.cwd ((p.build answer >>= fun _ => keepingProgress p.run).on h).1,
        ((p.build answer >>= fun _ => keepingProgress p.run).on h).2) := by
  refine on_run_of_conclude hwords ?_
  rw [perform, serve, on_get_bind]
  exact on_bind_of_ok hmade

/-- Without a preview the command does nothing. -/
theorem on_run_unmade (hwords : Invocation.ofWords words = .ok (.serve number?))
    (hunmade : (ofProject h.cwd number?).on h = (.error (.cause (.number e)), h)) :
    (Command.run answer isColoured words).on h = (.error (.cause (.number e)), h) := by
  have hserve : (serve answer isColoured number?).on h = (.error (.cause (.number e)), h) := by
    rw [serve, on_get_bind]
    exact on_bind_of_error hunmade
  rw [Command.run, hwords]
  dsimp only [perform]
  rw [on_attempt_bind, hserve]
  rfl

theorem on_keepingProgress {α : Type} (a : Act α) (h : Host) : (keepingProgress a).on h =
    ((a.on h).1, { (a.on h).2 with progress := h.progress }) := by
  rw [keepingProgress, on_get_bind, on_attempt_bind]
  cases (a.on h).1 <;> rfl

/-- A build opens no web server, and the preview opens one on its port. -/
theorem opensOn_serve (ha : Rendering.Unheard answer h) (p : Preview) :
    OpensOn p.portNumber h ((p.build answer >>= fun _ => keepingProgress p.run).on h) := by
  refine OpensOn.after (.of_course (quiet_build ha)) fun _ h₁ _ => ?_
  rw [on_keepingProgress]
  exact opensOn_run p h₁

/-- How the command ends that serves, if the directory of the site has a name: one web server is
opened, on the port, unless the command does not succeed; or there is no port, or no path for the
slides or the style sheet, and then nothing is done. -/
inductive Serving (h : Host) (s : Settings) (port : Except NumberError Int) :
    Except Failure Ending × Host → Prop where
  | opened (n : Int) (hport : port = .ok n) (r : Except Failure Ending) (h' : Host)
    (hopens : Opens [n] h h' ∨ Opens [] h h' ∧ ∀ ending, r = .ok ending → ending.status ≠ 0) :
    Serving h s port (r, h')
  | noPort (e : NumberError) (hport : port = .error e) :
    Serving h s port (.error (.cause (.number e)), h)
  | unwritable (key : String) (hkey : key = Settings.contentDir ∨ key = Settings.theme)
    (e : NumberError) (he : s.Unwritable key e) :
    Serving h s port (.error (.cause (.number e)), h)

/-- A command that succeeds opened a web server on the port. -/
theorem Serving.opens {ending : Ending} {h' : Host} (hr : Serving h s (.ok n) (.ok ending, h'))
    (hstatus : ending.status = 0) : Opens [n] h h' := by
  cases hr with
  | opened m hport _ _ hopens =>
    cases hport
    exact hopens.resolve_right fun hnone => hnone.2 ending rfl hstatus

/-- The command serves on the port with which the preview is made. -/
theorem serving_of_making (ha : Rendering.Unheard answer h)
    (hwords : Invocation.ofWords words = .ok (.serve number?))
    (hmaking : Making h h.cwd s port ((ofProject h.cwd number?).on h)) :
    Serving h s port ((Command.run answer isColoured words).on h) := by
  cases hrun : (ofProject h.cwd number?).on h with
  | mk r g =>
    rw [hrun] at hmaking
    cases hmaking with
    | made p hroot hsettings hport =>
      rw [on_run_serve hwords hrun]
      refine .opened p.portNumber hport _ _ ?_
      refine (opensOn_serve ha p).imp_right fun ⟨hnone, hfailed⟩ => ⟨hnone, ?_⟩
      -- What ends in success did not come to the failure that kept the web server from opening.
      intro ending hending hstatus
      rw [eq_ok_of_concluded hending hstatus] at hfailed
      cases hfailed
    | noPort e hport =>
      rw [on_run_unmade hwords hrun]
      exact .noPort e hport
    | unwritable key hkey e he =>
      rw [on_run_unmade hwords hrun]
      exact .unwritable key hkey e he

/-! ## The whole -/

/-- With the given number, or with none, the port is the one of the preview that is made, and the
one on which the command serves. -/
structure PortIs (answer : Act Unit) (isColoured : Bool) (h : Host) (root : Path) (s : Settings)
    (number? : Option Int) (port : Except NumberError Int) : Prop where
  made : Making h root s port ((ofProject root number?).on h)
  served : root = h.cwd → Rendering.Unheard answer h → ∀ words, GivesPort number? words →
    Serving h s port ((Command.run answer isColoured ("serve" :: words)).on h)

theorem portIs_of_portNumberOf (answer : Act Unit) (isColoured : Bool)
    (hload : (Settings.load root).on h = (.ok s, h)) (hcomplete : s.IsComplete)
    (hadmits : AdmitsStaging root s) (hport : portNumberOf s number? = port) :
    PortIs answer isColoured h root s number? port where
  made := making_of_portNumberOf hload hcomplete hadmits hport
  served := by
    rintro rfl ha words hwords
    exact serving_of_making ha (ofWords_givesPort hwords)
      (making_of_portNumberOf hload hcomplete hadmits hport)

/-- **The option for the port goes before the document, and the document before the default.**
Whatever the document of the project says, also of the port, the preview is made with a port that is
given, and the command serves on it, unless it is zero.  Without one, or with zero, it is the whole
number that the document makes of the port, or else the default.  A number with too many digits
to be written cannot be given on the command line. -/
theorem port_option_goes_first (hread : Settings.Reads h root document?)
    (hadmits : AdmitsStaging root (Settings.ofDocument? document?)) (answer : Act Unit)
    (isColoured : Bool) :
    (∀ n, n ≠ 0 →
      PortIs answer isColoured h root (Settings.ofDocument? document?) (some n) (.ok n)) ∧
    PortIs answer isColoured h root (Settings.ofDocument? document?) none
      (Settings.saidPort document?) ∧
    PortIs answer isColoured h root (Settings.ofDocument? document?) (some 0)
      (Settings.saidPort document?) ∧
    ∀ n e, Literal.decimal n = .error e → ∀ spelling : Spelling,
      (Command.run answer isColoured
        ("serve" :: spelling.words Description.portOption.name (toString n))).on h =
        (.ok { status := 2, complaint := (Misuse.report ⟨Description.serve,
          .notWhole Description.portOption.name (toString n)⟩).map (shown isColoured) }, h) := by
  have hload : (Settings.load root).on h = (.ok (Settings.ofDocument? document?), h) :=
    Settings.load_eq_ok.mpr ⟨rfl, document?, hread, rfl⟩
  have hport : ∀ {number? port},
      portNumberOf (Settings.ofDocument? document?) number? = port →
      PortIs answer isColoured h root (Settings.ofDocument? document?) number? port :=
    portIs_of_portNumberOf answer isColoured hload (Settings.isComplete_ofDocument? document?)
      hadmits
  refine ⟨fun n hn => hport (portNumberOf_given _ hn), hport (portNumberOf_said _ (.inl rfl)),
    hport (portNumberOf_said _ (.inr rfl)), fun n e hlong spelling => ?_⟩
  obtain ⟨count, hcount⟩ := Literal.whole_of_not_decimal hlong (Quoted.encode (toString n))
  rw [Command.run, ofWords_port, hcount]
  rfl

/-! ## A project -/

/-- A document that says just what the port is. -/
def naming (v : Value) : Document where
  value := .collection 0
  collections := #[.dict [(.str "port", v)]]

/-- The document of a project, as it is written. -/
def written (text : String) : File where
  bytes := Utf8.encode text.toList

/-- A host with a project that has the document. -/
def hostNaming (text : String) : Host :=
  hostWith "/project/bin" (bareProject.set ["project", "slidesite.yaml"] (.file (written text)))

theorem reads_null : Settings.Reads (hostNaming "port: null\n") project (some (naming .null)) :=
  .of_text (f := written "port: null\n") (by decide +kernel) rfl (by decide +kernel)

theorem admitsStaging_null : AdmitsStaging project (Settings.ofDocument (naming .null)) :=
  ⟨"_static", rfl, by decide⟩

/-- A port that is given is served on, although the document takes the port away, so that without
one there is no preview. -/
theorem port_option_goes_first_null :
    Settings.Reads (hostNaming "port: null\n") project (some (naming .null)) ∧
    AdmitsStaging project (Settings.ofDocument (naming .null)) ∧
    (∃ p, (ofProject project (some 5050)).on (hostNaming "port: null\n") =
      (.ok p, hostNaming "port: null\n") ∧ p.portNumber = 5050) ∧
    (∃ h', (Command.run (pure ()) false ["serve", "--port", "5050"]).on
        (hostNaming "port: null\n") = (.ok {}, h') ∧
      Opens [5050] (hostNaming "port: null\n") h') ∧
    Making (hostNaming "port: null\n") project (Settings.ofDocument (naming .null))
      (.error (.notNumeric "NoneType"))
      ((ofProject project none).on (hostNaming "port: null\n")) := by
  obtain ⟨hgiven, hnone, -, -⟩ :=
    port_option_goes_first reads_null admitsStaging_null (pure ()) false
  have hport := hgiven 5050 (by decide)
  have hserving : Serving (hostNaming "port: null\n") (Settings.ofDocument (naming .null))
      (.ok 5050) ((Command.run (pure ()) false ["serve", "--port", "5050"]).on
        (hostNaming "port: null\n")) :=
    hport.served rfl (.of_not_asking rfl) _ (.some 5050 "5050" (by decide +kernel) .apart)
  have hsucceeds : ((Command.run (pure ()) false ["serve", "--port", "5050"]).on
      (hostNaming "port: null\n")).1 = .ok {} := by decide +kernel
  refine ⟨reads_null, admitsStaging_null, hport.made.exists_preview rfl rfl, ?_, hnone.made⟩
  cases hrun : (Command.run (pure ()) false ["serve", "--port", "5050"]).on
      (hostNaming "port: null\n") with
  | mk r h' =>
    rw [hrun] at hserving hsucceeds
    cases hsucceeds
    exact ⟨h', rfl, hserving.opens rfl⟩

/-- **Zero gives way to the document.**  It is given for the port, but the preview is made with the
port that the document names. -/
theorem zero_port_gives_way :
    Settings.Reads (hostNaming "port: 4321\n") project (some (naming (.int 4321))) ∧
    AdmitsStaging project (Settings.ofDocument (naming (.int 4321))) ∧
    ∃ p, (ofProject project (some 0)).on (hostNaming "port: 4321\n") =
      (.ok p, hostNaming "port: 4321\n") ∧ p.portNumber = 4321 := by
  have hread : Settings.Reads (hostNaming "port: 4321\n") project (some (naming (.int 4321))) :=
    .of_text (f := written "port: 4321\n") (by decide +kernel) rfl (by decide +kernel)
  have hload : (Settings.load project).on (hostNaming "port: 4321\n") =
      (.ok (Settings.ofDocument (naming (.int 4321))), hostNaming "port: 4321\n") :=
    Settings.load_eq_ok.mpr ⟨rfl, _, hread, rfl⟩
  exact ⟨hread, ⟨"_static", rfl, by decide⟩, _, on_bind_of_ok hload, rfl⟩

end DeckPress.Command
