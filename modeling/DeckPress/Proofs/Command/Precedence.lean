import DeckPress.Proofs.Command.Words
import DeckPress.Proofs.Settings.Lookup
import DeckPress.Proofs.Site.Raises

/-!
# Which setting counts in a build

The options of a command line go before the document of the project, and the document before the
defaults.  A build on the command line is the build with the settings that come of this.

* `Settings.Follow` — the settings are what the options, the document and the defaults say, in this
  order; `follow_apply` — so are those that the command builds with.
* `on_build_congr` — a build looks settings up, and nothing else is asked of them.
* `on_run_of_conclude` — a command ends as its conclusion says; `reported` — what the command makes
  of a build.
* `build_follows_options` — the whole: the command does what a build with such settings does.
-/

namespace DeckPress

open Act Host Command

variable {h : Host} {root : Path} {answer : Act Unit} {s c : Settings} {document? : Option Document}
  {given : List Given} {isColoured : Bool}

namespace Settings

/-- What the document of a project says of a setting, or else the default. -/
def fromDocument? (document? : Option Document) (key : String) : Option Value :=
  document?.bind (said? · key) <|> default.get? key

/-- The settings are what the options say, or else the document, or else the defaults. -/
structure Follow (document? : Option Document) (given : List Given) (c : Settings) : Prop where
  option : ∀ o : BuildOption,
    c.get? o.key = ((Given.last? given o).map .str <|> fromDocument? document? o.key)
  other : ∀ key, (∀ o : BuildOption, key ≠ o.key) → c.get? key = fromDocument? document? key
  collections : c.collections = (ofDocument? document?).collections

/-- The settings with one of them changed, if there is a value for it. -/
def setIf (s : Settings) (key : String) (value? : Option String) : Settings :=
  match value? with
  | some value => s.set key (.str value)
  | none => s

theorem get?_setIf (s : Settings) (key other : String) (value? : Option String) :
    (s.setIf key value?).get? other =
      if key = other then (value?.map .str <|> s.get? other) else s.get? other := by
  cases value? with
  | none => exact (ite_self _).symm
  | some value =>
    rw [setIf, get?_set]
    rfl

theorem apply_eq (o : Overrides) (s : Settings) : o.apply s =
    ((s.setIf contentDir o.contentDir?).setIf theme o.theme?).setIf outputDir o.outputDir? := rfl

theorem collections_setIf (s : Settings) (key : String) (value? : Option String) :
    (s.setIf key value?).collections = s.collections := by
  cases value? <;> rfl

theorem isComplete_setIf (hs : s.IsComplete) (key : String) (value? : Option String) :
    (s.setIf key value?).IsComplete := by
  intro other hneeded
  rw [get?_setIf]
  split
  · cases value? with
    | none => exact hs other hneeded
    | some value => rfl
  · exact hs other hneeded

/-- Options take no setting away. -/
theorem isComplete_apply (hs : s.IsComplete) (o : Overrides) : (o.apply s).IsComplete := by
  rw [apply_eq]
  exact isComplete_setIf (isComplete_setIf (isComplete_setIf hs _ _) _ _) _ _

/-- The settings that the command builds with. -/
theorem follow_apply (document? : Option Document) (given : List Given) :
    Follow document? given ((Given.overrides given).apply (ofDocument? document?)) where
  option o := by
    rw [apply_eq, get?_setIf, get?_setIf, get?_setIf, get?_ofDocument?]
    cases o <;> rfl
  other key hkey := by
    have houtput : outputDir ≠ key := (hkey .outputDir).symm
    have htheme : theme ≠ key := (hkey .theme).symm
    have hcontent : contentDir ≠ key := (hkey .contentDir).symm
    rw [apply_eq, get?_setIf, get?_setIf, get?_setIf, get?_ofDocument?, if_neg houtput,
      if_neg htheme, if_neg hcontent]
    rfl
  collections := by
    rw [apply_eq, collections_setIf, collections_setIf, collections_setIf]

/-- Settings that follow the same options and the same document are looked up alike. -/
theorem Follow.text_eq (hc : Follow document? given c) (hs : Follow document? given s)
    (key : String) : c.text key = s.text key := by
  have hget : c.get? key = s.get? key := by
    by_cases hkey : ∃ o : BuildOption, key = o.key
    · obtain ⟨o, rfl⟩ := hkey
      rw [hc.option, hs.option]
    · rw [not_exists] at hkey
      rw [hc.other key hkey, hs.other key hkey]
  rw [text, text, hget, hc.collections, hs.collections]

/-- Settings that follow options and a document are complete. -/
theorem Follow.isComplete (hc : Follow document? given c) : c.IsComplete := by
  intro key hneeded
  have hkey : (fromDocument? document? key).isSome = true := by
    have := isComplete_ofDocument? document? key hneeded
    rwa [get?_ofDocument?] at this
  by_cases hoption : ∃ o : BuildOption, key = o.key
  · obtain ⟨o, rfl⟩ := hoption
    rw [hc.option, Option.orElse_eq_orElse, Option.orElse_eq_or, Option.isSome_or, hkey,
      Bool.or_true]
  · rw [not_exists] at hoption
    rw [hc.other key hoption, hkey]

end Settings

/-- A build looks settings up, and nothing else is asked of them. -/
theorem Site.on_build_congr (htext : ∀ key, c.text key = s.text key) (outputDir? : Option Path) :
    (Site.build answer root none (some c) outputDir?).on h =
      (Site.build answer root none (some s) outputDir?).on h := by
  have ho : Site.orderOf root c outputDir? = Site.orderOf root s outputDir? := by
    simp only [Site.orderOf, Site.outputDirOf, htext]
  rw [Site.on_build_of_order, Site.on_build_of_order, ho, htext]

namespace Command

/-! ## The command -/

/-- How a command ends, given how that ended what it was asked for. -/
def concluded (isColoured : Bool) (root : Path) : Except Failure Unit → Except Failure Ending
  | .ok () => .ok {}
  | .error (.site e) => .ok { status := 1, complaint := (report root e).map (shown isColoured) }
  | .error (.cause c) =>
    if isBrokenPipe (.cause c) then .ok { status := 1 } else .error (.cause c)

/-- A command line leaves what the act leaves that it asks for, and ends as its conclusion says. -/
theorem on_run_of_conclude {words : List String} {invocation : Invocation} {a : Act Unit}
    (hwords : Invocation.ofWords words = .ok invocation)
    (hperform : (perform answer isColoured invocation).on h =
      (attempt a >>= conclude isColoured root).on h) :
    (Command.run answer isColoured words).on h =
      (concluded isColoured root (a.on h).1, (a.on h).2) := by
  rw [Command.run, hwords]
  dsimp only
  rw [on_attempt_bind, hperform, on_attempt_bind]
  cases a.on h with
  | mk r g =>
    cases r with
    | ok u => rfl
    | error f =>
      cases f with
      | site e => rfl
      | cause c =>
        -- Such a failure is handed on, and then it may be that nobody reads the output any more.
        show ((if isBrokenPipe (.cause c) then return { status := 1 } else throw (.cause c) :
          Act Ending)).on g = _
        rw [concluded]
        split <;> rfl

/-- What the command makes of a build: it counts the pages of a site that was built, it reports a
failure of the build, and it hands on any other failure. -/
def reported (isColoured : Bool) (root : Path) :
    Except Failure Site.Result × Host → Except Failure Ending × Host
  | (.ok site, h) => (.ok {}, { h with events := .printed (shown isColoured
      s!"Rewrote {site.pages.length} HTML files in {site.outputDir}") :: h.events })
  | (.error (.site e), h) =>
    (.ok { status := 1, complaint := (report root e).map (shown isColoured) }, h)
  | (.error (.cause c), h) =>
    (if isBrokenPipe (.cause c) then .ok { status := 1 } else .error (.cause c), h)

/-- A command line that asks for a build does the build with the settings that its options
change. -/
theorem on_run_of_words {words : List String} {o : Overrides}
    (hwords : Invocation.ofWords words = .ok (.build o))
    (hload : (Settings.load h.cwd).on h = (.ok s, h)) :
    (Command.run answer isColoured words).on h =
      reported isColoured h.cwd ((Site.build answer h.cwd none (some (o.apply s))).on h) := by
  have hbuild : (perform answer isColoured (.build o)).on h =
      (attempt (do
        let site ← Site.build answer h.cwd none (some (o.apply s))
        Act.print (shown isColoured
          s!"Rewrote {site.pages.length} HTML files in {site.outputDir}")) >>=
        conclude isColoured h.cwd).on h := by
    rw [perform, build, on_get_bind]
    exact on_bind_of_ok hload
  rw [on_run_of_conclude hwords hbuild, on_bind]
  cases (Site.build answer h.cwd none (some (o.apply s))).on h with
  | mk r g =>
    cases r with
    | ok site => rfl
    | error f => cases f <;> rfl

theorem on_run_build (hload : (Settings.load h.cwd).on h = (.ok s, h)) (given : List Given) :
    (Command.run answer isColoured ("build" :: given.flatMap Given.words)).on h =
      reported isColoured h.cwd
        ((Site.build answer h.cwd none (some ((Given.overrides given).apply s))).on h) :=
  on_run_of_words (ofWords_build given) hload

/-- The command and the build leave the same tree and start the same programs, and if one of them
succeeds, so does the other. -/
structure Agrees (a : Except Failure Ending × Host) (b : Except Failure Site.Result × Host) :
    Prop where
  tree : a.2.tree = b.2.tree
  starts : a.2.events.filter (·.IsStart) = b.2.events.filter (·.IsStart)
  success : (∃ ending, a.1 = .ok ending ∧ ending.status = 0) ↔ b.1.isOk = true

theorem agrees_reported (isColoured : Bool) (root : Path) (b : Except Failure Site.Result × Host) :
    Agrees (reported isColoured root b) b := by
  obtain ⟨r, g⟩ := b
  cases r with
  | ok site => exact ⟨rfl, rfl, by simp [reported, Except.isOk, Except.toBool]⟩
  | error f =>
    cases f with
    | site e => exact ⟨rfl, rfl, by simp [reported, Except.isOk, Except.toBool]⟩
    | cause c =>
      refine ⟨rfl, rfl, ?_⟩
      rw [reported]
      split <;> simp [Except.isOk, Except.toBool]

/-! ## Keys -/

/-- The failure is not that a key is missing. -/
def IsNoKey (f : Failure) : Prop := ∀ c, f = .cause c → c.kind ≠ .key

theorem isNoKey_site (e : SiteError) : IsNoKey (.site e) := by
  rintro c ⟨⟩

theorem isNoKey_os (e : OsError) : IsNoKey (.cause (.os e)) := by
  rintro c ⟨⟩
  cases e with
  | plain m => simp [Cause.kind, OsError.kind]
  | numbered e text file? target? =>
    rw [Cause.kind, OsError.kind, Errno.kind]
    split <;> simp

theorem isNoKey_number (e : NumberError) : IsNoKey (.cause (.number e)) := by
  rintro c ⟨⟩
  cases e <;> simp [Cause.kind]

/-- Neither the failures that wait nor those of the program are that a key is missing, and what the
program asks for while it runs comes to nothing. -/
structure IsKeyless (answer : Act Unit) (h : Host) : Prop where
  faults : ∀ f ∈ h.faults, IsNoKey (.cause f.cause)
  program : ∀ command cwd t c u, h.program.run command cwd t = (.error c, u) → IsNoKey (.cause c)
  unheard : Rendering.Unheard answer h

/-- That a program is not started is no matter of a key. -/
theorem isNoKey_of_refusal? {command : List String} {directory : Path} {c : Cause}
    (hc : Rendering.refusal? h command directory = some c) : IsNoKey (.cause c) := by
  obtain hos | ⟨rfl, -⟩ := Rendering.isOs_or_nulInPath hc
  · cases c with
    | os e => exact isNoKey_os e
    | _ => cases hos
  · rintro c ⟨⟩
    simp [Cause.kind]

theorem expectsProgram_keyless (answer : Act Unit) (root : Path)
    (command : String → List String) :
    ExpectsProgram (IsKeyless answer) IsNoKey answer root command where
  kept hc hI := by
    refine ⟨?_, ?_, hI.unheard.of_course hc⟩
    · rw [hc.faults]
      exact hI.faults
    · rw [hc.program]
      exact hI.program
  waiting hI := hI.faults
  os := isNoKey_os
  site := isNoKey_site
  unheard hI := hI.unheard
  launch {h} hI program c t _ hlaunch _ := by
    obtain ⟨-, hran⟩ | ⟨c', hrefused, hleft⟩ := Rendering.launch_cases h (command program) root
    · exact hI.program _ _ _ _ _ (hran.symm.trans hlaunch)
    · cases hleft.symm.trans hlaunch
      exact isNoKey_of_refusal? hrefused

/-- A build with settings that are complete misses no key. -/
theorem isNoKey_of_build (hkeyless : IsKeyless answer h) (hkeys : s.IsComplete)
    {outputDir? : Option Path} {f : Failure}
    (hf : ((Site.build answer root none (some s) outputDir?).on h).1 = .error f) : IsNoKey f := by
  refine (Site.raises_build (fun _ _ => expectsProgram_keyless answer _ _) hkeys (fun c ho => ?_) ?_ h
    hkeyless).2 f hf
  · obtain ⟨key, -, e, rfl, -⟩ := Site.unwritable_of_orderOf hkeys ho
    exact isNoKey_number e
  · exact fun e _ => isNoKey_number e

/-! ## The whole -/

/-- The program is started for the slides, the site and the style sheet that the settings name, each
as seen from the project. -/
def StartsAsTold (root : Path) (c : Settings) (e : Event) : Prop :=
  ∀ command directory, e = .started command directory → directory = root ∧
    ∃ program contentDir theme outputDir, c.text Settings.contentDir = .ok contentDir ∧
      c.text Settings.theme = .ok theme ∧ c.text Settings.outputDir = .ok outputDir ∧
      command = Rendering.command program (root / contentDir) (root / outputDir) (root / theme)

theorem startsAsTold_of_orderOf {o : Site.Order} (ho : Site.orderOf root c none = .ok o)
    (program : String) : StartsAsTold root c (.started (o.command program) root) := by
  rintro command directory ⟨⟩
  simp only [Site.orderOf, Tree.bind_eq_ok, Site.outputDirOf_none_eq_ok] at ho
  obtain ⟨renderer, -, contentDir, hcontent, theme, htheme, _, ⟨outputDir, houtput, rfl⟩, ⟨⟩⟩ := ho
  exact ⟨rfl, program, contentDir, theme, outputDir, hcontent, htheme, houtput, rfl⟩

/-- The events since `h` are those of a build that was told `c`. -/
theorem startsAsTold_of_build (ha : Rendering.Unheard answer h) (hkeys : c.IsComplete) :
    ∃ es, ((Site.build answer root none (some c)).on h).2.events = es ++ h.events ∧
      ∀ e ∈ es, StartsAsTold root c e := by
  cases hrun : (Site.build answer root none (some c)).on h with
  | mk r h' =>
    obtain ⟨-, hnone | ⟨o, program, ho, -, hone⟩⟩ := Site.ending_of_build ha hkeys hrun
    · exact ⟨[], hnone, by simp⟩
    · exact ⟨[.started (o.command program) root], hone,
        by simpa using startsAsTold_of_orderOf ho program⟩

/-- What the command prints starts no program. -/
theorem startsAsTold_reported (isColoured : Bool) {b : Except Failure Site.Result × Host}
    (hb : ∃ es, b.2.events = es ++ h.events ∧ ∀ e ∈ es, StartsAsTold root c e) :
    ∃ es, (reported isColoured root b).2.events = es ++ h.events ∧
      ∀ e ∈ es, StartsAsTold root c e := by
  obtain ⟨es, hes, htold⟩ := hb
  obtain ⟨r, g⟩ := b
  match r with
  | .ok site =>
    refine ⟨_ :: es, congrArg (List.cons _) hes, ?_⟩
    rw [List.forall_mem_cons]
    exact ⟨nofun, htold⟩
  | .error (.site e) => exact ⟨es, hes, htold⟩
  | .error (.cause c) => exact ⟨es, hes, htold⟩

/-- A failure of the command is that of the build. -/
theorem error_of_reported {b : Except Failure Site.Result × Host} {f : Failure}
    (hf : (reported isColoured root b).1 = .error f) : b.1 = .error f := by
  obtain ⟨r, g⟩ := b
  match r with
  | .ok site => cases hf
  | .error (.site e) => cases hf
  | .error (.cause c) =>
    rw [reported] at hf
    split at hf <;> cases hf
    rfl

/-- **The options go before the document, and the document before the defaults.**  With any options
in any order, and whatever the document of the project says, the command does what a build does with
settings that follow this order: it leaves the same tree, starts the same programs, and succeeds if
the build does.  The program is told the paths that these settings give, and no setting is ever
missing. -/
theorem build_follows_options (hread : Settings.Reads h h.cwd document?)
    (hc : Settings.Follow document? given c) :
    Agrees ((Command.run answer isColoured ("build" :: given.flatMap Given.words)).on h)
      ((Site.build answer h.cwd none (some c)).on h) ∧
    (Rendering.Unheard answer h → ∃ es,
      ((Command.run answer isColoured ("build" :: given.flatMap Given.words)).on h).2.events =
        es ++ h.events ∧ ∀ e ∈ es, StartsAsTold h.cwd c e) ∧
    (IsKeyless answer h → ∀ f,
      ((Command.run answer isColoured ("build" :: given.flatMap Given.words)).on h).1 = .error f →
        IsNoKey f) := by
  have hload : (Settings.load h.cwd).on h = (.ok (Settings.ofDocument? document?), h) :=
    Settings.load_eq_ok.mpr ⟨rfl, document?, hread, rfl⟩
  have hbuild : (Site.build answer h.cwd none
      (some ((Given.overrides given).apply (Settings.ofDocument? document?)))).on h =
        (Site.build answer h.cwd none (some c)).on h :=
    Site.on_build_congr ((Settings.follow_apply document? given).text_eq hc) none
  rw [on_run_build hload, hbuild]
  refine ⟨agrees_reported isColoured h.cwd _, fun ha => ?_, fun hkeyless f hf => ?_⟩
  · exact startsAsTold_reported isColoured (startsAsTold_of_build ha hc.isComplete)
  · exact isNoKey_of_build hkeyless hc.isComplete (error_of_reported hf)

/-! ## A project -/

/-- A document that takes a default away, gives a path from the top, and gives a number for a
name. -/
def emptying : Document where
  value := .collection 0
  collections := #[.dict [(.str "theme", .null), (.str "content_dir", .str "/slides"),
    (.str "readme", .int 7)]]

/-- The document as it is written. -/
def emptyingText : File where
  bytes := Utf8.encode "theme: null\ncontent_dir: /slides\nreadme: 7\n".toList

/-- A host with that document in a project. -/
def hostEmptying : Host :=
  { Site.hostKilling with
    tree := Site.installed.set ["project", "slidesite.yaml"] (.file emptyingText) }

/-- Two options for the style sheet, the second of which has the empty text for a value. -/
def restyling : List Given := [⟨.theme, "a.css", .apart⟩, ⟨.theme, "", .joined⟩]

/-- The settings that come of the document and the options. -/
def restyled : Settings := (Settings.ofDocument emptying).set Settings.theme (.str "")

theorem reads_emptying : Settings.Reads hostEmptying hostEmptying.cwd (some emptying) :=
  .of_text (f := emptyingText) (by decide +kernel) rfl (by decide +kernel)

theorem follow_restyled : Settings.Follow (some emptying) restyling restyled := by
  have hoverrides : Given.overrides restyling = { theme? := some "" } := rfl
  have hfollow := Settings.follow_apply (some emptying) restyling
  rwa [hoverrides, Settings.apply_eq] at hfollow

theorem isKeyless_emptying : IsKeyless (pure ()) hostEmptying where
  faults := by
    have hnone : hostEmptying.faults = [] := rfl
    simp [hnone]
  program := by
    rintro command cwd t c u ⟨⟩
  unheard := .of_not_asking rfl

/-- The empty text goes before the document, and the document before the defaults. -/
theorem build_follows_options_restyled :
    Settings.Reads hostEmptying hostEmptying.cwd (some emptying) ∧
    Settings.Follow (some emptying) restyling restyled ∧
    IsKeyless (pure ()) hostEmptying ∧ ∃ r h',
      (Command.run (pure ()) false ["build", "--theme", "a.css", "--theme="]).on hostEmptying =
        (r, h') ∧
      Agrees (r, h') ((Site.build (pure ()) hostEmptying.cwd none (some restyled)).on
        hostEmptying) ∧
      h'.events = [.started ["/project/node_modules/.bin/reveal-md", "/slides", "--static",
        "/project/_static", "--theme", "/project"] hostEmptying.cwd] ∧
      (∀ e ∈ h'.events, StartsAsTold hostEmptying.cwd restyled e) ∧
      ∀ f, r = .error f → IsNoKey f := by
  have hevents : ∀ result,
      (Command.run (pure ()) false ["build", "--theme", "a.css", "--theme="]).on hostEmptying =
        result →
      result.2.events = [.started ["/project/node_modules/.bin/reveal-md", "/slides", "--static",
        "/project/_static", "--theme", "/project"] hostEmptying.cwd] := by
    rintro result rfl
    decide +kernel
  have hnone : hostEmptying.events = [] := rfl
  have hwords : ("build" :: restyling.flatMap Given.words) =
      ["build", "--theme", "a.css", "--theme="] := rfl
  obtain ⟨hagrees, hstarts, hkeys⟩ :=
    @build_follows_options hostEmptying (pure ()) restyled (some emptying) restyling false
      reads_emptying follow_restyled
  obtain ⟨es, hes, htold⟩ := hstarts isKeyless_emptying.unheard
  rw [hwords] at hagrees hes hkeys
  cases hrun : (Command.run (pure ()) false ["build", "--theme", "a.css", "--theme="]).on
      hostEmptying with
  | mk r h' =>
    rw [hrun] at hagrees hes hkeys
    rw [hnone, List.append_nil] at hes
    subst hes
    exact ⟨reads_emptying, follow_restyled, isKeyless_emptying, r, h', rfl, hagrees,
      hevents _ hrun, htold, hkeys isKeyless_emptying⟩

end Command

end DeckPress
