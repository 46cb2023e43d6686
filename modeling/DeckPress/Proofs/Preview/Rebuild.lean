import DeckPress.Proofs.Preview.Served

/-!
# Rebuilding

A rebuild checks whether it is called for, takes the signature of the sources, builds, and reports
how the build ended.

* `isQuery_signature` — taking the signature changes nothing.
* `on_rebuildUpTo_succ` — what a call comes to, as an equation; `unheard_rebuildUpTo` — a call that
  comes while a rebuild is under way comes to nothing.
* `Host.news` — what was seen in the meantime.
* `failed_rebuild_keeps_site` — a rebuild that reports a failure leaves the finished site as it was,
  unless a failure comes between its removal and the move of the next site to its place.
-/

namespace DeckPress

open Act Host

/-- What was seen between two states of a host, the last event first. -/
def Host.news (h h' : Host) : List Event := h'.events.take (h'.events.length - h.events.length)

theorem Host.news_eq {h h' : Host} {es : List Event} (he : h'.events = es ++ h.events) :
    h.news h' = es := by
  rw [news, he, List.length_append, Nat.add_sub_cancel, List.take_left']
  rfl

namespace Preview

variable {root : Path} {settings : Settings} {number? : Option Int} {p : Preview} {h h' g : Host}
  {answer : Act Unit} {dir : Path} {a b : String} {r result : Except Failure Unit} {n : Nat}
  {signature? : Option Signature}

/-! ## The signature -/

theorem isQuery_stampOf (root file : Path) : IsQuery (stampOf root file) := by
  refine isQuery_get_bind fun h => ?_
  split
  · split
    · exact isQuery_pure _
    · exact isQuery_fail _
  · exact isQuery_pure _

theorem isQuery_stampsOf (root : Path) (files : List Path) : IsQuery (stampsOf root files) := by
  induction files with
  | nil => exact isQuery_pure _
  | cons file files ih =>
    exact (isQuery_stampOf root file).bind fun _ => ih.bind fun _ => isQuery_pure _

theorem isQuery_sources (p : Preview) : IsQuery p.sources := by
  have htheme : ∀ slides : List Path, IsQuery (do
      return if ← Act.isFile p.theme then slides ++ [p.theme] else slides : Act (List Path)) :=
    fun slides => (isQuery_isFile _).bind fun _ => isQuery_pure _
  refine (isQuery_isDirectory _).bind fun isThere => ?_
  split
  · refine isQuery_get_bind fun h => IsQuery.bind ?_ htheme
    exact isQuery_keep (fun q => (isQuery_isDirectory q).bind fun _ => isQuery_pure _) _
  · exact (isQuery_pure _).bind htheme

/-- Taking the signature changes nothing. -/
theorem isQuery_signature (p : Preview) : IsQuery p.signature :=
  (isQuery_sources p).bind fun files => (isQuery_stampsOf p.root files).bind fun _ => isQuery_pure _

/-! ## A call -/

/-- The line with which a rebuild begins. -/
def announcement : String := "Change detected; rebuilding..."

/-- How the line begins that reports a failure. -/
def failureMark : String := "Rebuild failed: "

/-- The line that reports a failure of a build, or `none` if the failure is handed on. -/
def reportOf : Failure → Option String
  | .cause c => if c.isOs then some (failureMark ++ c.message) else none
  | .site e => some (failureMark ++ e.text)

/-- The host on which a rebuild builds. -/
def begun (h : Host) : Host :=
  { h with
    progress := { h.progress with isRebuilding := true }
    events := .printed announcement :: h.events }

/-- The host once a rebuild has ended. -/
def ended (h : Host) : Host :=
  { h with progress := { h.progress with isRebuilding := false, rebuiltAt := h.clock } }

/-- How a rebuild concludes that took the given signature, after its build. -/
def concluded (signature? : Option Signature) (r : Except Failure Unit) (g : Host) :
    Except Failure Unit × Host :=
  match r with
  | .ok () => (.ok (), ended { g with progress := { g.progress with signature? } })
  | .error f =>
    match reportOf f with
    | some line => (.ok (), ended { g with events := .printed line :: g.events })
    | none => (.error f, ended g)

/-- A failure is reported or handed on; a build that succeeded is remembered with its sources. -/
theorem on_renew (p : Preview) (answer : Act Unit) (signature? : Option Signature) (h : Host) :
    ((advance fun s => { s with isRebuilding := true }) >>= fun _ =>
      attempt (p.renew answer signature?) >>= fun result =>
      (modify fun h : Host => { h with
        progress := { h.progress with isRebuilding := false, rebuiltAt := h.clock } }) >>= fun _ =>
      (resume result : Act Unit)).on h =
      concluded signature? ((p.build answer).on (begun h)).1 ((p.build answer).on (begun h)).2 := by
  have hprint : ∀ {rest : Unit → Act Unit},
      (Act.print "Change detected; rebuilding..." >>= rest).on
        { h with progress := { h.progress with isRebuilding := true } } =
          (rest ()).on (begun h) := rfl
  show ((attempt (p.renew answer signature?) >>= fun result =>
      (modify fun h : Host => { h with
        progress := { h.progress with isRebuilding := false, rebuiltAt := h.clock } }) >>= fun _ =>
      (resume result : Act Unit)).on
        { h with progress := { h.progress with isRebuilding := true } }) = _
  rw [on_attempt_bind, renew, hprint, on_attempt_bind]
  cases (p.build answer).on (begun h) with
  | mk r g =>
    cases r with
    | ok u => rfl
    | error f =>
      cases f with
      | site e => rfl
      | cause c =>
        simp only [concluded, reportOf]
        split
        · rfl
        · rfl

/-- What a call comes to. -/
theorem on_rebuildUpTo_succ (p : Preview) (n : Nat) (h : Host) :
    (p.rebuildUpTo (n + 1)).on h =
      if h.progress.isRebuilding || isTooSoon h.clock h.progress.rebuiltAt then (.ok (), h)
      else match (p.signature.on h).1 with
        | .error e => (.error e, h)
        | .ok signature? =>
          if signature?.isSome && signature? = h.progress.signature? then (.ok (), h)
          else concluded signature? ((p.build (p.rebuildUpTo n)).on (begun h)).1
            ((p.build (p.rebuildUpTo n)).on (begun h)).2 := by
  rw [rebuildUpTo, on_get_bind]
  split
  · rfl
  · rw [on_bind]
    cases hs : p.signature.on h with
    | mk s g =>
      cases (isQuery_signature p).eq hs
      cases s with
      | error e => rfl
      | ok signature? =>
        simp only
        rw [on_get_bind]
        split
        · rfl
        · exact on_renew p (p.rebuildUpTo n) signature? h

/-- A call that comes while a rebuild is under way comes to nothing. -/
theorem unheard_rebuildUpTo (n : Nat) (hbusy : h.progress.isRebuilding = true) :
    Rendering.Unheard (p.rebuildUpTo n) h := by
  intro _ g hg
  cases n with
  | zero => rfl
  | succ n => rw [on_rebuildUpTo_succ, hg, hbusy, Bool.true_or, if_pos rfl]

/-! ## A build within a call -/

theorem isQuiet_prepare (p : Preview) : IsQuiet p.prepare := by
  refine (isQuery_isThere _).isQuiet.bind fun seen => ?_
  have hrest : IsQuiet (makeDirectories p.stagingDir.parent >>= fun _ => pure p.stagingDir) :=
    (isQuiet_makeDirectories _).bind fun _ => (isQuery_pure _).isQuiet
  split
  · exact (isQuiet_removeTree _).bind fun _ => hrest
  · exact hrest

theorem isQuiet_activate (p : Preview) (staging : Path) : IsQuiet (p.activate staging) := by
  refine (isQuery_isThere _).isQuiet.bind fun seen => ?_
  split
  · exact (isQuiet_removeTree _).bind fun _ => isQuiet_replace _ _
  · exact isQuiet_replace _ _

/-- However a build ends, nothing is seen of it but starts of programs, and how far the preview has
come is as before. -/
theorem quiet_build (ha : Rendering.Unheard answer h) :
    Course (fun _ => True) h ((p.build answer).on h).2 := by
  refine course_bind (isQuiet_prepare p h) fun staging h₁ hprepare => ?_
  have hcourse := (isQuiet_prepare p).course hprepare
  exact course_bind (Site.quiet_build (ha.of_course hcourse)) fun _ h₂ _ =>
    isQuiet_activate p staging h₂

/-- What a call comes to: it is not called for, the signature cannot be taken, or it builds. -/
theorem of_rebuild (hrun : p.rebuild.on h = (r, h')) :
    (r = .ok () ∧ h' = h ∧ (h.progress.isRebuilding = true ∨
        isTooSoon h.clock h.progress.rebuiltAt = true ∨
        ∃ s, (p.signature.on h).1 = .ok (some s) ∧ h.progress.signature? = some s)) ∨
      (h' = h ∧ ∃ e, r = .error e ∧ (p.signature.on h).1 = .error e) ∨
      ∃ signature? result g, (p.signature.on h).1 = .ok signature? ∧
        (signature?.isSome = true → h.progress.signature? ≠ signature?) ∧
        (p.build (p.rebuildUpTo 1)).on (begun h) = (result, g) ∧
        Course (fun _ => True) (begun h) g ∧ concluded signature? result g = (r, h') := by
  rw [rebuild, on_rebuildUpTo_succ] at hrun
  split at hrun
  · rename_i hskip
    cases hrun
    rw [Bool.or_eq_true] at hskip
    exact .inl ⟨rfl, rfl, hskip.imp_right .inl⟩
  · cases hs : (p.signature.on h).1 with
    | error e =>
      rw [hs] at hrun
      cases hrun
      exact .inr (.inl ⟨rfl, e, rfl, rfl⟩)
    | ok signature? =>
      rw [hs] at hrun
      simp only at hrun
      split at hrun
      · rename_i hsame
        cases hrun
        rw [Bool.and_eq_true, decide_eq_true_eq, Option.isSome_iff_exists] at hsame
        obtain ⟨⟨s, rfl⟩, hsame⟩ := hsame
        exact .inl ⟨rfl, rfl, .inr (.inr ⟨s, rfl, hsame.symm⟩)⟩
      · rename_i hchanged
        refine .inr (.inr ⟨signature?, _, _, rfl, fun hsome he => hchanged ?_, rfl,
          quiet_build (unheard_rebuildUpTo 1 rfl), hrun⟩)
        rw [hsome, he, decide_eq_true rfl, Bool.and_self]

/-- A call comes to nothing if the sources have the signature that is remembered. -/
theorem rebuild_of_remembered {s : Signature} (hs : (p.signature.on h).1 = .ok (some s))
    (hremembered : h.progress.signature? = some s) : p.rebuild.on h = (.ok (), h) := by
  cases hrun : p.rebuild.on h with
  | mk r h' =>
    rcases of_rebuild hrun with ⟨rfl, rfl, -⟩ | ⟨-, e, -, he⟩ |
      ⟨signature?, -, -, hs', hchanged, -⟩
    · rfl
    · rw [hs] at he
      cases he
    · rw [hs] at hs'
      cases hs'
      exact absurd hremembered (hchanged rfl)

/-! ## What can be seen of a call -/

/-- The event is the report of a failed rebuild. -/
def reportsFailure : Event → Bool
  | .printed line => failureMark.toList.isPrefixOf line.toList
  | _ => false

theorem reportsFailure_of_isStart {e : Event} (he : e.IsStart) : reportsFailure e = false := by
  obtain ⟨command, directory, rfl⟩ := he
  rfl

theorem reportsFailure_reportOf {f : Failure} {line : String} (hf : reportOf f = some line) :
    reportsFailure (.printed line) = true := by
  have hmark : ∀ message : String, reportsFailure (.printed (failureMark ++ message)) = true := by
    intro message
    rw [reportsFailure, String.toList_append, List.isPrefixOf_iff_prefix]
    exact List.prefix_append _ _
  cases f with
  | site e =>
    cases hf
    exact hmark _
  | cause c =>
    rw [reportOf] at hf
    split at hf
    · cases hf
      exact hmark _
    · cases hf

theorem tree_concluded (signature? : Option Signature) (r : Except Failure Unit) (g : Host) :
    (concluded signature? r g).2.tree = g.tree := by
  cases r with
  | ok u => rfl
  | error f =>
    rw [concluded]
    cases reportOf f <;> rfl

/-- What is seen of the end of a build. -/
def report : Except Failure Unit → List Event
  | .ok () => []
  | .error f => ((reportOf f).map Event.printed).toList

theorem events_concluded (signature? : Option Signature) (r : Except Failure Unit) (g : Host) :
    (concluded signature? r g).2.events = report r ++ g.events := by
  cases r with
  | ok u => rfl
  | error f =>
    rw [concluded, report]
    cases reportOf f <;> rfl

/-- Of a call that builds the announcement is seen, then starts of programs, then the report. -/
theorem news_concluded (hcourse : Course (fun _ => True) (begun h) g)
    (hc : concluded signature? result g = (r, h')) :
    ∃ es, h.news h' = report result ++ (es ++ [.printed announcement]) ∧ ∀ e ∈ es, e.IsStart := by
  obtain ⟨es, hes, hall⟩ := hcourse.events
  refine ⟨es, news_eq ?_, hall⟩
  have hevents : h'.events = report result ++ (es ++ .printed announcement :: h.events) := by
    have := events_concluded signature? result g
    rwa [hc, hes] at this
  rw [hevents, List.append_assoc, List.append_assoc]
  rfl

theorem any_reportsFailure_of_starts {es : List Event} (hall : ∀ e ∈ es, e.IsStart) :
    (es ++ [Event.printed announcement]).any reportsFailure = false := by
  rw [List.any_append, Bool.or_eq_false_iff, List.any_eq_false]
  refine ⟨fun e he => ?_, by decide⟩
  rw [reportsFailure_of_isStart (hall e he)]
  simp

/-- How a call ended, as it can be seen from outside. -/
inductive Outcome where
  | skipped
  | failed
  | succeeded
deriving DecidableEq, Repr

/-- A call has failed if it reports a failure or hands one on, and it has built if it says so. -/
def outcome (h : Host) (r : Except Failure Unit) (h' : Host) : Outcome :=
  if !r.isOk || (h.news h').any reportsFailure then .failed
  else if .printed announcement ∈ h.news h' then .succeeded
  else .skipped

theorem outcome_self (h : Host) : outcome h (.ok ()) h = .skipped := by
  have hnews : h.news h = [] := news_eq rfl
  rw [outcome, hnews]
  rfl

theorem outcome_error (h h' : Host) (e : Failure) : outcome h (.error e) h' = .failed := rfl

/-- A call that builds succeeds if its build does, and else fails. -/
theorem outcome_concluded (hcourse : Course (fun _ => True) (begun h) g)
    (hc : concluded signature? result g = (r, h')) :
    outcome h r h' = if result.isOk then .succeeded else .failed := by
  obtain ⟨es, hnews, hall⟩ := news_concluded hcourse hc
  rw [outcome, hnews, List.any_append, any_reportsFailure_of_starts hall]
  cases result with
  | ok u =>
    cases hc
    simp [report, Except.isOk, Except.toBool]
  | error f =>
    rw [concluded] at hc
    cases hf : reportOf f with
    | none =>
      rw [hf] at hc
      cases hc
      rfl
    | some line =>
      simp [report, hf, reportsFailure_reportOf hf, Except.isOk, Except.toBool]

/-! ## Failed rebuilds -/

/-- **A rebuild that reports a failure keeps the finished site**, unless a failure waits for the
move of the next site to its place: then the finished site is gone.  This holds at any time in the
life of the preview, also if the program asks for rebuilds while it runs. -/
theorem failed_rebuild_keeps_site (hp : ofSettings root settings number? = .ok p)
    (habs : root.isAbsolute = true) (hproper : root.IsProper) (hup : ".." ∉ p.outputDir.names)
    (hslash : ∀ readme, settings.text Settings.readme = .ok readme → '/' ∉ readme.toList)
    (hsees : h.SeesAll) (hw : h.tree.WellFormed) (hstays : h.program.StaysIn p.stagingDir)
    (hrun : p.rebuild.on h = (r, h')) (hfailed : (h.news h').any reportsFailure = true) :
    p.SameSite h.tree h'.tree ∨ p.Awaited h ∧ p.NoSite h'.tree := by
  have hplaced := placed_of_ofSettings hp habs hproper hup
  obtain ⟨rfl, rfl, -⟩ := ofSettings_eq_ok hp
  rcases of_rebuild hrun with ⟨-, rfl, -⟩ | ⟨rfl, -⟩ |
    ⟨signature?, result, g, -, -, hbuild, hcourse, hc⟩
  · exact .inl fun _ => rfl
  · exact .inl fun _ => rfl
  have htree : h'.tree = g.tree := by
    have := tree_concluded signature? result g
    rwa [hc] at this
  rw [htree]
  rcases build_endings (h := begun h) hplaced hslash hsees hw hstays
    (unheard_rebuildUpTo 1 rfl) hbuild with ⟨hsame, -⟩ | ⟨hwait, hgone, -⟩ | ⟨rfl, -⟩
  · exact .inl (hsame.tree fun _ => rfl)
  · exact .inr ⟨hwait, hgone⟩
  · -- Of a build that succeeded no failure is reported.
    obtain ⟨es, hnews, hall⟩ := news_concluded hcourse hc
    rw [hnews, report, List.nil_append, any_reportsFailure_of_starts hall] at hfailed
    cases hfailed

/-! ## A project -/

/-- The project, on a host where a failure waits for the move of the readme page. -/
def hostRenaming : Host :=
  hostFailing .rename ⟨.top, ["project", "new", "site.staging", "README.html"]⟩

/-- The project, on a host where a failure waits for the move of the next site to its place. -/
def hostReplacing : Host := hostFailing .replace newPreview.stagingDir

/-- If the page of the readme document cannot be moved, the rebuild fails, and the finished site is
still there. -/
theorem failed_rebuild_keeps_site_used : hostRenaming.SeesAll ∧ hostRenaming.tree.WellFormed ∧
    ∃ r h', newPreview.rebuild.on hostRenaming = (r, h') ∧
      (hostRenaming.news h').any reportsFailure = true ∧
      newPreview.SameSite hostRenaming.tree h'.tree := by
  have hsees : hostRenaming.SeesAll := by decide
  have hw : hostRenaming.tree.WellFormed := wellFormed_usedProject
  have hreport : (hostRenaming.news (newPreview.rebuild.on hostRenaming).2).any reportsFailure =
      true := by
    decide +kernel
  cases hrun : newPreview.rebuild.on hostRenaming with
  | mk r h' =>
    rw [hrun] at hreport
    have hkept := failed_rebuild_keeps_site ofSettings_newSettings rfl isProper_project
      onward_newPreview slash_newSettings hsees hw staysIn_slides hrun hreport
    refine ⟨hsees, hw, r, h', rfl, hreport, hkept.resolve_right ?_⟩
    rintro ⟨⟨f, hf, hreplace, -⟩, -⟩
    cases List.mem_singleton.mp hf
    cases hreplace

/-- If the next site cannot be moved to its place, the rebuild reports a failure after the finished
site was removed: what was served until then is lost. -/
theorem failed_rebuild_loses_site : hostReplacing.SeesAll ∧ hostReplacing.tree.WellFormed ∧
    ∃ r h', newPreview.rebuild.on hostReplacing = (r, h') ∧
      (hostReplacing.news h').any reportsFailure = true ∧
      ¬ newPreview.SameSite hostReplacing.tree h'.tree := by
  have hsees : hostReplacing.SeesAll := by decide
  have hw : hostReplacing.tree.WellFormed := wellFormed_usedProject
  have hfacts : ∀ result, newPreview.rebuild.on hostReplacing = result →
      (hostReplacing.news result.2).any reportsFailure = true ∧
      result.2.tree.get? ["project", "new", "site", "old.html"] = none := by
    rintro result rfl
    decide +kernel
  have hthere : hostReplacing.tree.get? ["project", "new", "site", "old.html"] =
      some (.file ⟨[], 0, false⟩) := by
    decide +kernel
  cases hrun : newPreview.rebuild.on hostReplacing with
  | mk r h' =>
    obtain ⟨hreport, hlost⟩ := hfacts _ hrun
    refine ⟨hsees, hw, r, h', rfl, hreport, fun hsame => ?_⟩
    have hkept := (hlost.symm.trans (hsame ["old.html"])).trans hthere
    cases hkept

end Preview

end DeckPress
