import DeckPress.Proofs.Preview.Memory
import DeckPress.Proofs.Preview.Signature
import DeckPress.Proofs.Preview.Start

/-!
# No change of the sources is lost

While a preview is watched, the sources are edited and events tell of the edits.  If for every edit
an event has got through, the site is made from the sources as they are, or the last build failed.

* `Edited` — the file at a path of a source was made, changed or removed; `not_edited_of_prepare`,
  `not_edited_of_rebuild` — builds edit no source that lies apart from their places.
* `Diary` — what an observer of a run writes down: the calls, and the edits that no event has
  followed yet; `Run` — the states of the diary and the host that runs come to.
* `Followed` — the invariant: where no edit is pending, the sources are as in a state in which the
  site was up to date; `Followed.world` and `Followed.event` are its steps.
* `no_change_lost` — the site is up to date when no edit is pending, unless the sources changed
  while the preview was being started.
* `change_lost` and `change_lost_at_start` — an event that comes too soon after a build does not
  count, and neither does one for an edit that came while a start built.
-/

namespace DeckPress.Preview

open Act Host

variable {p : Preview} {g h h' k : Host} {q x file dir root : Path} {a b : String}
  {answer : Act Unit} {isDirectory : Bool} {r result : Except Failure Unit}
  {signature? : Option Signature} {settings : Settings} {number? : Option Int}

/-! ## Edits -/

/-- The file at the path, which is one of a source, was made, changed or removed between two states
of the host. -/
def Edited (p : Preview) (h h' : Host) (q : Path) : Prop :=
  p.IsSource q ∧ h'.fileAt? q ≠ h.fileAt? q

theorem fileAt?_of_not_edited (hq : p.IsSource q) (hnot : ¬ p.Edited h h' q) :
    h'.fileAt? q = h.fileAt? q := by
  by_contra hne
  exact hnot ⟨hq, hne⟩

theorem not_edited_self (p : Preview) (h : Host) (q : Path) : ¬ p.Edited h h q :=
  fun hq => hq.2 rfl

/-- What is edited is the style sheet, or a file below the directory of the slides before or
after. -/
theorem mem_of_edited (hsound : h.Sound) (hsound' : h'.Sound) (hq : p.Edited h h' q) :
    q = p.theme ∨ q ∈ filesBelow h p.contentDir ∨ q ∈ filesBelow h' p.contentDir := by
  refine hq.1.imp_right fun hbelow => ?_
  rw [mem_filesBelow hsound, mem_filesBelow hsound', and_iff_right hbelow, and_iff_right hbelow]
  by_contra hnone
  rw [not_or, Option.not_isSome_iff_eq_none, Option.not_isSome_iff_eq_none] at hnone
  exact hq.2 (hnone.2.trans hnone.1.symm)

theorem isAbsolute_of_isSource (hp : ofSettings root settings number? = .ok p)
    (habs : root.isAbsolute = true) (hq : p.IsSource q) : q.isAbsolute = true := by
  obtain ⟨o, c, th, stagingDir, n, -, -, -, -, rfl⟩ := exists_of_ofSettings hp
  rcases hq with rfl | ⟨names, -, -, rfl⟩
  · exact Path.isAbsolute_div habs th
  · exact Path.isAbsolute_div habs c

theorem isProper_of_isSource (hp : ofSettings root settings number? = .ok p)
    (hproper : root.IsProper) (hq : p.IsSource q) : q.IsProper := by
  obtain ⟨o, c, th, stagingDir, n, -, -, -, -, rfl⟩ := exists_of_ofSettings hp
  rcases hq with rfl | ⟨names, -, hnames, rfl⟩
  · exact Path.isProper_div hproper th
  · intro name hname
    rcases List.mem_append.mp hname with hname | hname
    · exact Path.isProper_div hproper c name hname
    · exact (hnames name hname).isProperName

/-- The sources lie apart from the places of the sites. -/
structure Apart (p : Preview) : Prop where
  plain_content : p.contentDir.IsPlain
  plain_theme : p.theme.IsPlain
  plain_staging : p.stagingDir.IsPlain
  content_staging : Tree.Incomparable p.contentDir.names p.stagingDir.names
  content_output : Tree.Incomparable p.contentDir.names p.outputDir.names
  theme_staging : Tree.Incomparable p.theme.names p.stagingDir.names
  theme_output : Tree.Incomparable p.theme.names p.outputDir.names

theorem Apart.plain (hapart : p.Apart) (hq : p.IsSource q) : q.IsPlain := by
  rcases hq with rfl | ⟨names, -, hnames, rfl⟩
  · exact hapart.plain_theme
  · exact hapart.plain_content.below hnames

theorem Apart.not_workplace (hapart : p.Apart) (hq : p.IsSource q) : ¬ p.IsWorkplace q.names := by
  rcases hq with rfl | ⟨names, -, -, rfl⟩
  · rintro ((hbelow | habove) | hbelow)
    · exact hapart.theme_staging.2 hbelow
    · exact hapart.theme_staging.1 habove
    · exact hapart.theme_output.2 hbelow
  · rintro ((hbelow | habove) | hbelow)
    · exact hapart.content_staging.not_prefix_append names hbelow
    · exact hapart.content_staging.1 ((List.prefix_append _ names).trans habove)
    · exact hapart.content_output.not_prefix_append names hbelow

/-- What changes the places of the sites only edits no source that lies apart from them. -/
theorem Apart.not_edited (hapart : p.Apart) (hsound : h.Sound) (hsound' : h'.Sound)
    (hsame : Tree.SameBut p.IsWorkplace h.tree h'.tree) : ¬ p.Edited h h' q := by
  rintro ⟨hq, hedited⟩
  refine hedited (fileAt?_congr hsound' hsound (hapart.plain hq) fun f => ?_)
  rw [hsame _ (hapart.not_workplace hq)]

/-- Clearing the place of the next site edits no source. -/
theorem not_edited_of_prepare (hapart : p.Apart) (hsound : h.Sound)
    (hrun : p.prepare.on h = (.ok x, h')) : ¬ p.Edited h h' q := by
  have hne : p.stagingDir.names ≠ [] := hapart.content_staging.symm.ne_nil
  have hw' := wellFormed_of_prepare hapart.plain_staging hne hsound.seesAll hsound.wellFormed hrun
  have hcourse := course_prepare hapart.plain_staging hne h
  rw [hrun] at hcourse
  exact hapart.not_edited hsound ⟨hw', hsound.seesAll.of_faults hcourse.faults⟩
    (hcourse.tree.mono fun q => .inl)

/-- A rebuild by a program that stays at the place of the next site edits no source. -/
theorem not_edited_of_rebuild (hapart : p.Apart) (hp : p.Placed dir a b)
    (hslash : ∀ readme, p.settings.text Settings.readme = .ok readme → '/' ∉ readme.toList)
    (hstays : h.program.StaysIn p.stagingDir) (hsound : h.Sound) (hsound' : h'.Sound)
    (hrun : p.rebuild.on h = (r, h')) : ¬ p.Edited h h' q := by
  rcases of_rebuild hrun with ⟨-, rfl, -⟩ | ⟨rfl, -⟩ |
    ⟨signature?, result, g, -, -, hbuild, -, hc⟩
  · exact not_edited_self p _ q
  · exact not_edited_self p _ q
  have hunheard : Rendering.Unheard (p.rebuildUpTo 1) (begun h) := unheard_rebuildUpTo 1 rfl
  have hcourse := course_build (h := begun h) hp hslash hstays hunheard
  rw [hbuild] at hcourse
  have htree := tree_concluded signature? result g
  rw [hc] at htree
  refine hapart.not_edited hsound hsound' ?_
  rw [htree]
  exact hcourse.tree

/-! ## Runs -/

/-- What an observer of a run writes down. -/
structure Diary where
  log : Log := {}
  /-- The hosts before and after the start, as long as no rebuild has succeeded. -/
  start? : Option (Host × Host) := none
  /-- The preview was started, or an event has come that counts. -/
  isAwake : Prop := False
  /-- The sources that were edited, and for which no event has come since that counts. -/
  pending : Path → Prop := fun _ => False

/-- The diary after the world has changed. -/
def Diary.edited (d : Diary) (p : Preview) (h h' : Host) : Diary :=
  { d with pending := fun q => d.pending q ∨ p.Edited h h' q }

/-- The diary after an event for a file was handled. -/
def Diary.handled (d : Diary) (p : Preview) (counts : Prop) (file : Path) (h : Host)
    (r : Except Failure Unit) (h' : Host) : Diary where
  log := d.log.after h r h'
  start? := if outcome h r h' = .succeeded then none else d.start?
  isAwake := d.isAwake ∨ counts
  pending q := d.pending q ∧ ¬ (counts ∧ q = file) ∨ p.Edited h h' q

/-- The runs of a preview that is new or has been started.  Files, failures and the program change
between the events in any way; `Counts` tells which events count for the edits that came before. -/
inductive Run (p : Preview) (Counts : Path → Bool → Host → Prop) : Diary → Host → Prop where
  | new {h : Host} (hnew : h.progress = {}) (hsound : h.Sound) : Run p Counts {} h
  /-- Nothing is heard of requests until the start is over. -/
  | start {h h' : Host} {answer : Act Unit} (hnew : h.progress = {}) (hsound : h.Sound)
      (hunheard : Rendering.Unheard answer h) (hrun : (p.start answer).on h = (.ok (), h'))
      (hclock : h.clock ≤ h'.clock) (hsound' : h'.Sound) :
      Run p Counts ⟨⟨some (h, true), some h⟩, some (h, h'), True, p.Edited h h'⟩ h'
  | world {d : Diary} {h h' : Host} (hbefore : Run p Counts d h)
      (hkept : h'.progress = h.progress) (hclock : h.clock ≤ h'.clock) (hsound' : h'.Sound) :
      Run p Counts (d.edited p h h') h'
  | event {d : Diary} {h h' : Host} {r : Except Failure Unit} (hbefore : Run p Counts d h)
      (file : Path) (isDirectory : Bool) (hrun : (p.onChange file isDirectory).on h = (r, h'))
      (hclock : h.clock ≤ h'.clock) (hsound' : h'.Sound) :
      Run p Counts (d.handled p (Counts file isDirectory h) file h r h') h'

/-- The event is for a file, and no rebuild is under way. -/
def IsDelivered (_ : Path) (isDirectory : Bool) (h : Host) : Prop :=
  isDirectory = false ∧ h.progress.isRebuilding = false

/-- The event is for a file that is not ignored, no rebuild is under way, and none has just
ended. -/
def GetsThrough (p : Preview) (file : Path) (isDirectory : Bool) (h : Host) : Prop :=
  isDirectory = false ∧ p.isIgnored file = false ∧ h.progress.isRebuilding = false ∧
    isTooSoon h.clock h.progress.rebuiltAt = false

theorem onChange_of_getsThrough (hthrough : p.GetsThrough file isDirectory h) :
    p.onChange file isDirectory = p.rebuild := by
  obtain ⟨hfile, hheeded, -⟩ := hthrough
  rw [onChange, hfile, hheeded]
  rfl

/-- Any other event comes to nothing. -/
theorem on_onChange_of_not_getsThrough (hnot : ¬ p.GetsThrough file isDirectory h) :
    (p.onChange file isDirectory).on h = (.ok (), h) := by
  rw [onChange]
  split
  · rfl
  · rename_i hfile
    rw [Bool.not_eq_true, Bool.or_eq_false_iff] at hfile
    rw [rebuild, on_rebuildUpTo_succ, if_pos]
    by_contra hdue
    rw [Bool.not_eq_true, Bool.or_eq_false_iff] at hdue
    exact hnot ⟨hfile.1, hfile.2, hdue.1, hdue.2⟩

/-! ## Being up to date -/

/-- The last call that was not skipped failed. -/
def Diary.HasFailed (d : Diary) : Prop := ∃ g, d.log.last? = some (g, false)

/-- The last build that succeeded began when the sources had the signature. -/
def BuiltFrom (p : Preview) (d : Diary) (signature? : Option Signature) : Prop :=
  ∃ g, d.log.built? = some g ∧ p.signature.on g = (.ok signature?, g)

/-- The last build that succeeded is that of the start, and the sources had another signature when
it was over than when it began. -/
def ChangedAtStart (p : Preview) (d : Diary) : Prop :=
  ∃ g g', d.log.built? = some g ∧ d.start? = some (g, g') ∧
    (p.signature.on g).1 ≠ (p.signature.on g').1

/-- Where no edit is pending, the sources are as on a host from which the site was built. -/
structure Followed (p : Preview) (d : Diary) (h : Host) : Prop where
  sound : h.Sound
  built : ∀ g, d.log.built? = some g → g.Sound
  recorded : ∀ s, h.progress.signature? = some s → p.BuiltFrom d (some s) ∨ p.ChangedAtStart d
  current : d.isAwake → d.HasFailed ∨ ∃ c signature?, c.Sound ∧
    p.signature.on c = (.ok signature?, c) ∧
    (∀ q, p.IsSource q → ¬ d.pending q → h.fileAt? q = c.fileAt? q) ∧
    (p.BuiltFrom d signature? ∨ p.ChangedAtStart d)

theorem followed_of_new (hnew : h.progress = {}) (hsound : h.Sound) : p.Followed {} h := by
  refine ⟨hsound, fun g hg => ?_, fun s hs => ?_, fun hawake => hawake.elim⟩
  · cases hg
  · rw [hnew] at hs
    cases hs

theorem followed_of_start (hsound : h.Sound) (hsound' : h'.Sound)
    (hrun : (p.start answer).on h = (.ok (), h')) :
    p.Followed ⟨⟨some (h, true), some h⟩, some (h, h'), True, p.Edited h h'⟩ h' := by
  obtain ⟨k, signature?, -, hs, hfiles, hremembered⟩ := of_start hrun
  -- What is remembered is the signature that the sources have after the start.
  have hk : k.Sound := hfiles.symm.sound hsound'
  have hs' : p.signature.on h' = (.ok signature?, h') := signature_of_sameFiles hk hfiles hs
  have hbuilt : p.BuiltFrom ⟨⟨some (h, true), some h⟩, some (h, h'), True, p.Edited h h'⟩
        signature? ∨
      p.ChangedAtStart ⟨⟨some (h, true), some h⟩, some (h, h'), True, p.Edited h h'⟩ := by
    by_cases hkept : (p.signature.on h).1 = (p.signature.on h').1
    · exact .inl ⟨h, rfl, Prod.ext (by rw [hkept, hs']) (isQuery_signature p h)⟩
    · exact .inr ⟨h, h', rfl, rfl, hkept⟩
  refine ⟨hsound', fun g hg => ?_, fun s hrecorded => ?_,
    fun _ => .inr ⟨h', signature?, hsound', hs', fun q _ _ => rfl, hbuilt⟩⟩
  · cases hg
    exact hsound
  · rw [hremembered] at hrecorded
    exact hrecorded ▸ hbuilt

/-- What happens between the events keeps the preview followed. -/
theorem Followed.world {d : Diary} (hf : p.Followed d h) (hkept : h'.progress = h.progress)
    (hsound' : h'.Sound) : p.Followed (d.edited p h h') h' := by
  refine ⟨hsound', hf.built, fun s hs => hf.recorded s (hkept ▸ hs),
    fun hawake => (hf.current hawake).imp_right ?_⟩
  rintro ⟨c, signature?, hc, hs, hsame, hbuilt⟩
  refine ⟨c, signature?, hc, hs, fun q hq hnone => ?_, hbuilt⟩
  rw [fileAt?_of_not_edited hq fun hedited => hnone (.inr hedited)]
  exact hsame q hq fun hpending => hnone (.inl hpending)

/-- An event that comes to nothing is not written down, but that it may count. -/
theorem handled_self (d : Diary) (p : Preview) (counts : Prop) (file : Path) (h : Host) :
    d.handled p counts file h (.ok ()) h =
      { d with
        isAwake := d.isAwake ∨ counts
        pending := fun q => d.pending q ∧ ¬ (counts ∧ q = file) ∨ p.Edited h h q } := by
  rw [Diary.handled, Log.after, outcome_self]
  rfl

/-- A call that fails before or while it builds keeps the preview followed. -/
theorem Followed.failed {d : Diary} (hf : p.Followed d h) (counts : Prop) (file : Path)
    (hsound' : h'.Sound) (houtcome : outcome h r h' = .failed)
    (hkept : h'.progress.signature? = h.progress.signature?) :
    p.Followed (d.handled p counts file h r h') h' := by
  have hhandled : d.handled p counts file h r h' =
      { d with
        log := { d.log with last? := some (h, false) }
        isAwake := d.isAwake ∨ counts
        pending := fun q => d.pending q ∧ ¬ (counts ∧ q = file) ∨ p.Edited h h' q } := by
    rw [Diary.handled, Log.after, houtcome]
    rfl
  rw [hhandled]
  exact ⟨hsound', hf.built, fun s hs => hf.recorded s (hkept ▸ hs), fun _ => .inl ⟨h, rfl⟩⟩

/-- A call that succeeds has built from the sources as they were when it came. -/
theorem Followed.succeeded {d : Diary} (hf : p.Followed d h) (counts : Prop) (file : Path)
    (hsound' : h'.Sound) (houtcome : outcome h r h' = .succeeded)
    (hs : p.signature.on h = (.ok signature?, h))
    (hrecorded : h'.progress.signature? = signature?) :
    p.Followed (d.handled p counts file h r h') h' := by
  have hhandled : d.handled p counts file h r h' =
      { log := ⟨some (h, true), some h⟩
        start? := none
        isAwake := d.isAwake ∨ counts
        pending := fun q => d.pending q ∧ ¬ (counts ∧ q = file) ∨ p.Edited h h' q } := by
    rw [Diary.handled, Log.after, houtcome]
    rfl
  rw [hhandled]
  refine ⟨hsound', fun g hg => ?_, fun s hs' => .inl ⟨h, rfl, ?_⟩,
    fun _ => .inr ⟨h, signature?, hf.sound, hs, fun q hq hnone => ?_, .inl ⟨h, rfl, hs⟩⟩⟩
  · cases hg
    exact hf.sound
  · rw [← hs', hrecorded]
    exact hs
  · exact fileAt?_of_not_edited hq fun hedited => hnone (.inr hedited)

/-- An event keeps the preview followed: it does not get through, or the sources have the signature
that is remembered, or the call fails, or it builds from the sources as they are. -/
theorem Followed.event {d : Diary} (hf : p.Followed d h)
    (hrun : (p.onChange file isDirectory).on h = (r, h')) (hsound' : h'.Sound) :
    p.Followed (d.handled p (p.GetsThrough file isDirectory h) file h r h') h' := by
  by_cases hthrough : p.GetsThrough file isDirectory h
  case neg =>
    rw [on_onChange_of_not_getsThrough hthrough] at hrun
    cases hrun
    rw [handled_self]
    refine ⟨hsound', hf.built, hf.recorded,
      fun hawake => (hf.current (hawake.resolve_right hthrough)).imp_right ?_⟩
    rintro ⟨c, signature?, hc, hs, hsame, hbuilt⟩
    exact ⟨c, signature?, hc, hs, fun q hq hnone => hsame q hq fun hpending =>
      hnone (.inl ⟨hpending, fun hcounts => hthrough hcounts.1⟩), hbuilt⟩
  rw [onChange_of_getsThrough hthrough] at hrun
  obtain ⟨-, -, hidle, hdue⟩ := hthrough
  rcases of_rebuild hrun with ⟨rfl, rfl, hskip⟩ | ⟨rfl, e, rfl, -⟩ |
    ⟨signature?, result, k, hs, -, -, hcourse, hc⟩
  · rw [handled_self]
    refine ⟨hsound', hf.built, hf.recorded, fun _ => .inr ?_⟩
    rcases hskip with hbusy | hsoon | ⟨s, hs, hrecorded⟩
    · exact absurd hidle (by simp [hbusy])
    · exact absurd hdue (by simp [hsoon])
    · exact ⟨h', some s, hsound', Prod.ext hs (isQuery_signature p h'), fun q _ _ => rfl,
        hf.recorded s hrecorded⟩
  · exact hf.failed _ file hsound' (outcome_error _ _ _) rfl
  · have houtcome := outcome_concluded hcourse hc
    cases result with
    | ok u =>
      cases hc
      exact hf.succeeded _ file hsound' houtcome (Prod.ext hs (isQuery_signature p h)) rfl
    | error e =>
      have hprogress := progress_concluded_error signature? e k
      rw [hc, hcourse.progress] at hprogress
      exact hf.failed _ file hsound' houtcome (by rw [hprogress]; rfl)

theorem Run.followed {d : Diary} (hrun : p.Run p.GetsThrough d h) : p.Followed d h := by
  induction hrun with
  | new hnew hsound => exact followed_of_new hnew hsound
  | start _ hsound _ hrun _ hsound' => exact followed_of_start hsound hsound' hrun
  | world _ hkept _ hsound' ih => exact ih.world hkept hsound'
  | event _ file isDirectory hrun _ hsound' ih => exact ih.event hrun hsound'

/-- The host on which the program is started by a call or a start that builds: the place of the next
site has been cleared. -/
def StartsOn (p : Preview) (g k : Host) : Prop :=
  ∃ x, p.prepare.on g = (.ok x, k) ∨ p.prepare.on (begun g) = (.ok x, k)

theorem not_edited_of_startsOn (hapart : p.Apart) (hsound : g.Sound) (hstarts : p.StartsOn g k) :
    ¬ p.Edited g k q := by
  obtain ⟨x, hrun | hrun⟩ := hstarts
  · exact not_edited_of_prepare hapart hsound hrun
  · exact not_edited_of_prepare (h := begun g) hapart ⟨hsound.wellFormed, hsound.seesAll⟩ hrun

/-- **No change of the sources is lost.**  Once the preview was started or an event has got through
to it, and if every edit of a source was followed by an event for it that got through, the last call
failed, or the last build that succeeded began when the sources had the signature that they have
now, unless that build is the one of the start and the sources changed in the meantime.  That
signature can be taken if the sources lie in the project and no path is too long.  If they lie apart
from the places of the sites, they are also the sources on which that build started the program. -/
theorem no_change_lost {d : Diary} (hrun : p.Run p.GetsThrough d h) (hawake : d.isAwake)
    (hnone : ∀ q, ¬ d.pending q) :
    (∀ signature?, p.signature.on h = (.ok signature?, h) →
      d.HasFailed ∨ p.BuiltFrom d signature? ∨ p.ChangedAtStart d) ∧
    (p.contentDir.IsBelow p.root → p.theme.IsBelow p.root → p.Legible h →
      ∃ signature?, p.signature.on h = (.ok signature?, h)) ∧
    (p.Apart → ∀ g k, d.log.built? = some g → p.StartsOn g k → ∀ q, ¬ p.Edited g k q) := by
  have hf := hrun.followed
  refine ⟨fun signature? hs => (hf.current hawake).imp_right ?_, exists_signature hf.sound,
    fun hapart g k hg hstarts q => not_edited_of_startsOn hapart (hf.built g hg) hstarts⟩
  rintro ⟨c, signature'?, hc, hs', hsame, hbuilt⟩
  rw [signature_congr hf.sound hc (fun q hq => hsame q hq (hnone q)) hs hs']
  exact hbuilt

/-! ## A project -/

/-- The path of the slides of the project. -/
def slidesPath : Path := ⟨.top, slidesPlace⟩

/-- A host on which the slides were written at a time. -/
def revised (h : Host) (clock : Int) : Host :=
  { h with
    clock
    tree := h.tree.set slidesPlace (.file ⟨[], clock, false⟩) }

/-- The project with slides that are older than the program. -/
def hostAuthored : Host := { hostWith "/project/bin" authoredProject with clock := 1000 }

/-- The project with slides that have just been written. -/
def hostRevised : Host := revised hostAuthored 2000

theorem apart_newPreview : newPreview.Apart :=
  ⟨by decide, by decide, by decide, by decide, by decide, by decide, by decide⟩

theorem sound_hostAuthored : hostAuthored.Sound := ⟨by decide +kernel, by decide⟩

theorem sound_hostRevised : hostRevised.Sound := ⟨by decide +kernel, by decide⟩

theorem getsThrough_hostRevised : newPreview.GetsThrough slidesPath false hostRevised :=
  ⟨rfl, by decide, rfl, by decide +kernel⟩

/-- Writing the slides edits nothing else. -/
theorem eq_of_edited_revised {clock : Int} (hh : h.Sound) (hr : (revised h clock).Sound)
    (hq : newPreview.Edited h (revised h clock) q) : q = slidesPath := by
  by_contra hne
  have hroot : q.root = .top := by
    rcases hq.1 with rfl | ⟨names, -, -, rfl⟩
    · rfl
    · rfl
  have hnames : q.names ≠ slidesPlace := fun hnames => hne (by
    cases q
    cases hroot
    cases hnames
    rfl)
  refine hq.2 (fileAt?_congr hr hh (apart_newPreview.plain hq.1) fun f => ?_)
  rw [revised, Tree.get?_set (by decide), if_neg hnames]

/-- The event for the slides gets through, and the site is built without an edit of a source. -/
theorem exists_renewed : ∃ r h', (newPreview.onChange slidesPath false).on hostRevised = (r, h') ∧
    h'.Sound ∧ hostRevised.clock ≤ h'.clock ∧ outcome hostRevised r h' = .succeeded ∧
    (∀ q, ¬ newPreview.Edited hostRevised h' q) ∧ newPreview.Legible h' ∧
    (revised h' 2010).Sound ∧ h'.clock ≤ 2010 ∧ h'.progress.isRebuilding = false ∧
    isTooSoon 2010 h'.progress.rebuiltAt = true ∧
    (newPreview.signature.on hostRevised).1.toOption =
      some (some [⟨"markdown/workshop/a.md", 2000, 0⟩]) ∧
    (newPreview.signature.on (revised h' 2010)).1.toOption =
      some (some [⟨"markdown/workshop/a.md", 2010, 0⟩]) := by
  -- All that is known of the host afterwards comes from one run of the call.
  have hfacts : ∀ result, (newPreview.onChange slidesPath false).on hostRevised = result →
      (result.2.tree.WellFormed ∧ result.2.SeesAll ∧ newPreview.Legible result.2) ∧
      (revised result.2 2010).tree.WellFormed ∧
      outcome hostRevised result.1 result.2 = .succeeded ∧
      result.2.clock = 2000 ∧ result.2.progress.rebuiltAt = 2000 ∧
      result.2.progress.isRebuilding = false ∧
      (newPreview.signature.on hostRevised).1.toOption =
        some (some [⟨"markdown/workshop/a.md", 2000, 0⟩]) ∧
      (newPreview.signature.on (revised result.2 2010)).1.toOption =
        some (some [⟨"markdown/workshop/a.md", 2010, 0⟩]) := by
    rintro result rfl
    decide +kernel
  have hplaced :=
    placed_of_ofSettings ofSettings_newSettings rfl isProper_project onward_newPreview
  cases hrun : (newPreview.onChange slidesPath false).on hostRevised with
  | mk r h' =>
    obtain ⟨⟨hw, hsees, hlegible⟩, hw', houtcome, htime, hended, hidle, hsignature⟩ :=
      hfacts _ hrun
    have hsound : h'.Sound := ⟨hw, hsees⟩
    have hedits : ∀ q, ¬ newPreview.Edited hostRevised h' q := fun q => by
      rw [onChange_of_getsThrough getsThrough_hostRevised] at hrun
      exact not_edited_of_rebuild apart_newPreview hplaced slash_newSettings staysIn_slides
        sound_hostRevised hsound hrun
    refine ⟨r, h', rfl, hsound, ?_, houtcome, hedits, hlegible, ⟨hw', hsees⟩, ?_, hidle, ?_,
      hsignature⟩
    · exact le_of_eq htime.symm
    · exact le_of_eq_of_le htime (by decide)
    · rw [hended]
      decide +kernel

/-- The slides of a new preview are written, the event gets through, and the site is made from the
slides as they are. -/
theorem no_change_lost_revised : ∃ d h signature?, newPreview.Run newPreview.GetsThrough d h ∧
    d.isAwake ∧ (∀ q, ¬ d.pending q) ∧ newPreview.signature.on h = (.ok signature?, h) ∧
    newPreview.BuiltFrom d signature? := by
  obtain ⟨r, h', hrun, hsound, hclock, houtcome, hedits, hlegible, -⟩ := exists_renewed
  have hnew : newPreview.Run newPreview.GetsThrough {} hostAuthored := .new rfl sound_hostAuthored
  have hrevised : newPreview.Run newPreview.GetsThrough
      (({} : Diary).edited newPreview hostAuthored hostRevised) hostRevised :=
    hnew.world rfl (by decide) sound_hostRevised
  have hrenewed := hrevised.event slidesPath false hrun hclock hsound
  have hnone : ∀ q, ¬ ((({} : Diary).edited newPreview hostAuthored hostRevised).handled newPreview
      (newPreview.GetsThrough slidesPath false hostRevised) slidesPath hostRevised r h').pending
        q := by
    rintro q (⟨hpending | hedited, hmissed⟩ | hedited)
    · exact hpending
    · exact hmissed ⟨getsThrough_hostRevised,
        eq_of_edited_revised sound_hostAuthored sound_hostRevised hedited⟩
    · exact hedits q hedited
  obtain ⟨hdone, hcan, -⟩ := no_change_lost hrenewed (.inr getsThrough_hostRevised) hnone
  obtain ⟨signature?, hs⟩ := hcan (by decide) (by decide) hlegible
  refine ⟨_, h', signature?, hrenewed, .inr getsThrough_hostRevised, hnone, hs, ?_⟩
  -- The call succeeded, and the preview was not started.
  rcases hdone signature? hs with ⟨g, hfailed⟩ | hbuilt | ⟨g, g', -, hstart, -⟩
  · rw [Diary.handled, Log.after, houtcome] at hfailed
    cases hfailed
  · exact hbuilt
  · rw [Diary.handled, houtcome] at hstart
    cases hstart

/-- An event that comes ten milliseconds after a build does not count: the slides were changed, the
event for them was handled, and the site is still made from the slides as they were before. -/
theorem change_lost : newPreview.contentDir.IsBelow newPreview.root ∧
    newPreview.theme.IsBelow newPreview.root ∧ newPreview.Apart ∧
    newPreview.isIgnored newPreview.contentDir = false ∧
    newPreview.isIgnored newPreview.theme = false ∧
    ∃ d h signature?, newPreview.Run IsDelivered d h ∧ d.isAwake ∧ (∀ q, ¬ d.pending q) ∧
      newPreview.signature.on h = (.ok signature?, h) ∧
      ¬ d.HasFailed ∧ ¬ newPreview.BuiltFrom d signature? := by
  obtain ⟨r, h', hrun, hsound, hclock, houtcome, hedits, -, hsound', hclock', hidle, hsoon,
    hbefore, hafter⟩ := exists_renewed
  have hnew : newPreview.Run IsDelivered {} hostRevised := .new rfl sound_hostRevised
  have hbuilt := hnew.event slidesPath false hrun hclock hsound
  have hkept : (revised h' 2010).progress = h'.progress := rfl
  have hchanged := hbuilt.world hkept hclock' hsound'
  have hdropped : (newPreview.onChange slidesPath false).on (revised h' 2010) =
      (.ok (), revised h' 2010) := by
    refine on_onChange_of_not_getsThrough fun hthrough => ?_
    have hdue : isTooSoon 2010 h'.progress.rebuiltAt = false := hthrough.2.2.2
    rw [hsoon] at hdue
    cases hdue
  have hlast := hchanged.event slidesPath false hdropped le_rfl hsound'
  have hlog : ∀ c c' : Prop,
      (((({} : Diary).handled newPreview c slidesPath hostRevised r h').edited newPreview h'
        (revised h' 2010)).handled newPreview c' slidesPath (revised h' 2010) (.ok ())
          (revised h' 2010)).log = ⟨some (hostRevised, true), some hostRevised⟩ := by
    intro c c'
    rw [handled_self]
    show (({} : Diary).handled newPreview c slidesPath hostRevised r h').log = _
    rw [Diary.handled, Log.after, houtcome]
  refine ⟨by decide, by decide, apart_newPreview, by decide, by decide, _, _, _, hlast,
    .inr ⟨rfl, hidle⟩, ?_, eq_ok_of_toOption (isQuery_signature _) hafter, ?_, ?_⟩
  · rintro q (⟨(⟨hpending, -⟩ | hedited) | hedited, hmissed⟩ | hedited)
    · exact hpending
    · exact hedits q hedited
    · exact hmissed ⟨⟨rfl, hidle⟩, eq_of_edited_revised hsound hsound' hedited⟩
    · exact not_edited_self newPreview _ q hedited
  · rintro ⟨g, hfailed⟩
    rw [hlog] at hfailed
    cases hfailed
  · rintro ⟨g, hg, hs⟩
    rw [hlog] at hg
    cases hg
    rw [hs] at hbefore
    cases hbefore

/-- The project on a host where the slides are saved while the renderer runs. -/
def hostSaving : Host :=
  { hostAuthored with
    program.run := fun command cwd t =>
      (Program.writer slides 0).run command cwd (t.set slidesPlace (.file ⟨[], 500, false⟩)) }

theorem sound_hostSaving : hostSaving.Sound := ⟨by decide +kernel, by decide⟩

/-- The preview is started.  The only edit is that of the slides, and the signature that is
remembered is that of the edited ones, so that the event for them comes to nothing. -/
theorem exists_started : ∃ h', (newPreview.start (pure ())).on hostSaving = (.ok (), h') ∧
    h'.Sound ∧ h'.clock = 1000 ∧ (∀ q, newPreview.Edited hostSaving h' q → q = slidesPath) ∧
    newPreview.GetsThrough slidesPath false h' ∧
    (newPreview.signature.on hostSaving).1.toOption =
      some (some [⟨"markdown/workshop/a.md", 0, 0⟩]) ∧
    (newPreview.signature.on h').1.toOption = some h'.progress.signature? ∧
    h'.progress.signature? = some [⟨"markdown/workshop/a.md", 500, 0⟩] := by
  -- All that is known of the host afterwards comes from one run of the start.
  have hfacts : ∀ result, (newPreview.start (pure ())).on hostSaving = result →
      result.1.isOk = true ∧ (result.2.tree.WellFormed ∧ result.2.SeesAll) ∧
      result.2.clock = 1000 ∧
      (filesBelow hostSaving newPreview.contentDir = [slidesPath] ∧
        filesBelow result.2 newPreview.contentDir = [slidesPath] ∧
        result.2.fileAt? newPreview.theme = hostSaving.fileAt? newPreview.theme) ∧
      (result.2.progress.isRebuilding = false ∧
        isTooSoon result.2.clock result.2.progress.rebuiltAt = false) ∧
      (newPreview.signature.on hostSaving).1.toOption =
        some (some [⟨"markdown/workshop/a.md", 0, 0⟩]) ∧
      (newPreview.signature.on result.2).1.toOption = some result.2.progress.signature? ∧
      result.2.progress.signature? = some [⟨"markdown/workshop/a.md", 500, 0⟩] := by
    rintro result rfl
    decide +kernel
  cases hrun : (newPreview.start (pure ())).on hostSaving with
  | mk r h' =>
    obtain ⟨hok, ⟨hw, hsees⟩, hclock, ⟨hfiles, hfiles', htheme⟩, ⟨hidle, hdue⟩, hsignature⟩ :=
      hfacts _ hrun
    cases r with
    | error e => cases hok
    | ok u =>
      have hsound : h'.Sound := ⟨hw, hsees⟩
      refine ⟨h', rfl, hsound, hclock, fun q hq => ?_, ⟨rfl, by decide, hidle, hdue⟩, hsignature⟩
      rcases mem_of_edited sound_hostSaving hsound hq with rfl | hmem | hmem
      · exact absurd htheme hq.2
      · rwa [hfiles, List.mem_singleton] at hmem
      · rwa [hfiles', List.mem_singleton] at hmem

/-- **The case that is left open.**  The slides are saved while the renderer runs for a start.  The
event for them gets through, but what is remembered is the signature that they have by then, so the
site stays the one that was made from the slides as they were before. -/
theorem change_lost_at_start : ∃ d h signature?, newPreview.Run newPreview.GetsThrough d h ∧
    d.isAwake ∧ (∀ q, ¬ d.pending q) ∧ newPreview.signature.on h = (.ok signature?, h) ∧
    newPreview.ChangedAtStart d ∧ ¬ d.HasFailed ∧ ¬ newPreview.BuiltFrom d signature? := by
  obtain ⟨h', hrun, hsound, hclock, hedits, hthrough, hbefore, hafter, hremembered⟩ :=
    exists_started
  have hstarted : newPreview.Run newPreview.GetsThrough _ h' :=
    .start rfl sound_hostSaving (.of_not_asking rfl) hrun (le_of_eq hclock.symm) hsound
  have hs := eq_ok_of_toOption (isQuery_signature _) hafter
  have hskipped : (newPreview.onChange slidesPath false).on h' = (.ok (), h') := by
    rw [onChange_of_getsThrough hthrough]
    rw [hremembered] at hs
    exact rebuild_of_remembered (by rw [hs]) hremembered
  have hlast := hstarted.event slidesPath false hskipped le_rfl hsound
  rw [handled_self] at hlast
  have hbefore := eq_ok_of_toOption (isQuery_signature _) hbefore
  rw [hremembered] at hs
  refine ⟨_, h', _, hlast, .inl trivial, ?_, hs, ⟨hostSaving, h', rfl, rfl, ?_⟩, ?_, ?_⟩
  · rintro q (⟨hedited, hmissed⟩ | hedited)
    · exact hmissed ⟨hthrough, hedits q hedited⟩
    · exact not_edited_self newPreview _ q hedited
  · rw [hbefore, hs]
    nofun
  · rintro ⟨g, hfailed⟩
    cases hfailed
  · rintro ⟨g, hg, hbuilt⟩
    cases hg
    rw [hbefore] at hbuilt
    cases hbuilt

end DeckPress.Preview
