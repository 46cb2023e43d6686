import DeckPress.Proofs.Preview.Refinement
import DeckPress.Proofs.Program.Confined
import DeckPress.Proofs.Site.Course

/-!
# What a preview serves is never half-written

A build of a preview works at the place of the next site until the site there is complete.  Only
then is the finished site removed and replaced, and failures may come between the two steps.

* `HasNewSite`, `SameSite`, `NoSite` — the three things that can be at the place of the finished
  site.
* `of_build` — a build fails before the finished site is touched, or comes to a complete next site
  (`Staged`).
* `of_activate` — how putting the next site in place may end.
* `course_build` — a build changes nothing but the places of the two sites and the way to them.
* `build_never_half_written` — at every step of a build, and however it ends, the place of the
  finished site is as it was, free, or has the complete new site.
-/

namespace DeckPress.Preview

open Act Host

variable {root : Path} {settings : Settings} {number? : Option Int} {p : Preview} {h h' h₁ : Host}
  {answer : Act Unit} {dir : Path} {a b : String} {t u : Tree} {r : Except Failure Unit} {x : Path}

/-! ## The two places -/

theorem Placed.plain_staging (hp : p.Placed dir a b) : p.stagingDir.IsPlain :=
  hp.staging ▸ hp.beside.plain_source

theorem Placed.plain_output (hp : p.Placed dir a b) : p.outputDir.IsPlain :=
  hp.output ▸ hp.beside.plain_target

theorem Placed.incomparable (hp : p.Placed dir a b) :
    Tree.Incomparable p.stagingDir.names p.outputDir.names := by
  rw [hp.staging, hp.output]
  exact Tree.incomparable_siblings hp.beside.ne

theorem Placed.staging_ne_nil (hp : p.Placed dir a b) : p.stagingDir.names ≠ [] :=
  hp.incomparable.ne_nil

theorem Placed.output_ne_nil (hp : p.Placed dir a b) : p.outputDir.names ≠ [] :=
  hp.incomparable.symm.ne_nil

/-- The finished site is in the tree `u` what it is in the tree `t`. -/
def SameSite (p : Preview) (t u : Tree) : Prop :=
  ∀ r, u.get? (p.outputDir.names ++ r) = t.get? (p.outputDir.names ++ r)

/-- Nothing is at the place of the finished site. -/
def NoSite (p : Preview) (t : Tree) : Prop := ∀ r, t.get? (p.outputDir.names ++ r) = none

/-- Nothing that happens around the place of the next site touches the finished one. -/
theorem Placed.sameSite (hp : p.Placed dir a b)
    (h : Tree.SameBut (Tree.Around p.stagingDir.names) t u) : p.SameSite t u := by
  intro r
  refine h _ fun haround => ?_
  rcases haround with hbelow | habove
  · exact hp.incomparable.symm.not_prefix_append r hbelow
  · exact hp.incomparable.2 ((List.prefix_append _ r).trans habove)

theorem Placed.noSite_eraseFrom (hp : p.Placed dir a b) (t : Tree) :
    p.NoSite (t.eraseFrom p.outputDir.names) := fun r => by
  rw [Tree.get?_eraseFrom hp.output_ne_nil, if_pos (List.prefix_append _ r)]

/-! ## Clearing the place of the next site -/

theorem outlasts_prepare (p : Preview) : Outlasts p.prepare := by
  refine (outlasts_isThere _).bind fun seen => ?_
  have hrest : Outlasts (makeDirectories p.stagingDir.parent >>= fun _ => pure p.stagingDir) :=
    (outlasts_makeDirectories _).bind fun _ => outlasts_pure _
  split
  · exact (outlasts_removeTree _).bind fun _ => hrest
  · exact hrest

/-- What is left of the last attempt is removed, and the directories above it are made. -/
theorem of_prepare (hrun : p.prepare.on h = (.ok x, h')) : x = p.stagingDir ∧
    ∃ g, (g = h ∨ (removeTree p.stagingDir).on h = (.ok (), g)) ∧
      (makeDirectories p.stagingDir.parent).on g = (.ok (), h') := by
  unfold prepare at hrun
  obtain ⟨seen, h₁, hseen, hrun⟩ := on_bind_eq_ok.mp hrun
  cases (isQuery_isThere _).eq hseen
  have hrest : ∀ {g}, (makeDirectories p.stagingDir.parent >>= fun _ =>
      (pure p.stagingDir : Act Path)).on g = (.ok x, h') →
        x = p.stagingDir ∧ (makeDirectories p.stagingDir.parent).on g = (.ok (), h') := by
    intro g hrun
    obtain ⟨_, _, hmake, hend⟩ := on_bind_eq_ok.mp hrun
    obtain ⟨rfl, rfl⟩ := on_pure_eq_ok.mp hend
    exact ⟨rfl, hmake⟩
  split at hrun
  · obtain ⟨_, g, hremove, hrun⟩ := on_bind_eq_ok.mp hrun
    exact ⟨(hrest hrun).1, g, .inr hremove, (hrest hrun).2⟩
  · exact ⟨(hrest hrun).1, h, .inl rfl, (hrest hrun).2⟩

theorem eq_of_prepare (hrun : p.prepare.on h = (.ok x, h')) : x = p.stagingDir :=
  (of_prepare hrun).1

theorem course_prepare (hq : p.stagingDir.IsPlain) (hne : p.stagingDir.names ≠ []) (h : Host) :
    Course (Tree.Around p.stagingDir.names) h (p.prepare.on h).2 := by
  refine course_bind ((isQuery_isThere _).course _ h) fun seen h₁ hseen => ?_
  cases (isQuery_isThere _).eq hseen
  have hrest : ∀ g, Course (Tree.Around p.stagingDir.names) g
      ((makeDirectories p.stagingDir.parent >>= fun _ => pure p.stagingDir : Act Path).on g).2 :=
    fun g => course_bind ((course_makeDirectories hq.parent).mono fun q hq =>
      .inr (hq.trans (List.dropLast_prefix _))) fun _ g₁ _ => (isQuery_pure _).course _ g₁
  split
  · exact course_bind ((course_removeTree hq hne).mono fun q => .inl) fun _ g _ => hrest g
  · exact hrest h

/-- The tree `u` is `t` with nothing at the place of the next site, and with the directories above
it. -/
def Ready (p : Preview) (t u : Tree) : Prop :=
  ∃ v, Cleared p.stagingDir.names t v ∧ Tree.Made v u p.stagingDir.parent.names

/-- The place of the next site is ready once it is known to be a place that can be worked on. -/
theorem ready_of_prepare (hp : p.Placed dir a b) (hsees : h.SeesAll) (hw : h.tree.Rooted)
    (hfits : p.stagingDir.Fits) (hnul : p.stagingDir.hasNul = false)
    (hrun : p.prepare.on h = (.ok x, h')) : p.Ready h.tree h'.tree := by
  obtain ⟨hspared, -⟩ := outlasts_prepare p h x h' hsees hrun
  obtain ⟨-, -, hready⟩ :=
    prepare_effect (h := h.spared) rfl hw hp.plain_staging hp.staging_ne_nil hspared
  exact hready hfits hnul

/-- Clearing the place of the next site leaves a well-formed tree well-formed. -/
theorem wellFormed_of_prepare (hq : p.stagingDir.IsPlain) (hne : p.stagingDir.names ≠ [])
    (hsees : h.SeesAll) (hw : h.tree.WellFormed) (hrun : p.prepare.on h = (.ok x, h')) :
    h'.tree.WellFormed := by
  obtain ⟨-, g, hg, hmake⟩ := of_prepare hrun
  have hwg : g.tree.WellFormed := by
    rcases hg with rfl | hremove
    · exact hw
    · obtain ⟨t, ht, rfl⟩ := eq_of_removeTree_ok hsees hremove
      obtain rfl := (Tree.eq_of_removeTree hq hne).1 t ht
      exact hw.eraseFrom hne
  obtain ⟨hnul, u, hu, rfl⟩ := on_makeDirectories_eq_ok.mp hmake
  exact hwg.made (Tree.made_of_makeDirectories hq.parent hu).2 (hq.parent.isEntryName hnul)

/-! ## Up to the complete next site -/

/-- The next site is complete at its place: the program was run for a build that began on the host
`h`, with nothing at the place before, and what it left there was finished. -/
def Staged (p : Preview) (h : Host) (t : Tree) : Prop :=
  ∃ (readme : String) (command : List String) (ready rendered : Tree) (names : List String),
    p.settings.text Settings.readme = .ok readme ∧ p.Ready h.tree ready ∧
      command[3]? = some p.stagingDir.toString ∧
      h.program.run command p.root.names ready = (.ok 0, rendered) ∧
      Site.Finished readme p.stagingDir.names rendered t names

/-- At the place of the finished site is a site that was complete at the place of the next one. -/
def HasNewSite (p : Preview) (h : Host) (t : Tree) : Prop :=
  ∃ u, p.Staged h u ∧ ∀ r, t.get? (p.outputDir.names ++ r) = u.get? (p.stagingDir.names ++ r)

/-- However it ends, making the next site changes nothing but its place and the way to it. -/
theorem course_site (hp : p.Placed dir a b)
    (hslash : ∀ readme, p.settings.text Settings.readme = .ok readme → '/' ∉ readme.toList)
    (hstays : h.program.StaysIn p.stagingDir) (ha : Rendering.Unheard answer h) :
    Course (Tree.Around p.stagingDir.names) h
      ((Site.build answer p.root none (some p.settings) (some p.stagingDir)).on h).2 :=
  Site.course_build hp.plain_staging hslash ha (fun _ => .inl) fun command hc =>
    hstays.sameBut command _ _ hc

/-- Where the place was cleared on the host `h`, a build of the next site that succeeds leaves it
complete, at a place that can be worked on. -/
theorem staged_of_site (hp : p.Placed dir a b)
    (hslash : ∀ readme, p.settings.text Settings.readme = .ok readme → '/' ∉ readme.toList)
    (hsees : h.SeesAll) (hw : h.tree.WellFormed) (hstays : h.program.StaysIn p.stagingDir)
    (ha : Rendering.Unheard answer h₁) (hprepare : p.prepare.on h = (.ok x, h₁))
    {result : Site.Result} (hsite : (Site.build answer p.root none (some p.settings)
      (some p.stagingDir)).on h₁ = (.ok result, h')) :
    p.Staged h h'.tree ∧ p.stagingDir.Fits ∧ p.stagingDir.hasNul = false ∧
      h'.tree.Leads p.stagingDir.names ∧ h'.tree.get? p.stagingDir.names = some .directory := by
  have hq := hp.plain_staging
  have hprepared := course_prepare hq hp.staging_ne_nil h
  rw [hprepare] at hprepared
  obtain ⟨i, output, h₂, hi, houtput, hrender, hfinish⟩ := Site.build_eq_ok.mp hsite
  cases houtput
  obtain ⟨program, t, -, hlaunch, rfl⟩ := (Rendering.byProgram_eq_ok ha).mp hrender
  have hrendered := (Rendering.launch_eq_ok.mp hlaunch).2
  obtain ⟨command, hcommand, hline⟩ : ∃ command : List String,
      command[3]? = some p.stagingDir.toString ∧ Rendering.command program (p.root / i.contentDir)
        p.stagingDir (p.root / i.theme) = command := ⟨_, rfl, rfl⟩
  rw [hline] at hfinish hrendered
  rw [hprepared.program] at hrendered
  have hsees₁ : (h₁.ran command p.root t).SeesAll := hsees.of_faults hprepared.faults
  have hreadme := hslash _ hi.readme
  -- The site was finished, so that its directory is a place that can be worked on.
  obtain ⟨hfits, hnul, hleads, hdir⟩ := Site.place_of_finish hsees₁ hq hreadme hfinish
  have hready := ready_of_prepare hp hsees hw.toRooted hfits hnul hprepare
  have hwt : t.WellFormed := by
    have hwr := wellFormed_of_prepare hq hp.staging_ne_nil hsees hw hprepare
    have := hstays.wellFormed command p.root.names _ hcommand hwr
    rwa [hrendered] at this
  obtain ⟨names, hfinished⟩ := Site.finished_of_finish hsees₁ hwt hq hreadme hfinish
  refine ⟨⟨i.readme, command, _, t, names, hi.readme, hready, hcommand, hrendered, hfinished⟩,
    hfits, hnul, fun r hr hne => ?_, ?_⟩
  · exact (hfinished.get?_above hr).trans (hleads r hr hne)
  · exact (hfinished.get?_above List.prefix_rfl).trans hdir

/-- A build fails while it works around the place of the next site, or comes to a complete site
there, which it puts in place. -/
theorem of_build (hp : p.Placed dir a b)
    (hslash : ∀ readme, p.settings.text Settings.readme = .ok readme → '/' ∉ readme.toList)
    (hsees : h.SeesAll) (hw : h.tree.WellFormed) (hstays : h.program.StaysIn p.stagingDir)
    (ha : Rendering.Unheard answer h) (hrun : (p.build answer).on h = (r, h')) :
    (Course (Tree.Around p.stagingDir.names) h h' ∧ ∃ e, r = .error e) ∨
      ∃ h₁, Course (Tree.Around p.stagingDir.names) h h₁ ∧ p.Staged h h₁.tree ∧
        p.stagingDir.Fits ∧ p.stagingDir.hasNul = false ∧ h₁.tree.Leads p.stagingDir.names ∧
        h₁.tree.get? p.stagingDir.names = some .directory ∧
        (p.activate p.stagingDir).on h₁ = (r, h') := by
  have hprepared := course_prepare hp.plain_staging hp.staging_ne_nil h
  unfold build at hrun
  rcases of_on_bind hrun with ⟨e, hprepare, rfl⟩ | ⟨staging, h₁, hprepare, hrun⟩
  · rw [hprepare] at hprepared
    exact .inl ⟨hprepared, e, rfl⟩
  rw [hprepare] at hprepared
  obtain rfl := eq_of_prepare hprepare
  have ha₁ := ha.of_course hprepared
  have hbuilt := course_site hp hslash (hprepared.program ▸ hstays) ha₁
  rcases of_on_bind hrun with ⟨e, hsite, rfl⟩ | ⟨result, h₂, hsite, hactivate⟩
  · rw [hsite] at hbuilt
    exact .inl ⟨hprepared.trans hbuilt, e, rfl⟩
  rw [hsite] at hbuilt
  obtain ⟨hstaged, hfits, hnul, hleads, hdir⟩ :=
    staged_of_site hp hslash hsees hw hstays ha₁ hprepare hsite
  exact .inr ⟨h₂, hprepared.trans hbuilt, hstaged, hfits, hnul, hleads, hdir, hactivate⟩

/-! ## Putting it in place -/

/-- The site that is moved is at its place what it was before. -/
theorem site_of_rename (hp : p.Placed dir a b) {cwd : Loc}
    (hmove : t.rename cwd p.stagingDir p.outputDir = .ok u) (q : Loc) :
    u.get? (p.outputDir.names ++ q) = t.get? (p.stagingDir.names ++ q) := by
  obtain ⟨s, d, hs, hd, -, -, hat⟩ := Tree.rename_eq_ok.mp hmove
  obtain ⟨-, -, rfl⟩ := (Tree.locate_eq_ok hp.plain_staging).mp hs
  obtain ⟨-, -, rfl⟩ := (Tree.locate_eq_ok hp.plain_output).mp hd
  rcases Tree.of_renameAt hat with ⟨he, -⟩ | ⟨-, -, rfl⟩
  · exact absurd (he ▸ List.prefix_rfl) hp.incomparable.1
  · exact Tree.get?_move_append hp.staging_ne_nil hp.output_ne_nil

/-- Once the finished site is removed, the next one can be moved to its place. -/
theorem exists_rename_erased (hp : p.Placed dir a b) (cwd : Loc) (hfits : p.stagingDir.Fits)
    (hleads : t.Leads p.stagingDir.names) (hdir : t.get? p.stagingDir.names = some .directory) :
    ∃ u, (t.eraseFrom p.outputDir.names).rename cwd p.stagingDir p.outputDir = .ok u := by
  have hs := hp.plain_staging
  have hd := hp.plain_output
  have hfits' : p.outputDir.Fits := by
    rw [hp.output]
    exact hp.beside.fits_target (hp.staging ▸ hfits)
  have hleads' : t.Leads p.outputDir.names := by
    rw [hp.staging] at hleads
    rw [hp.output]
    exact Tree.leads_concat.mpr (Tree.leads_concat.mp hleads)
  -- The way to both places is the way to their directory, and is not removed.
  have hkept : ∀ {q}, ¬ p.outputDir.names <+: q →
      (t.eraseFrom p.outputDir.names).get? q = t.get? q := fun hq => by
    rw [Tree.get?_eraseFrom hp.output_ne_nil, if_neg hq]
  have hlocate : (t.eraseFrom p.outputDir.names).locate cwd p.stagingDir =
      .ok p.stagingDir.names := by
    refine (Tree.locate_eq_ok hs).mpr ⟨hfits, fun r hr hne => ?_, rfl⟩
    rw [hkept fun hle => hp.incomparable.2 (hle.trans hr)]
    exact hleads r hr hne
  have hlocate' : (t.eraseFrom p.outputDir.names).locate cwd p.outputDir =
      .ok p.outputDir.names := by
    refine (Tree.locate_eq_ok hd).mpr ⟨hfits', fun r hr hne => ?_, rfl⟩
    rw [hkept fun hle => hne (hr.eq_of_length_le hle.length_le)]
    exact hleads' r hr hne
  have hsource : (t.eraseFrom p.outputDir.names).get? p.stagingDir.names = some .directory :=
    (hkept hp.incomparable.2).trans hdir
  have htarget : (t.eraseFrom p.outputDir.names).get? p.outputDir.names = none := by
    rw [Tree.get?_eraseFrom hp.output_ne_nil, if_pos List.prefix_rfl]
  exact ⟨_, Tree.rename_eq_ok.mpr ⟨_, _, hlocate, hlocate', hs.hasEntryName hp.staging_ne_nil,
    hd.hasEntryName hp.output_ne_nil,
    (Tree.renameAt_of_none hsource htarget hp.incomparable.1 hp.incomparable.2).mpr rfl⟩⟩

/-- A failure waits for the move of the next site to its place. -/
def Awaited (p : Preview) (h : Host) : Prop :=
  ∃ f ∈ h.faults, f.call = .replace ∧ h.cwd.append f.path = h.cwd.append p.stagingDir

/-- Putting a complete next site in place fails while the finished site is still there, fails after
it was removed, since a failure waits for the move, or succeeds. -/
theorem of_activate (hp : p.Placed dir a b) (hsees : h.SeesAll) (hfits : p.stagingDir.Fits)
    (hnul : p.stagingDir.hasNul = false) (hleads : h.tree.Leads p.stagingDir.names)
    (hdir : h.tree.get? p.stagingDir.names = some .directory)
    (hrun : (p.activate p.stagingDir).on h = (r, h')) :
    (Course (fun _ => False) h h' ∧ ∃ e, r = .error e) ∨
      (p.Awaited h ∧ h' = h.commit (h.tree.eraseFrom p.outputDir.names) ∧ ∃ e, r = .error e) ∨
      (r = .ok () ∧ ∃ h₁ t, (h₁ = h ∨ h₁ = h.commit (h.tree.eraseFrom p.outputDir.names)) ∧
        h' = h₁.commit t ∧
        ∀ q, t.get? (p.outputDir.names ++ q) = h.tree.get? (p.stagingDir.names ++ q)) := by
  unfold activate at hrun
  rcases of_on_bind hrun with ⟨e, hthere, rfl⟩ | ⟨seen, h₁, hthere, hrun⟩
  · exact .inl ⟨.of_eq ((isQuery_isThere _).eq hthere), e, rfl⟩
  cases (isQuery_isThere _).eq hthere
  have hdone : ∀ {h₁ : Host}, h₁.SeesAll →
      (replace p.stagingDir p.outputDir).on h₁ = (.ok (), h') → ∃ t, h' = h₁.commit t ∧
        ∀ q, t.get? (p.outputDir.names ++ q) = h₁.tree.get? (p.stagingDir.names ++ q) := by
    intro h₁ hsees₁ hreplace
    obtain ⟨t, ht, rfl⟩ := eq_of_replace_ok hsees₁ hreplace
    exact ⟨t, rfl, site_of_rename hp ht⟩
  cases seen with
  | false =>
    -- There is no finished site, and only the move is left to do.
    cases r with
    | error e => exact .inl ⟨.of_eq (host_of_replace_error hrun), e, rfl⟩
    | ok u =>
      obtain ⟨t, rfl, hsite⟩ := hdone hsees hrun
      exact .inr (.inr ⟨rfl, h, t, .inl rfl, rfl, hsite⟩)
  | true =>
    rcases of_on_bind hrun with ⟨e, hremove, rfl⟩ | ⟨u, h₁, hremove, hrun⟩
    · exact .inl ⟨course_of_removeTree_error hp.plain_output hp.output_ne_nil hremove, e, rfl⟩
    obtain ⟨t, ht, rfl⟩ := eq_of_removeTree_ok hsees hremove
    obtain rfl := (Tree.eq_of_removeTree hp.plain_output hp.output_ne_nil).1 t ht
    have hsees₁ : (h.commit (h.tree.eraseFrom p.outputDir.names)).SeesAll :=
      hsees.of_faults (h.faults_commit _)
    cases r with
    | error e =>
      refine .inr (.inl ⟨?_, host_of_replace_error hrun, e, rfl⟩)
      by_contra hfree
      obtain ⟨v, hv⟩ := exists_rename_erased hp h.cwd.names hfits hleads hdir
      have hnul' : p.outputDir.hasNul = false := by
        rw [hp.output]
        exact hp.beside.hasNul (hp.staging ▸ hnul)
      have hmoved : (replace p.stagingDir p.outputDir).on
          (h.commit (h.tree.eraseFrom p.outputDir.names)) =
            (.ok (), (h.commit (h.tree.eraseFrom p.outputDir.names)).commit v) := by
        rw [replace, on_heed_free (h := h.commit _) fun f hf hwait => hfree ⟨f, hf, hwait⟩]
        exact on_move_eq_ok.mpr ⟨hnul, hnul', v, hv, rfl⟩
      cases hmoved.symm.trans hrun
    | ok u =>
      obtain ⟨t, rfl, hsite⟩ := hdone hsees₁ hrun
      refine .inr (.inr ⟨rfl, _, t, .inr rfl, rfl, fun q => (hsite q).trans ?_⟩)
      exact (Tree.get?_eraseFrom hp.output_ne_nil).trans
        (if_neg (hp.incomparable.not_prefix_append q))

/-! ## Where builds work -/

/-- The place is at or below one of the places of the two sites, or on the way to that of the next
one. -/
def IsWorkplace (p : Preview) (q : Loc) : Prop :=
  Tree.Around p.stagingDir.names q ∨ Tree.Below p.outputDir.names q

theorem course_activate (hp : p.Placed dir a b) (h : Host) :
    Course p.IsWorkplace h ((p.activate p.stagingDir).on h).2 := by
  refine course_bind ((isQuery_isThere _).course _ h) fun seen h₁ hseen => ?_
  cases (isQuery_isThere _).eq hseen
  have hmove : ∀ g, Course p.IsWorkplace g ((replace p.stagingDir p.outputDir).on g).2 := by
    refine fun g => course_replace fun t ht => Tree.sameBut_of_rename ht ?_ ?_
    · intro k hk q hq
      obtain ⟨-, -, rfl⟩ := (Tree.locate_eq_ok hp.plain_staging).mp hk
      exact .inl (.inl hq)
    · intro k hk q hq
      obtain ⟨-, -, rfl⟩ := (Tree.locate_eq_ok hp.plain_output).mp hk
      exact .inr hq
  split
  · exact course_bind ((course_removeTree hp.plain_output hp.output_ne_nil).mono fun q => .inr)
      fun _ g _ => hmove g
  · exact hmove h

/-- However it ends, a build changes nothing but the places of the two sites and the way to that of
the next one. -/
theorem course_build (hp : p.Placed dir a b)
    (hslash : ∀ readme, p.settings.text Settings.readme = .ok readme → '/' ∉ readme.toList)
    (hstays : h.program.StaysIn p.stagingDir) (ha : Rendering.Unheard answer h) :
    Course p.IsWorkplace h ((p.build answer).on h).2 := by
  have hprepared := course_prepare hp.plain_staging hp.staging_ne_nil h
  refine course_bind (hprepared.mono fun q => .inl) fun staging h₁ hprepare => ?_
  rw [hprepare] at hprepared
  obtain rfl := eq_of_prepare hprepare
  refine course_bind ?_ fun _ g _ => course_activate hp g
  exact (course_site hp hslash (hprepared.program ▸ hstays) (ha.of_course hprepared)).mono
    fun q => .inl

/-! ## The whole -/

/-- How a build may end: the finished site is still there, or was removed and could not be replaced,
or the new site is in its place. -/
theorem build_endings (hp : p.Placed dir a b)
    (hslash : ∀ readme, p.settings.text Settings.readme = .ok readme → '/' ∉ readme.toList)
    (hsees : h.SeesAll) (hw : h.tree.WellFormed) (hstays : h.program.StaysIn p.stagingDir)
    (ha : Rendering.Unheard answer h) (hrun : (p.build answer).on h = (r, h')) :
    (Through (p.SameSite h.tree) h h' ∧ ∃ e, r = .error e) ∨
      (p.Awaited h ∧ p.NoSite h'.tree ∧ Through (fun t => p.SameSite h.tree t ∨ p.NoSite t) h h' ∧
        ∃ e, r = .error e) ∨
      (r = .ok () ∧ p.HasNewSite h h'.tree ∧
        Through (fun t => p.SameSite h.tree t ∨ p.NoSite t ∨ p.HasNewSite h t) h h') := by
  rcases of_build hp hslash hsees hw hstays ha hrun with
    ⟨hcourse, hfails⟩ | ⟨h₁, hcourse, hstaged, hfits, hnul, hleads, hdir, hactivate⟩
  · exact .inl ⟨hcourse.trees.mono fun t => hp.sameSite, hfails⟩
  have hsame : p.SameSite h.tree h₁.tree := hp.sameSite hcourse.tree
  have hbefore : Through (p.SameSite h.tree) h h₁ := hcourse.trees.mono fun t => hp.sameSite
  have hsees₁ := hsees.of_faults hcourse.faults
  rcases of_activate hp hsees₁ hfits hnul hleads hdir hactivate with
    ⟨hstill, hfails⟩ | ⟨⟨f, hf, hwait⟩, rfl, hfails⟩ | ⟨rfl, h₂, t, hremoved, rfl, hsite⟩
  · refine .inl ⟨hbefore.trans (hstill.trees.mono fun t ht q => ?_), hfails⟩
    exact (ht _ id).trans (hsame q)
  · have hgone := hp.noSite_eraseFrom h₁.tree
    refine .inr (.inl ⟨?_, hgone, (hbefore.mono fun t => .inl).trans (.commit (.inr hgone)),
      hfails⟩)
    rw [hcourse.faults] at hf
    rw [hcourse.cwd] at hwait
    exact ⟨f, hf, hwait⟩
  · have hnew : p.HasNewSite h t := ⟨h₁.tree, hstaged, hsite⟩
    refine .inr (.inr ⟨rfl, hnew, (hbefore.mono fun t => .inl).trans (.trans ?_
      (.commit (.inr (.inr hnew))))⟩)
    rcases hremoved with rfl | rfl
    · exact .refl _ _
    · exact .commit (.inr (.inl (hp.noSite_eraseFrom h₁.tree)))

/-- **What a preview serves is never half-written.**  After every step of a build, and however the
build ends, the place of the finished site holds what it held before, or nothing, or the complete
new site; and it holds the new site if the build succeeds, and only then.  The program may fail and
leave anything at the place of the next site, and failures may wait for any calls, but for those
that tell what a path is. -/
theorem build_never_half_written (hp : ofSettings root settings number? = .ok p)
    (habs : root.isAbsolute = true) (hproper : root.IsProper) (hup : ".." ∉ p.outputDir.names)
    (hslash : ∀ readme, settings.text Settings.readme = .ok readme → '/' ∉ readme.toList)
    (hsees : h.SeesAll) (hw : h.tree.WellFormed) (hstays : h.program.StaysIn p.stagingDir)
    (hask : h.program.asksForRebuild = false) (hrun : (p.build answer).on h = (r, h')) :
    Through (fun t => p.SameSite h.tree t ∨ p.NoSite t ∨ p.HasNewSite h t) h h' ∧
      (r = .ok () → p.HasNewSite h h'.tree) ∧
      ∀ e, r = .error e → p.SameSite h.tree h'.tree ∨ p.NoSite h'.tree := by
  have hplaced := placed_of_ofSettings hp habs hproper hup
  obtain ⟨rfl, rfl, -⟩ := ofSettings_eq_ok hp
  rcases build_endings hplaced hslash hsees hw hstays (.of_not_asking hask) hrun with
    ⟨hthrough, e, rfl⟩ | ⟨-, hgone, hthrough, e, rfl⟩ | ⟨rfl, hnew, hthrough⟩
  · have hsame : p.SameSite h.tree h'.tree := hthrough.tree fun _ => rfl
    exact ⟨hthrough.mono fun t => .inl, fun hok => absurd hok (by simp), fun _ _ => .inl hsame⟩
  · exact ⟨hthrough.mono fun t => Or.imp_right .inl, fun hok => absurd hok (by simp),
      fun _ _ => .inr hgone⟩
  · exact ⟨hthrough, fun _ => hnew, fun e he => absurd he (by simp)⟩

/-! ## A project -/

/-- A project that was built before, one second after the beginning of time, on a host where a
failure waits for a call on a path. -/
def hostFailing (call : Call) (path : Path) : Host :=
  { hostWith "/project/bin" usedProject with
    clock := 1000
    faults := [⟨call, path, .os (.plain Errno.busy.text)⟩] }

theorem isProper_project : project.IsProper := by decide

theorem staysIn_slides : (Program.writer slides 0).StaysIn newPreview.stagingDir := by
  have hplaced :=
    placed_of_ofSettings ofSettings_newSettings rfl isProper_project onward_newPreview
  refine Program.staysIn_writer hplaced.plain_staging (fun e he => ⟨confined_slides e he, ?_⟩) 0
  revert e
  unfold slides
  decide +kernel

theorem wellFormed_usedProject : usedProject.WellFormed := by decide +kernel

/-- The project, on a host where a failure waits for reading a page of the finished site. -/
def hostReading : Host := hostFailing .read ⟨.top, ["project", "new", "site", "old.html"]⟩

/-- In a project that was built before, the new site takes the place of the finished one, although
a failure waits for reading a page of the latter. -/
theorem build_never_half_written_used : hostReading.tree.WellFormed ∧ hostReading.SeesAll ∧
    ∃ h', (newPreview.build (pure ())).on hostReading = (.ok (), h') ∧
      Through (fun t => newPreview.SameSite hostReading.tree t ∨ newPreview.NoSite t ∨
        newPreview.HasNewSite hostReading t) hostReading h' ∧
      newPreview.HasNewSite hostReading h'.tree := by
  have hw : hostReading.tree.WellFormed := wellFormed_usedProject
  have hsees : hostReading.SeesAll := by decide
  obtain ⟨x, h', hrun⟩ : ∃ x h', (newPreview.build (pure ())).on hostReading = (.ok x, h') :=
    exists_of_isOk (by decide +kernel)
  obtain ⟨hthrough, hnew, -⟩ := build_never_half_written ofSettings_newSettings rfl isProper_project
    onward_newPreview slash_newSettings hsees hw staysIn_slides rfl hrun
  exact ⟨hw, hsees, h', hrun, hthrough, hnew rfl⟩

end DeckPress.Preview
