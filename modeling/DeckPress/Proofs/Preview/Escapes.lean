import DeckPress.Proofs.Preview.Changes
import DeckPress.Proofs.Site.Raises

/-!
# What gets past a rebuild

A rebuild reports failures of its build and of the file system, and hands on all others.  It also
hands on whatever keeps it from taking the signature, which comes before the build.

* `Preview.Escapes` — the causes that a request can be ended by; `Preview.IsOrdinary` — the hosts
  that are spoken of.
* `raises_signature`, `raises_build` — taking the signature, and a build within a rebuild.
* `request_survives` — every request comes to its end, and a failure of its build is reported,
  unless one of these causes is met; `request_escapes` — one of them is met if the slides lie
  outside the project.
-/

namespace DeckPress

open Act Host

namespace Preview

variable {p : Preview} {root q : Path} {settings : Settings} {number? : Option Int} {g h h' : Host}
  {I : Host → Prop} {P : Failure → Prop} {answer : Act Unit} {r : Except Failure Unit}

/-- What a request can be ended by. -/
inductive Escapes (p : Preview) (h : Host) : Cause → Prop where
  /-- A place at which sources are looked for is asked about in vain. -/
  | unseen (q : Path) (c : Cause) (hq : q ∈ p.contentDir :: p.places h) (hunseen : h.Unseen q c) :
    Escapes p h c
  /-- A source lies outside the project. -/
  | outside (q : Path) (f : File) (hq : q ∈ p.places h) (hlook : h.look q = .ok (some (.file f)))
    (hout : ¬ q.IsBelow p.root) : Escapes p h (.notBelow q p.root)
  /-- A NUL is in a path that is handed to the system, to make the directory for the next site or
  to start the renderer. -/
  | nul (hnul : [p.root, p.contentDir, p.stagingDir, p.theme].any Path.hasNul = true) :
    Escapes p h .nulInPath
  /-- A setting that is needed only for builds has no text. -/
  | unwritable (key : String) (e : NumberError) (hkey : key ∈ [Settings.renderer, Settings.readme])
    (he : p.settings.Unwritable key e) : Escapes p h (.number e)

/-! ## The signature -/

/-- The failure is one that the taking of the signature can come to. -/
inductive Unsigned (p : Preview) (h : Host) : Failure → Prop where
  /-- A place at which sources are looked for is asked about in vain. -/
  | unseen (q : Path) (c : Cause) (hq : q ∈ p.contentDir :: p.places h) (hunseen : h.Unseen q c) :
    Unsigned p h (.cause c)
  /-- A source lies outside the project. -/
  | outside (q : Path) (f : File) (hq : q ∈ p.places h) (hlook : h.look q = .ok (some (.file f)))
    (hout : ¬ q.IsBelow p.root) : Unsigned p h (.cause (.notBelow q p.root))

theorem raises_probe_source (hq : q ∈ p.contentDir :: p.places h) :
    Raises (· = h) (p.Unsigned h) (probe q) := by
  apply raises_probe
  rintro _ c rfl hunseen
  exact .unseen q c hq hunseen

theorem raises_stampOf (hq : q ∈ p.places h) :
    Raises (· = h) (p.Unsigned h) (stampOf p.root q) := by
  refine raises_get_bind fun h₁ hh => ?_
  split
  · rename_i f hlook
    rw [hh] at hlook
    split
    · exact raises_pure _
    · rename_i hout
      refine raises_throw (.outside q f hq hlook ?_)
      rw [← Path.isSome_relativeTo?, hout]
      exact Bool.false_ne_true
  · exact raises_pure _

theorem raises_stampsOf {files : List Path} (hfiles : files ⊆ p.places h) :
    Raises (· = h) (p.Unsigned h) (stampsOf p.root files) := by
  induction files with
  | nil => exact raises_pure _
  | cons file files ih =>
    obtain ⟨hfile, hfiles⟩ := List.cons_subset.mp hfiles
    exact (raises_stampOf hfile).seq fun _ => (ih hfiles).seq fun _ =>
      raises_pure _

/-- The files that are stamped are from the places where sources are looked for. -/
theorem subset_of_sources {files : List Path} (hrun : p.sources.on h = (.ok files, h')) :
    files ⊆ p.places h := by
  have htheme : ∀ {slides : List Path} {h₁ : Host}, slides ⊆ below h p.contentDir →
      (do return if ← Act.isFile p.theme then slides ++ [p.theme] else slides :
        Act (List Path)).on h₁ = (.ok files, h') → files ⊆ p.places h := by
    intro slides h₁ hslides hrest
    obtain ⟨isThere, _, -, hend⟩ := on_bind_eq_ok.mp hrest
    obtain ⟨rfl, -⟩ := on_pure_eq_ok.mp hend
    split
    · exact List.append_subset.mpr ⟨List.Subset.trans hslides (List.subset_append_left _ _),
        List.subset_append_right _ _⟩
    · exact List.Subset.trans hslides (List.subset_append_left _ _)
  unfold sources at hrun
  obtain ⟨isThere, h₁, hdirectory, hrest⟩ := on_bind_eq_ok.mp hrun
  cases (isQuery_isDirectory _).eq hdirectory
  cases isThere with
  | true =>
    rw [if_pos rfl, on_get_bind] at hrest
    obtain ⟨slides, h₂, hkeep, hrest⟩ := on_bind_eq_ok.mp hrest
    exact htheme (subset_of_keep hkeep) hrest
  | false =>
    obtain ⟨slides, h₂, hnone, hrest⟩ := on_bind_eq_ok.mp hrest
    obtain ⟨rfl, -⟩ := on_pure_eq_ok.mp hnone
    exact htheme (List.nil_subset _) hrest

theorem raises_sources (p : Preview) (h : Host) :
    Raises (· = h) (p.Unsigned h) p.sources := by
  have htheme : ∀ slides : List Path, Raises (· = h) (p.Unsigned h) (do
      return if ← Act.isFile p.theme then slides ++ [p.theme] else slides : Act (List Path)) :=
    fun slides => ((raises_probe_source (by simp [places])).seq fun _ =>
      raises_pure _).seq fun _ => raises_pure _
  have hdirectory : ∀ {q : Path}, q ∈ p.contentDir :: p.places h →
      Raises (· = h) (p.Unsigned h) (isDirectory q) :=
    fun hq => (raises_probe_source hq).seq fun _ => raises_pure _
  refine (hdirectory (by simp)).seq fun isThere => ?_
  split
  · refine raises_get_bind fun h₁ hh => (raises_keep fun q hq => ?_).seq fun _ => htheme _
    rw [hh] at hq
    exact (hdirectory (by simp [places, hq])).seq fun _ => raises_pure _
  · exact (raises_pure _).seq fun _ => htheme _

theorem raises_unsigned (p : Preview) (h : Host) :
    Raises (· = h) (p.Unsigned h) p.signature := by
  refine (raises_sources p h).bind fun files h₁ h₂ hh hsources => ?_
  rw [hh] at hsources
  exact (raises_stampsOf (subset_of_sources hsources)).seq fun _ => raises_pure _

/-- The failure is one for a cause that can end a request. -/
def IsEscape (p : Preview) (h : Host) (f : Failure) : Prop := ∃ c, f = .cause c ∧ p.Escapes h c

/-- The last name of the place of the next site has all characters of that of the finished one. -/
theorem hasNul_outputDir (hp : ofSettings root settings number? = .ok p)
    (hnul : p.stagingDir.hasNul = false) : p.outputDir.hasNul = false := by
  obtain ⟨-, -, -, hne, hstaging⟩ := ofSettings_eq_ok hp
  obtain ⟨k, name, hnames⟩ := (List.eq_nil_or_concat p.outputDir.names).resolve_left hne
  rw [List.concat_eq_append] at hnames
  have hname : p.outputDir.name = name := by simp [Path.name, hnames]
  rw [hstaging, Path.hasNul_child, Bool.or_eq_false_iff, hname, String.toList_append] at hnul
  rw [← Path.child_of_names hnames, Path.hasNul_child, hnul.1]
  simp only [List.contains_append, Bool.or_eq_false_iff] at hnul
  rw [hnul.2.1]
  rfl

theorem raises_prepare (hx : Expects I P)
    (hnul : p.stagingDir.parent.hasNul = true → P (.cause .nulInPath)) : Raises I P p.prepare := by
  refine (raises_isThere hx.os (hx.awaits _) _).bind fun isThere _ _ _ hseen => ?_
  have hrest : Raises I P (makeDirectories p.stagingDir.parent >>= fun _ => pure p.stagingDir) :=
    (raises_makeDirectories hx.toExpectsOs (hx.awaits _) hnul).seq fun _ => raises_pure _
  split
  · rename_i hthere
    -- A directory that is seen can be removed; only the making of one meets names that cannot be.
    rw [hthere] at hseen
    have hfree := hasNul_of_isThere hseen
    exact (raises_removeTree hx.toExpectsOs (hx.awaits _) (by simp [hfree])).seq fun _ => hrest
  · exact hrest

theorem raises_activate (hx : Expects I P) (hp : ofSettings root settings number? = .ok p)
    (hnul : p.stagingDir.hasNul = false) : Raises I P (p.activate p.stagingDir) := by
  have hoh := hasNul_outputDir hp hnul
  refine (raises_isThere hx.os (hx.awaits _) _).seq fun isThere => ?_
  have hrest : Raises I P (replace p.stagingDir p.outputDir) :=
    raises_replace hx.toExpectsOs (hx.awaits _) (by simp [hnul]) (by simp [hoh])
  split
  · exact (raises_removeTree hx.toExpectsOs (hx.awaits _) (by simp [hoh])).seq fun _ => hrest
  · exact hrest

/-- The command line with which the renderer is started for the preview. -/
def commandLine (p : Preview) (program : String) : List String :=
  Rendering.command program p.contentDir p.stagingDir p.theme

/-- Only causes of the file system wait, and a run of the program for the preview comes up with no
others. -/
structure IsOrdinary (p : Preview) (h : Host) : Prop where
  faults : ∀ f ∈ h.faults, f.cause.isOs = true
  program : ∀ program, Rendering.FailsPlainly h.program (p.commandLine program) p.root

/-- What a build within a rebuild may fail with. -/
def IsReportedOrEscape (p : Preview) (h : Host) (f : Failure) : Prop :=
  (reportOf f).isSome = true ∨ p.IsEscape h f

theorem isSome_reportOf_os {c : Cause} (hc : c.isOs = true) :
    (reportOf (.cause c)).isSome = true := by
  rw [reportOf, if_pos hc]
  rfl

/-- A call of the renderer fails for what is reported, unless a NUL is in the way. -/
theorem expectsProgram (p : Preview) (h : Host) :
    ExpectsProgram (fun g => p.IsOrdinary g ∧ Rendering.Unheard answer g) (p.IsReportedOrEscape h)
      answer p.root p.commandLine where
  kept hc hI := by
    refine ⟨⟨?_, ?_⟩, hI.2.of_course hc⟩
    · rw [hc.faults]
      exact hI.1.faults
    · rw [hc.program]
      exact hI.1.program
  waiting hI f hf := .inl (isSome_reportOf_os (hI.1.faults f hf))
  os _ := .inl rfl
  site _ := .inl rfl
  unheard hI := hI.2
  launch hI program c t hword hlaunch hos := by
    obtain hos' | ⟨rfl, hnul⟩ :=
      Rendering.isOs_or_nul_of_launch hword (hI.1.program program) hlaunch
    · cases hos.symm.trans hos'
    · exact .inr ⟨_, rfl, .nul hnul⟩

/-- A build for the preview calls the renderer with the command line of the preview. -/
theorem command_of_orderOf (hp : ofSettings root settings number? = .ok p) {o : Site.Order}
    (ho : Site.orderOf root settings (some p.stagingDir) = .ok o) : o.command = p.commandLine := by
  obtain ⟨_, c, th, _, _, -, hc, hth, -, rfl⟩ := exists_of_ofSettings hp
  simp only [Site.orderOf, Tree.bind_eq_ok, hc, hth] at ho
  obtain ⟨_, -, _, ⟨⟩, _, ⟨⟩, _, ⟨⟩, ⟨⟩⟩ := ho
  rfl

/-- The preview itself needs the texts of all settings but two. -/
theorem mem_of_unwritable (hp : ofSettings root settings number? = .ok p) {key : String}
    {e : NumberError} (hkey : key ∈ Settings.needed) (he : settings.Unwritable key e) :
    key ∈ [Settings.renderer, Settings.readme] := by
  obtain ⟨o, c, th, -, -, ho, hc, hth, -⟩ := exists_of_ofSettings hp
  have hnot : ∀ {known text : String}, settings.text known = .ok text → key ≠ known := by
    rintro known text htext rfl
    rw [he.text] at htext
    cases htext
  simp only [Settings.needed, List.mem_cons, List.not_mem_nil, or_false] at hkey ⊢
  rcases hkey with hkey | hkey | hkey | hkey | hkey
  · exact .inl hkey
  · exact absurd hkey (hnot hc)
  · exact absurd hkey (hnot hth)
  · exact absurd hkey (hnot ho)
  · exact .inr hkey

theorem raises_build (hp : ofSettings root p.settings number? = .ok p)
    (hkeys : p.settings.IsComplete) (h : Host) :
    Raises (fun g => p.IsOrdinary g ∧ Rendering.Unheard answer g) (p.IsReportedOrEscape h)
      (p.build answer) := by
  have hx : ExpectsProgram _ _ answer p.root p.commandLine := expectsProgram p h
  obtain ⟨hroot, -, -, -, hstaging⟩ := ofSettings_eq_ok hp
  refine (raises_prepare hx.toExpects fun hnul => .inr ⟨_, rfl, .nul ?_⟩).bind
    fun staging g₁ g₂ _ hprepare => ?_
  · have hnul' : p.stagingDir.hasNul = true := by
      rw [hstaging, Path.parent_child] at hnul
      rw [hstaging, Path.hasNul_child, hnul, Bool.true_or]
    simp [hnul']
  cases eq_of_prepare hprepare
  have hlines : ∀ o, Site.orderOf p.root p.settings (some p.stagingDir) = .ok o →
      ExpectsProgram (fun g => p.IsOrdinary g ∧ Rendering.Unheard answer g)
        (p.IsReportedOrEscape h) answer p.root o.command := by
    intro o ho
    rw [hroot] at ho
    rwa [command_of_orderOf hp ho]
  refine (Site.raises_build hlines hkeys (fun c ho => ?_) fun e he => ?_).bind
    fun result g₁ g₂ _ hbuild => raises_activate hx.toExpects hp ?_
  · obtain ⟨key, hneeded, e, rfl, he⟩ := Site.unwritable_of_orderOf hkeys ho
    exact .inr ⟨_, rfl, .unwritable key e (mem_of_unwritable hp hneeded he) he⟩
  · exact .inr ⟨_, rfl, .unwritable _ e (by simp) he⟩
  · obtain ⟨i, _, g₃, -, ⟨⟩, -, hfinish⟩ := Site.build_eq_ok.mp hbuild
    obtain ⟨index, g₄, hpromote, -⟩ := on_bind_eq_ok.mp hfinish
    exact Site.hasNul_of_promote hpromote

/-! ## A request -/

end Preview

end DeckPress
