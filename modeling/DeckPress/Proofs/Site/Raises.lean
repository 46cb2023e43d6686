import DeckPress.Proofs.Host.Raises
import DeckPress.Proofs.Site.Course
import DeckPress.Proofs.Site.Rendered

/-!
# What a build fails with

Finishing a site fails for causes of the file system only, apart from failures of the build: every
page is looked for before it is worked on, and what can be seen has no path that no name can have.
What else a build may fail for comes from the settings and from the program.

* `raises_onFile` — an act on a file of a site; the expected causes become failures of the build.
* `raises_finish` — finishing a site; `raises_promote`, `raises_pages` and `raises_relinkPages` are
  its parts.
* `raises_byProgram` — a renderer that is a program.
* `raises_build` — a build with settings that are complete.
-/

namespace DeckPress

open Act Host

variable {α : Type} {I : Host → Prop} {P : Failure → Prop}
  {dir root contentDir outputDir theme : Path}
  {name readme : String} {answer : Act Unit} {h h' : Host}

namespace Site

/-- Whatever `P` is true of, and the expected causes besides. -/
def OrExpected (P : Failure → Prop) (expected : Cause → Bool) (f : Failure) : Prop :=
  P f ∨ ∃ c, f = .cause c ∧ expected c = true

/-- The expected causes become failures of the build. -/
theorem raises_onFile {p : Path} {expected : Cause → Bool} {a : Act α} (hsite : ∀ e, P (.site e))
    (ha : Raises I (OrExpected P expected) a) : Raises I P (onFile p expected a) := by
  intro h hI
  obtain ⟨hI₁, hfail⟩ := ha h hI
  refine ⟨(host_onFile p expected a h).symm ▸ hI₁, fun f hf => ?_⟩
  rw [onFile, on_attempt_bind] at hf
  cases hrun : (a.on h).1 with
  | ok x =>
    rw [hrun] at hf
    cases hf
  | error f' =>
    rw [hrun] at hf
    cases f' with
    | site e =>
      cases hf
      exact hsite e
    | cause c =>
      dsimp only at hf
      split_ifs at hf with hexpected
      · cases hf
        exact hsite _
      · cases hf
        refine (hfail _ hrun).resolve_right ?_
        rintro ⟨_, ⟨⟩, hexpected'⟩
        exact hexpected hexpected'

theorem raises_promote (hx : Expects I P) (dir : Path) (readme : String) :
    Raises I P (promote dir readme) := by
  have hx' : Expects I (OrExpected P Cause.isOs) := hx.mono fun _ => .inl
  refine (raises_isFile hx.os (hx.awaits _) _).bind fun isThere _ _ _ hreadme =>
    .check (hx.site _) fun hthere => ?_
  rw [hthere] at hreadme
  have hnul := hasNul_of_isFile hreadme
  refine (raises_isFile hx.os (hx.awaits _) _).bind fun isThere _ _ _ hindex =>
    .check (hx.site _) fun hthere => ?_
  rw [hthere] at hindex
  have hnul' := hasNul_of_isFile hindex
  -- Both pages are seen by now, and what is removed and moved are these two.
  refine (raises_onFile hx.site ?_).seq fun _ => raises_pure _
  exact (raises_unlink hx'.toExpectsOs (hx'.awaits _) (by simp [hnul'])).seq fun _ =>
    raises_rename hx'.toExpectsOs (hx'.awaits _) (by simp [hnul]) (by simp [hnul'])

/-- A promotion that succeeds has seen the index. -/
theorem hasNul_of_promote {index : Path} (hrun : (promote dir readme).on h = (.ok index, h')) :
    dir.hasNul = false := by
  unfold promote at hrun
  obtain ⟨_, _, -, hrun⟩ := on_bind_eq_ok.mp hrun
  obtain ⟨-, hrun⟩ := on_check_eq_ok.mp hrun
  obtain ⟨_, _, hindex, hrun⟩ := on_bind_eq_ok.mp hrun
  obtain ⟨rfl, -⟩ := on_check_eq_ok.mp hrun
  have hnul := hasNul_of_isFile hindex
  rw [Path.div_name dir isProperName_indexName, Path.hasNul_child, Bool.or_eq_false_iff] at hnul
  exact hnul.1

theorem raises_pages (hx : Expects I P) (hnul : dir.hasNul = false) : Raises I P (pages dir) := by
  have hx' : Expects I (OrExpected P Cause.isOs) := hx.mono fun _ => .inl
  exact (raises_onFile hx.site (raises_list hx'.os (hx'.awaits _) (by simp [hnul]))).seq fun _ =>
    raises_keep fun _ _ => raises_isFile hx.os (hx.awaits _) _

/-- The pages that are listed have been seen. -/
theorem hasNul_of_mem_pages {ps : List Path} (hrun : (pages dir).on h = (.ok ps, h')) :
    ∀ p ∈ ps, p.hasNul = false := by
  unfold pages at hrun
  obtain ⟨names, h₁, -, hkeep⟩ := on_bind_eq_ok.mp hrun
  obtain ⟨rfl, -, rfl⟩ := on_keep_isFile_eq_ok.mp hkeep
  exact fun p hp => hasNul_of_seesFile (List.mem_filter.mp hp).2

theorem raises_relinkPage (hx : Expects I P) (rules : List Links.Rule) {page : Path}
    (hnul : page.hasNul = false) : Raises I P (relinkPage rules page) := by
  have hx' : Expects I (OrExpected P isPageCause) := hx.mono fun _ => .inl
  refine raises_onFile hx.site ?_
  refine (raises_readPage hx'.os (hx'.awaits _) (by simp [hnul])).seq fun bytes => ?_
  refine (raises_lift fun c hc => .inr ⟨c, rfl, ?_⟩).seq fun _ =>
    (raises_writePage hx'.toExpectsOs (hx'.awaits _) (by simp [hnul]) _).seq fun _ => raises_pure _
  cases htext : Utf8.decode bytes with
  | ok text =>
    rw [htext] at hc
    cases hc
  | error e =>
    rw [htext] at hc
    cases hc
    rfl

theorem raises_relinkPages (hx : Expects I P) (rules : List Links.Rule) {ps : List Path}
    (hps : ∀ p ∈ ps, p.hasNul = false) : Raises I P (relinkPages rules ps) := by
  induction ps with
  | nil => exact raises_pure _
  | cons p ps ih =>
    obtain ⟨hp, hps⟩ := List.forall_mem_cons.mp hps
    exact (raises_relinkPage hx rules hp).seq fun _ => ih hps

theorem raises_finish (hx : Expects I P) (dir : Path) (readme : String) :
    Raises I P (finish dir readme) :=
  (raises_promote hx dir readme).bind fun _ _ _ _ hpromote =>
    (raises_pages hx (hasNul_of_promote hpromote)).bind fun _ _ _ _ hpages =>
      (raises_relinkPages hx _ (hasNul_of_mem_pages hpages)).seq fun _ => raises_pure _

end Site

/-! ## Rendering -/

/-- On the hosts that `I` is true of, the failures of calls of the renderer with a command line are
expected unless they are reported, and what the program asks for while it runs comes to nothing. -/
structure Host.ExpectsProgram (I : Host → Prop) (P : Failure → Prop) (answer : Act Unit)
    (root : Path) (command : String → List String) : Prop extends Expects I P where
  unheard : ∀ {h}, I h → Rendering.Unheard answer h
  launch : ∀ {h}, I h → ∀ program c t, Rendering.isWord program = true →
    Rendering.launch h (command program) root = (.error c, t) → c.isOs = false → P (.cause c)

theorem raises_byProgram (hx : ExpectsProgram I P answer root fun program =>
      Rendering.command program contentDir outputDir theme) :
    Raises I P (Rendering.byProgram answer root name contentDir outputDir theme) := by
  intro h hI
  have hcourse : Course (fun _ => True) h
      ((Rendering.byProgram answer root name contentDir outputDir theme).on h).2 :=
    Rendering.course_byProgram (hx.unheard hI) fun _ _ => sameBut_true _ _
  refine ⟨hx.kept hcourse hI, fun f hc => ?_⟩
  cases hfound : Program.installed? h root name with
  | error c =>
    rw [Rendering.on_byProgram_unsearchable hfound] at hc
    cases hc
    cases Program.unseen_of_installed? hfound with
    | waiting hwaits => exact (hx.awaits .stat).of_waiting? hI hwaits
    | tooLong => exact hx.os _
  | ok program? =>
    cases program? with
    | none =>
      rw [Rendering.on_byProgram_missing hfound] at hc
      cases hc
      exact hx.site _
    | some program =>
      rw [Rendering.on_byProgram (hx.unheard hI) hfound rfl] at hc
      cases hrun : Rendering.launch h (Rendering.command program contentDir outputDir theme) root
        with
      | mk result t =>
        rw [hrun] at hc
        cases result with
        | error c' =>
          dsimp only at hc
          cases hos : c'.isOs with
          | true =>
            rw [hos] at hc
            cases hc
            exact hx.site _
          | false =>
            rw [hos] at hc
            cases hc
            exact hx.launch hI _ _ _ (Program.isWord_of_installed? hfound) hrun hos
        | ok status =>
          dsimp only at hc
          split_ifs at hc
          cases hc
          exact hx.site _

namespace Site

/-- A build with settings that are complete fails for what finishing a site and running the program
may fail for, or because a setting has no text. -/
theorem raises_build {settings : Settings} {outputDir? : Option Path}
    (hx : ∀ o, orderOf root settings outputDir? = .ok o →
      ExpectsProgram I P answer root o.command) (hkeys : settings.IsComplete)
    (htold : ∀ c, orderOf root settings outputDir? = .error c → P (.cause c))
    (hreadme : ∀ e, settings.Unwritable Settings.readme e → P (.cause (.number e))) :
    Raises I P (build answer root none (some settings) outputDir?) := by
  intro h hI
  rw [on_build_of_order]
  cases ho : orderOf root settings outputDir? with
  | error c =>
    refine ⟨hI, fun f hf => ?_⟩
    cases hf
    exact htold c ho
  | ok o =>
    refine ((raises_byProgram (hx o ho)).seq fun _ => (raises_lift fun c hc => ?_).seq
      fun readme => raises_finish (hx o ho).toExpects o.outputDir readme) h hI
    obtain ⟨e, rfl, he⟩ := Settings.unwritable_of_text (hkeys _ (by decide)) hc
    exact hreadme e he

end Site

end DeckPress
