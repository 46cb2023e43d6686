import DeckPress.Proofs.Host.Faults
import DeckPress.Proofs.Site.Build
import DeckPress.Proofs.Site.Finish
import DeckPress.Proofs.Site.Relocation

/-!
# Building a site, whatever its end

However a build of a site ends, it touches nothing outside the directory of the site but what the
renderer touches.  If it succeeds, failures that wait for other calls make no difference.

* `course_finish` — finishing a site; `course_promote`, `course_relinkPages` are its parts.
* `outlasts_finish` — a site can be finished as well where no failure waits;
  `finished_of_finish` — and so the effect is the same.
* `course_byProgram` — a renderer that is a program; `course_build` — the whole; `quiet_build` — the
  same at any place whatever; `after_build` is the reason for both.
-/

namespace DeckPress

open Act Host

variable {h h' h₁ : Host} {D : Loc → Prop} {dir root contentDir outputDir theme : Path}
  {readme name : String} {answer : Act Unit} {k : Loc} {t : Tree} {cwd : Loc}

/-- An entry of a directory lies below it. -/
theorem Tree.below_of_locate_child (hp : dir.IsPlain) (h0 : name ≠ "") (hup : name ≠ "..")
    (hl : t.locate cwd (dir.child name) = .ok k) : Tree.Below dir.names k := by
  obtain ⟨j, hj, -, -, -, rfl⟩ := (Tree.locate_child_eq_ok h0 hup).mp hl
  obtain ⟨-, -, rfl⟩ := (Tree.locate_eq_ok hp).mp hj
  exact List.prefix_append _ _

namespace Site

/-! ## Finishing -/

/-- An act on a file of a site leaves what the act leaves, however its failure is reported. -/
theorem host_onFile {α : Type} (p : Path) (expected : Cause → Bool) (a : Act α) (h : Host) :
    ((onFile p expected a).on h).2 = (a.on h).2 := by
  rw [onFile, on_attempt_bind]
  rcases a.on h with ⟨r, h₁⟩
  cases r with
  | ok x => rfl
  | error f =>
    cases f with
    | cause c =>
      simp only
      split
      · rfl
      · rfl
    | site e => rfl

theorem course_promote (hp : dir.IsPlain) (hslash : '/' ∉ readme.toList) (h : Host) :
    Course (Tree.Below dir.names) h ((promote dir readme).on h).2 := by
  have hread : dir / pageName readme = dir.child (pageName readme) :=
    Path.div_name dir (isProperName_pageName hslash)
  have hindex : dir / indexName = dir.child indexName := Path.div_name dir isProperName_indexName
  -- Both pages lie in the directory of the site.
  have hrbelow : ∀ {t : Tree} {k : Loc},
      t.locate h.cwd.names (dir.child (pageName readme)) = .ok k → Tree.Below dir.names k :=
    Tree.below_of_locate_child hp (pageName_ne (by decide) readme) (pageName_ne (by decide) readme)
  have hibelow : ∀ {t : Tree} {k : Loc}, t.locate h.cwd.names (dir.child indexName) = .ok k →
      Tree.Below dir.names k :=
    Tree.below_of_locate_child hp (by decide) (by decide)
  unfold promote
  simp only [hread, hindex]
  refine course_bind ((isQuery_isFile _).course _ h) fun _ h₁ hq => ?_
  cases (isQuery_isFile _).eq hq
  refine course_check (course_bind ((isQuery_isFile _).course _ h) fun _ h₁ hq => ?_)
  cases (isQuery_isFile _).eq hq
  refine course_check (course_bind ?_ fun _ h₁ _ => (isQuery_pure _).course _ h₁)
  rw [host_onFile]
  refine course_bind (course_unlink fun k hk => hibelow hk) fun _ h₁ hunlink => ?_
  have hcwd : h₁.cwd = h.cwd := by
    have := (course_unlink (D := Tree.Below dir.names) (h := h) fun k hk => hibelow hk).cwd
    rwa [hunlink] at this
  refine course_rename fun t ht => Tree.sameBut_of_rename ht ?_ ?_
  · exact fun k hk q hq => (hrbelow (hcwd ▸ hk)).trans hq
  · exact fun k hk q hq => (hibelow (hcwd ▸ hk)).trans hq

theorem isQuery_onFile {α : Type} {p : Path} {expected : Cause → Bool} {a : Act α}
    (ha : IsQuery a) : IsQuery (onFile p expected a) :=
  fun h => (host_onFile p expected a h).trans (ha h)

theorem isQuery_pages (dir : Path) : IsQuery (pages dir) :=
  (isQuery_onFile (isQuery_list dir)).bind fun _ => isQuery_keep isQuery_isFile _

/-- The pages that are listed are entries of the directory with the name of a page. -/
theorem child_of_mem_pages {ps : List Path} (hrun : (pages dir).on h = (.ok ps, h')) {p : Path}
    (hp : p ∈ ps) : ∃ name, isPageName name = true ∧ p = dir.child name := by
  unfold pages at hrun
  obtain ⟨names, h₁, -, hkeep⟩ := on_bind_eq_ok.mp hrun
  obtain ⟨name, hname, rfl⟩ := List.mem_map.mp (subset_of_keep hkeep hp)
  exact ⟨name, (List.mem_filter.mp hname).2, rfl⟩

theorem course_relinkPage (hp : dir.IsPlain) {rules : List Links.Rule}
    (hname : isPageName name = true) (h : Host) :
    Course (Tree.Below dir.names) h ((relinkPage rules (dir.child name)).on h).2 := by
  obtain ⟨h0, hup⟩ := names_of_isPageName hname
  rw [relinkPage, host_onFile]
  refine course_bind ((isQuery_readPage _).course _ h) fun _ h₁ hq => ?_
  cases (isQuery_readPage _).eq hq
  refine course_bind ((isQuery_lift _).course _ h) fun text h₁ hq => ?_
  cases (isQuery_lift _).eq hq
  exact course_bind (course_writePage fun k hk => Tree.below_of_locate_child hp h0 hup hk)
    fun _ h₁ _ => (isQuery_pure _).course _ h₁

theorem course_relinkPages (hp : dir.IsPlain) {rules : List Links.Rule} {ps : List Path}
    (hps : ∀ p ∈ ps, ∃ name, isPageName name = true ∧ p = dir.child name) (h : Host) :
    Course (Tree.Below dir.names) h ((relinkPages rules ps).on h).2 := by
  induction ps generalizing h with
  | nil => exact .refl _ h
  | cons p ps ih =>
    obtain ⟨⟨name, hname, rfl⟩, hrest⟩ := List.forall_mem_cons.mp hps
    exact course_bind (course_relinkPage hp hname h) fun _ h₁ _ => ih hrest h₁

/-- However the finishing of a site ends, it touches nothing outside the directory of the site. -/
theorem course_finish (hp : dir.IsPlain) (hslash : '/' ∉ readme.toList) (h : Host) :
    Course (Tree.Below dir.names) h ((finish dir readme).on h).2 := by
  refine course_bind (course_promote hp hslash h) fun _ h₁ _ => ?_
  refine course_bind ((isQuery_pages dir).course _ h₁) fun ps h₂ hpages => ?_
  cases (isQuery_pages dir).eq hpages
  exact course_bind (course_relinkPages hp (fun p hp => child_of_mem_pages hpages hp) h₁)
    fun _ h₂ _ => (isQuery_pure _).course _ h₂

theorem isQuiet_onFile {α : Type} {p : Path} {expected : Cause → Bool} {a : Act α}
    (ha : IsQuiet a) : IsQuiet (onFile p expected a) := fun h => by
  rw [host_onFile]
  exact ha h

theorem isQuiet_promote (dir : Path) (readme : String) : IsQuiet (promote dir readme) :=
  (isQuery_isFile _).isQuiet.bind fun _ => .check <| (isQuery_isFile _).isQuiet.bind fun _ =>
    .check <| (isQuiet_onFile ((isQuiet_unlink _).bind fun _ => isQuiet_rename _ _)).bind fun _ =>
      (isQuery_pure _).isQuiet

theorem isQuiet_relinkPage (rules : List Links.Rule) (page : Path) :
    IsQuiet (relinkPage rules page) :=
  isQuiet_onFile <| (isQuery_readPage page).isQuiet.bind fun _ => (isQuery_lift _).isQuiet.bind
    fun _ => (isQuiet_writePage page _).bind fun _ => (isQuery_pure _).isQuiet

theorem isQuiet_relinkPages (rules : List Links.Rule) (ps : List Path) :
    IsQuiet (relinkPages rules ps) := by
  induction ps with
  | nil => exact (isQuery_pure _).isQuiet
  | cons p ps ih => exact (isQuiet_relinkPage rules p).bind fun _ => ih

theorem isQuiet_finish (dir : Path) (readme : String) : IsQuiet (finish dir readme) :=
  (isQuiet_promote dir readme).bind fun _ => (isQuery_pages dir).isQuiet.bind fun _ =>
    (isQuiet_relinkPages _ _).bind fun _ => (isQuery_pure _).isQuiet

/-! ## Finishing although failures wait -/

/-- An act on a file of a site succeeds if the act does. -/
theorem outlasts_onFile {α : Type} {p : Path} {expected : Cause → Bool} {a : Act α}
    (ha : Outlasts a) : Outlasts (onFile p expected a) := by
  intro h x h' hsees hrun
  rw [on_onFile_eq_ok] at hrun ⊢
  exact ha h x h' hsees hrun

theorem outlasts_promote (dir : Path) (readme : String) : Outlasts (promote dir readme) :=
  (outlasts_isFile _).bind fun _ => .check <| (outlasts_isFile _).bind fun _ => .check <|
    (outlasts_onFile ((outlasts_unlink _).bind fun _ => outlasts_rename _ _)).bind fun _ =>
      outlasts_pure _

theorem outlasts_pages (dir : Path) : Outlasts (pages dir) :=
  (outlasts_onFile (outlasts_list dir)).bind fun _ => outlasts_keep outlasts_isFile _

theorem outlasts_relinkPage (rules : List Links.Rule) (page : Path) :
    Outlasts (relinkPage rules page) :=
  outlasts_onFile <| (outlasts_readPage page).bind fun _ => (outlasts_lift _).bind fun _ =>
    (outlasts_writePage page _).bind fun _ => outlasts_pure _

theorem outlasts_relinkPages (rules : List Links.Rule) (ps : List Path) :
    Outlasts (relinkPages rules ps) := by
  induction ps with
  | nil => exact outlasts_pure _
  | cons p ps ih => exact (outlasts_relinkPage rules p).bind fun _ => ih

/-- A site that can be finished although failures wait can be finished as well where none waits. -/
theorem outlasts_finish (dir : Path) (readme : String) : Outlasts (finish dir readme) :=
  (outlasts_promote dir readme).bind fun _ => (outlasts_pages dir).bind fun _ =>
    (outlasts_relinkPages _ _).bind fun _ => outlasts_pure _

/-- A site that was finished is in a directory that can be worked on. -/
theorem place_of_finish (hsees : h.SeesAll) (hp : dir.IsPlain) (hslash : '/' ∉ readme.toList)
    {r : Result} (hrun : (finish dir readme).on h = (.ok r, h')) :
    dir.Fits ∧ dir.hasNul = false ∧ h.tree.Leads dir.names ∧
      h.tree.get? dir.names = some .directory := by
  obtain ⟨hspared, -⟩ := outlasts_finish dir readme h r h' hsees hrun
  unfold finish at hspared
  obtain ⟨index, h₁, hpromote, -⟩ := on_bind_eq_ok.mp hspared
  obtain ⟨-, -, k, fr, fi, -, hi, -⟩ := (promote_eq_ok (h := h.spared) rfl hslash).mp hpromote
  obtain ⟨hnul, k', hk, hdir, -⟩ := (reaches_child_iff (by decide) (by decide)).mp hi
  obtain ⟨hfits, hleads, rfl⟩ := (Tree.locate_eq_ok hp).mp hk
  rw [Path.hasNul_child, Bool.or_eq_false_iff] at hnul
  exact ⟨hfits, hnul.1, hleads, hdir⟩

/-- The effect of finishing a site is the same although failures wait. -/
theorem finished_of_finish (hsees : h.SeesAll) (hw : h.tree.WellFormed) (hp : dir.IsPlain)
    (hslash : '/' ∉ readme.toList) {r : Result} (hrun : (finish dir readme).on h = (.ok r, h')) :
    ∃ names, Finished readme dir.names h.tree h'.tree names := by
  obtain ⟨hspared, -⟩ := outlasts_finish dir readme h r h' hsees hrun
  obtain ⟨hne, k, fr, fi, h₁, hk, hfr, hfi, hf₁, hk₁, ht₁, -, hrelink⟩ :=
    finish_stages (h := h.spared) rfl hw hslash hspared
  obtain ⟨-, -, rfl⟩ := (Tree.locate_eq_ok hp).mp hk
  exact ⟨_, (finished_of_relinkPages hf₁ hw.toRooted hne hk₁ hfr hfi ht₁ hrelink).2⟩

/-- The directory of the site and the way to it stay as they are. -/
theorem Finished.get?_above {u : Tree} {names : List String} (hf : Finished readme k t u names)
    {q : Loc} (hq : q <+: k) : u.get? q = t.get? q := by
  refine hf.kept q fun name he => ?_
  have hle := hq.length_le
  rw [he, List.length_append] at hle
  exact absurd hle (by simp)

end Site

/-! ## Rendering -/

theorem Program.isQuery_find? (name : String) (root? : Option Path) (preferLocal : Bool) :
    IsQuery (Program.find? name root? preferLocal) := by
  unfold Program.find?
  cases root? with
  | none => exact (isQuery_pure _).bind fun _ => isQuery_get_bind fun h => isQuery_pure _
  | some root =>
    exact (isQuery_isThere _).bind fun _ => (isQuery_pure _).bind fun _ =>
      isQuery_get_bind fun h => isQuery_pure _

namespace Rendering

theorem Unheard.of_course (ha : Unheard answer h) (hc : Course D h h₁) : Unheard answer h₁ := by
  rw [Unheard, hc.program, hc.progress]
  exact ha

theorem course_ran {command : List String} (ht : Tree.SameBut D h.tree t) :
    Course D h (h.ran command dir t) :=
  ⟨rfl, rfl, rfl, rfl, rfl, ⟨[_], rfl, by simp [Event.IsStart]⟩, .commit ht⟩

/-- However a run of the renderer ends, it touches what the program touches. -/
theorem course_run {command : List String} {directory : Path} (ha : Unheard answer h)
    (hD : Tree.SameBut D h.tree (h.program.run command directory.names h.tree).2) :
    Course D h ((run answer command directory).on h).2 := by
  have hlaunch := of_launch (P := Tree.SameBut D h.tree) (.refl D h.tree) hD
  cases hrun : launch h command directory with
  | mk result t =>
    rw [hrun] at hlaunch
    cases result with
    | ok status =>
      rw [on_run_of_ok ha hrun]
      exact course_ran hlaunch
    | error c =>
      rw [on_run_of_error hrun]
      exact ⟨rfl, rfl, rfl, rfl, rfl, ⟨[_], rfl, by simp [Event.IsStart]⟩, .commit hlaunch⟩

theorem course_byProgram (ha : Unheard answer h)
    (hD : ∀ command : List String, command[3]? = some outputDir.toString →
      Tree.SameBut D h.tree (h.program.run command root.names h.tree).2) :
    Course D h ((byProgram answer root name contentDir outputDir theme).on h).2 := by
  refine course_bind ((Program.isQuery_find? _ _ _).course D h) fun found h₁ hfind => ?_
  cases (Program.isQuery_find? _ _ _).eq hfind
  cases found with
  | none => exact .refl D h
  | some program =>
    refine course_bind (course_run ha (hD _ rfl)) fun result h₁ _ => ?_
    -- What the run came to is only reported.
    cases result with
    | error c =>
      simp only
      split
      · exact .refl D h₁
      · exact .refl D h₁
    | ok status =>
      simp only
      split
      · exact .refl D h₁
      · exact .refl D h₁

end Rendering

namespace Site

/-- What holds before a build of a site at a given place, and still after the renderer and after the
finishing of the site, holds after the build. -/
theorem after_build {P : Host → Prop} {settings : Settings} (h0 : P h)
    (hrender : ∀ name contentDir theme,
      P ((Rendering.byProgram answer root name contentDir outputDir theme).on h).2)
    (hfinish : ∀ readme g, settings.text Settings.readme = .ok readme → P g →
      P ((finish outputDir readme).on g).2) :
    P ((build answer root none (some settings) (some outputDir)).on h).2 := by
  -- The texts of the settings are read on the way and change nothing.
  have hread : ∀ {key : String} {rest : String → Act Result},
      (∀ text, settings.text key = .ok text → P ((rest text).on h).2) →
        P ((Act.lift (settings.text key) >>= rest).on h).2 := by
    intro key rest hrest
    refine after_bind ((isQuery_lift _ h).symm ▸ h0) fun text h₁ hlift _ => ?_
    obtain ⟨htext, rfl⟩ := on_lift_eq_ok.mp hlift
    exact hrest text htext
  refine after_bind (a := pure settings) h0 fun _ h₁ hpure _ => ?_
  cases hpure
  refine hread fun renderer _ => after_bind (a := pure _) h0 fun render h₁ hpure _ => ?_
  cases hpure
  refine hread fun contentDir _ => hread fun theme _ =>
    after_bind (a := pure outputDir) h0 fun _ h₁ hpure _ => ?_
  cases hpure
  refine after_bind (hrender _ _ _) fun _ h₁ _ h1 =>
    after_bind ((isQuery_lift _ h₁).symm ▸ h1) fun readme h₂ hlift h2 => ?_
  obtain ⟨hreadme, rfl⟩ := on_lift_eq_ok.mp hlift
  exact hfinish readme _ hreadme h2

/-- However a build of a site at a given place ends, it touches what the renderer and the finishing
of the site touch. -/
theorem course_build_of {settings : Settings} (ha : Rendering.Unheard answer h)
    (hfinish : ∀ readme g, settings.text Settings.readme = .ok readme →
      Course D g ((finish outputDir readme).on g).2)
    (hD : ∀ command : List String, command[3]? = some outputDir.toString →
      Tree.SameBut D h.tree (h.program.run command root.names h.tree).2) :
    Course D h ((build answer root none (some settings) (some outputDir)).on h).2 :=
  after_build (.refl D h) (fun _ _ _ => Rendering.course_byProgram ha hD)
    fun readme g hreadme hc => hc.trans (hfinish readme g hreadme)

/-- However a build of a site at a given place ends, it touches nothing outside the place but what
the renderer touches. -/
theorem course_build {settings : Settings} (hp : outputDir.IsPlain)
    (hslash : ∀ readme, settings.text Settings.readme = .ok readme → '/' ∉ readme.toList)
    (ha : Rendering.Unheard answer h) (hDbelow : ∀ q, Tree.Below outputDir.names q → D q)
    (hD : ∀ command : List String, command[3]? = some outputDir.toString →
      Tree.SameBut D h.tree (h.program.run command root.names h.tree).2) :
    Course D h ((build answer root none (some settings) (some outputDir)).on h).2 :=
  course_build_of ha (fun readme g hreadme => (course_finish hp (hslash readme hreadme) g).mono
    hDbelow) hD

/-- Whatever it is called with and however it ends, a build of a site changes files only. -/
theorem quiet_build {settings : Settings} (ha : Rendering.Unheard answer h) :
    Course (fun _ => True) h
      ((build answer root none (some settings) (some outputDir)).on h).2 :=
  course_build_of ha (fun readme g _ => isQuiet_finish outputDir readme g)
    fun _ _ => sameBut_true _ _

end Site

end DeckPress
