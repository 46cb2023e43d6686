import DeckPress.Proofs.Host.Local
import DeckPress.Proofs.Preview.Keep

/-!
# What of a build is work on files

All of a build but the run of the program is work on files, and so is taking the signature.  What is
said of the rest of the host is preserved by a build if the run of the program preserves it.

* `Program.isLocal_find?`, `Site.isLocal_finish` — looking for the program, and finishing a site.
* `Preview.isLocal_prepare`, `Preview.isLocal_activate`, `Preview.isLocal_signature` — clearing the
  place of the next site, putting it in place, and the signature.
* `Preview.preserves_build_of_surroundings` — a build.
-/

namespace DeckPress

open Act Host

variable {P : Host → Prop} {answer : Act Unit}

theorem Program.isLocal_find? (name : String) (root? : Option Path) (preferLocal : Bool) :
    IsLocal (Program.find? name root? preferLocal) := by
  have hrest : ∀ local? : Option String, IsLocal (do
      let h ← get
      return if preferLocal then local? <|> onHost? h name else onHost? h name <|> local?) :=
    fun local? => isLocal_get_bind (fun h => isLocal_pure _) fun _ _ => rfl
  unfold Program.find?
  cases root? with
  | none => exact (isLocal_pure _).bind hrest
  | some root =>
    exact (isLocal_isThere _).bind fun _ => (isLocal_pure _).bind hrest

namespace Site

theorem isLocal_onFile {α : Type} {p : Path} {expected : Cause → Bool} {a : Act α}
    (ha : IsLocal a) : IsLocal (onFile p expected a) := by
  refine ha.attempt.bind fun r => ?_
  split
  · split
    · exact isLocal_throw _
    · exact isLocal_fail _
  · exact isLocal_resume _

theorem isLocal_promote (dir : Path) (readme : String) : IsLocal (promote dir readme) :=
  (isLocal_isFile _).bind fun _ => .check <| (isLocal_isFile _).bind fun _ =>
    .check <| (isLocal_onFile ((isLocal_unlink _).bind fun _ => isLocal_rename _ _)).bind fun _ =>
      isLocal_pure _

theorem isLocal_pages (dir : Path) : IsLocal (pages dir) :=
  (isLocal_onFile (isLocal_list dir)).bind fun _ => isLocal_keep isLocal_isFile _

theorem isLocal_relinkPages (rules : List Links.Rule) (ps : List Path) :
    IsLocal (relinkPages rules ps) := by
  induction ps with
  | nil => exact isLocal_pure _
  | cons p ps ih =>
    refine (isLocal_onFile ?_).bind fun _ => ih
    exact (isLocal_readPage p).bind fun _ => (isLocal_lift _).bind fun _ =>
      (isLocal_writePage p _).bind fun _ => isLocal_pure _

theorem isLocal_finish (dir : Path) (readme : String) : IsLocal (finish dir readme) :=
  (isLocal_promote dir readme).bind fun _ => (isLocal_pages dir).bind fun _ =>
    (isLocal_relinkPages _ _).bind fun _ => isLocal_pure _

end Site

namespace Preview

variable {p : Preview}

theorem isLocal_prepare (p : Preview) : IsLocal p.prepare := by
  refine (isLocal_isThere _).bind fun seen => ?_
  have hrest : IsLocal (makeDirectories p.stagingDir.parent >>= fun _ => pure p.stagingDir) :=
    (isLocal_makeDirectories _).bind fun _ => isLocal_pure _
  split
  · exact (isLocal_removeTree _).bind fun _ => hrest
  · exact hrest

theorem isLocal_activate (p : Preview) (staging : Path) : IsLocal (p.activate staging) := by
  refine (isLocal_isThere _).bind fun seen => ?_
  split
  · exact (isLocal_removeTree _).bind fun _ => isLocal_replace _ _
  · exact isLocal_replace _ _

theorem isLocal_stampOf (root file : Path) : IsLocal (stampOf root file) := by
  refine isLocal_get_bind (fun h => ?_) fun _ _ => rfl
  split
  · split
    · exact isLocal_pure _
    · exact isLocal_fail _
  · exact isLocal_pure _

theorem isLocal_stampsOf (root : Path) (files : List Path) : IsLocal (stampsOf root files) := by
  induction files with
  | nil => exact isLocal_pure _
  | cons file files ih =>
    exact (isLocal_stampOf root file).bind fun _ => ih.bind fun _ => isLocal_pure _

theorem isLocal_sources (p : Preview) : IsLocal p.sources := by
  have htheme : ∀ slides : List Path, IsLocal (do
      return if ← Act.isFile p.theme then slides ++ [p.theme] else slides : Act (List Path)) :=
    fun slides => (isLocal_isFile _).bind fun _ => isLocal_pure _
  refine (isLocal_isDirectory _).bind fun isThere => ?_
  split
  · refine isLocal_get_bind (fun h => IsLocal.bind ?_ htheme) fun _ _ => rfl
    exact isLocal_keep (fun q => (isLocal_isDirectory q).bind fun _ => isLocal_pure _) _
  · exact (isLocal_pure _).bind htheme

theorem isLocal_signature (p : Preview) : IsLocal p.signature :=
  (isLocal_sources p).bind fun files =>
    (isLocal_stampsOf p.root files).bind fun _ => isLocal_pure _

/-- What is said of a host besides its files is preserved by a build if the run of the program
preserves it. -/
theorem preserves_build_of_surroundings
    (hP : ∀ g g' : Host, g'.surroundings = g.surroundings → P g → P g')
    (hrender : ∀ name contentDir theme, Preserves P
      (Rendering.byProgram answer p.root name contentDir p.stagingDir theme)) :
    Preserves P (p.build answer) := by
  apply preserves_build_of
  · exact (isLocal_prepare p).preserves hP
  · exact Site.preserves_build_of hrender fun readme _ =>
      (Site.isLocal_finish _ readme).preserves hP
  · exact (isLocal_activate p _).preserves hP

end Preview

end DeckPress
