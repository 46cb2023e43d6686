import DeckPress.Host.Files
import DeckPress.Settings.Document

/-!
# The sources of a preview

* `Preview.ofProject` finds out where the sources and the sites of a project are, as a new
  `PreviewServer` does.
* `Preview.signature` (`_compute_signature`) is what the sources look like now: every file below the
  directory of the slides, and the style sheet, each with its time and size.
-/

namespace DeckPress.Preview

/-- What the name of the directory of the next site adds to that of the finished one. -/
def stagingSuffix : String := ".staging"

/-- The port of a preview: the given one, or else the one that the settings name.  Zero is not a
port and counts as none. -/
def portNumberOf (settings : Settings) (number? : Option Int) : Except NumberError Int :=
  match number?.filter (· ≠ 0) with
  | some number => .ok number
  | none =>
    ((settings.get? Settings.port).getD (.int Settings.defaultPortNumber)).toWhole
      settings.collections

/-- The preview of the project at `root` that settings describe. -/
def ofSettings (root : Path) (settings : Settings) (number? : Option Int) :
    Except Cause Preview := do
  let outputDir := root / (← settings.text Settings.outputDir)
  let contentDir := root / (← settings.text Settings.contentDir)
  let theme := root / (← settings.text Settings.theme)
  match outputDir.withName? (outputDir.name ++ stagingSuffix) with
  | none => throw (.nameless outputDir)
  | some stagingDir =>
    let portNumber ← (portNumberOf settings number?).mapError .number
    return { root, settings, outputDir, contentDir, theme, stagingDir, portNumber }

/-- The preview of the project at `root`, with the settings that its document has now. -/
def ofProject (root : Path) (number? : Option Int) : Act Preview := do
  Act.lift (ofSettings root (← Settings.load root) number?)

/-- Everything below a directory, in order. -/
def below (h : Host) (directory : Path) : List Path :=
  match h.locate directory with
  | .error _ => []
  | .ok k =>
    (h.tree.branch k).filterMap fun (names, _) =>
      if names = [] then none else some ⟨directory.root, directory.names ++ names⟩

/-- The stamp of a source file, or `none` if it cannot be seen, for whatever cause.  It names the
file from the project. -/
def stampOf (root file : Path) : Act (Option SourceStamp) := do
  match (← get).look file with
  | .ok (some (.file f)) =>
    match file.relativeTo? root with
    | some rest => return some ⟨rest.toString, f.modified, f.bytes.length⟩
    | none => Act.fail (.notBelow file root)
  | _ => return none

/-- The stamps of the files that can be seen, in order. -/
def stampsOf (root : Path) : List Path → Act Signature
  | [] => pure []
  | file :: rest => do
    let stamp? ← stampOf root file
    let stamps ← stampsOf root rest
    return match stamp? with
      | some stamp => stamp :: stamps
      | none => stamps

/-- The files that a preview is made from: those below the directory of the slides, and the style
sheet. -/
def sources (p : Preview) : Act (List Path) := do
  let slides ← if ← Act.isDirectory p.contentDir then
      Act.keep (fun q => return !(← Act.isDirectory q)) (below (← get) p.contentDir)
    else pure []
  return if ← Act.isFile p.theme then slides ++ [p.theme] else slides

/-- What the sources look like now, or `none` if there are no sources. -/
def signature (p : Preview) : Act (Option Signature) := do
  let stamps ← stampsOf p.root (← p.sources)
  return if stamps.isEmpty then none else some stamps

end DeckPress.Preview
