import DeckPress.Settings

/-!
# Previews

A preview (`PreviewServer`) keeps a built site up to date while its sources are being edited.
`Preview` says where the sources and the sites are and does not change; `Preview.Progress` says how
far the preview has come.
-/

namespace DeckPress

/-- One source file as a preview remembers it. -/
structure SourceStamp where
  /-- The path from the project. -/
  path : String
  /-- The time of the last change, in nanoseconds. -/
  modified : Int
  /-- The size in bytes. -/
  size : Nat
deriving DecidableEq, Repr

/-- What the sources of a site look like: their stamps, in the order of the paths. -/
abbrev Signature := List SourceStamp

/-- A preview: where its sources and its sites are. -/
structure Preview where
  root : Path
  settings : Settings
  /-- The directory of the finished site. -/
  outputDir : Path
  contentDir : Path
  theme : Path
  /-- The directory in which the next site is made. -/
  stagingDir : Path
  /-- The port of the web server. -/
  portNumber : Int
deriving Repr

/-- How far a preview has come. -/
structure Preview.Progress where
  /-- Whether a rebuild is under way. -/
  isRebuilding : Bool := false
  /-- The time at which the last rebuild ended, in milliseconds. -/
  rebuiltAt : Int := 0
  /-- What the sources looked like when the last rebuild that succeeded began. -/
  signature? : Option Signature := none
  /-- Whether the sources are being watched. -/
  isWatching : Bool := false
deriving DecidableEq, Repr

end DeckPress
