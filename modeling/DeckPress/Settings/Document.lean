import DeckPress.Host.Files
import DeckPress.Settings
import DeckPress.Yaml.Document

/-!
# The document of a project

A project may say how it is built in a document at its top.  `Settings.load` (`load_config`) reads
it and lays what it says over the defaults; a project without the document gets the defaults.
-/

namespace DeckPress

namespace Settings

/-- The settings of the project at `root`. -/
def load (root : Path) : Act Settings := do
  let file := root.child fileName
  if ← Act.isThere file then
    let source := Yaml.Source.ofBytes (← Act.openFile file).bytes
    return ofDocument (← Act.lift (Yaml.documentOf source))
  else
    return default

end Settings

end DeckPress
