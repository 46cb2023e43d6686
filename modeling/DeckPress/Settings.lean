import DeckPress.Failure
import DeckPress.Value.Text

/-!
# Settings

The settings of a project are a mapping: the defaults, and over them what the project's document
says.  A setting that is needed as a path or a name is turned into a text, whatever its value.

* `Settings.default` (`DEFAULT_CONFIG`) has a value for every setting that a build needs.
* `Settings.ofDocument` puts a document over the defaults, if it is a mapping.
* `Settings.text` looks a setting up.
-/

namespace DeckPress

/-- The settings of a project, in order. -/
structure Settings where
  entries : List (Value × Value)
  /-- The collections that the values refer to. -/
  collections : Collections := #[]
deriving Repr, Inhabited

namespace Settings

/-- The name of the document that holds a project's settings. -/
def fileName : String := "slidesite.yaml"

/-- The setting that names the renderer. -/
def renderer : String := "renderer"

/-- The setting for the directory of the slides. -/
def contentDir : String := "content_dir"

/-- The setting for the style sheet. -/
def theme : String := "theme"

/-- The setting for the directory of the finished site. -/
def outputDir : String := "output_dir"

/-- The setting for the document whose page becomes the index. -/
def readme : String := "readme"

/-- The setting for the port of the preview. -/
def port : String := "port"

/-- The port of a preview that names none. -/
def defaultPortNumber : Int := 4000

/-- The settings of a project that says nothing. -/
def default : Settings where
  entries := [
    (.str renderer, .str "reveal-md"),
    (.str contentDir, .str "markdown/workshop/"),
    (.str theme, .str "themes/simplabs.css"),
    (.str outputDir, .str "_static"),
    (.str readme, .str "README"),
    (.str port, .int defaultPortNumber)]

/-- The value of a setting. -/
def get? (s : Settings) (key : String) : Option Value := Value.lookup? s.entries key

/-- The settings with one of them changed. -/
def set (s : Settings) (key : String) (v : Value) : Settings :=
  { s with entries := Value.insert s.entries (.str key) v }

/-- The settings that a document makes: the defaults with what it says over them.  A document that
is no mapping says nothing. -/
def ofDocument (d : Document) : Settings :=
  match d.entries? with
  | some entries => ⟨Value.insertMany default.entries entries, d.collections⟩
  | none => default

/-- The value of a setting as a text; the setting has to be there. -/
def text (s : Settings) (key : String) : Except Cause String :=
  match s.get? key with
  | some v => (v.text s.collections).mapError .number
  | none => .error (.missing key)

end Settings

end DeckPress
