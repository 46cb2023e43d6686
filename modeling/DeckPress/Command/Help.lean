import DeckPress.Command.Options

/-!
# The commands and their help

`Description.program`, `Description.build` and `Description.serve` describe the program and its two
commands; `Description.page` is the help that is shown for one.
-/

namespace DeckPress.Command

/-- What is known about the program or one of its commands. -/
structure Description where
  /-- The words that call it. -/
  call : String
  /-- What may follow them. -/
  pattern : String
  purpose : String
  options : List KnownOption
  /-- The commands, with what they do. -/
  commands : List (String × String) := []
deriving DecidableEq, Repr

namespace Description

/-- The option for help. -/
def helpOption : KnownOption := ⟨"--help", none, "Show this message and exit."⟩

/-- The option for the version. -/
def versionOption : KnownOption := ⟨"--version", none, "Show the version and exit."⟩

/-- The option for the directory of the slides. -/
def contentDirOption : KnownOption :=
  ⟨"--content-dir", some "TEXT", "Markdown directory (overrides slidesite.yaml)"⟩

/-- The option for the style sheet. -/
def themeOption : KnownOption :=
  ⟨"--theme", some "TEXT", "Theme stylesheet (overrides slidesite.yaml)"⟩

/-- The option for the directory of the finished site. -/
def outputDirOption : KnownOption :=
  ⟨"--output-dir", some "TEXT", "Output directory (overrides slidesite.yaml)"⟩

/-- The option for the port of the preview. -/
def portOption : KnownOption :=
  ⟨"--port", some "INTEGER", "Port to run the preview server (overrides slidesite.yaml)"⟩

/-- The command that builds a site. -/
def build : Description where
  call := "slidesite build"
  pattern := "[OPTIONS]"
  purpose := "Render the slides into a static site."
  options := [contentDirOption, themeOption, outputDirOption, helpOption]

/-- The command that serves a site and keeps it up to date. -/
def serve : Description where
  call := "slidesite serve"
  pattern := "[OPTIONS]"
  purpose := "Serve the built site and rebuild on changes."
  options := [portOption, helpOption]

/-- The program. -/
def program : Description where
  call := "slidesite"
  pattern := "[OPTIONS] COMMAND [ARGS]..."
  purpose := "SlideSite static slide builder."
  options := [versionOption, helpOption]
  commands := [("build", build.purpose), ("serve", serve.purpose)]

/-- The line that shows how a command is used. -/
def usage (d : Description) : String := s!"Usage: {d.call} {d.pattern}"

/-- A table of two columns under a heading.  The texts are short enough for one line each. -/
def table (heading : String) (rows : List (String × String)) : List String :=
  let width := (rows.map fun r => r.1.length).foldl max 0 + 2
  if rows.isEmpty then []
  else
    ["", heading] ++ rows.map fun (l, r) =>
      "  " ++ l ++ String.ofList (List.replicate (width - l.length) ' ') ++ r

/-- How an option is written. -/
def optionForm (o : KnownOption) : String :=
  match o.value? with
  | some v => s!"{o.name} {v}"
  | none => o.name

/-- The help for a command, by lines. -/
def page (d : Description) : List String :=
  [d.usage, "", "  " ++ d.purpose] ++
    table "Options:" (d.options.map fun o => (optionForm o, o.description)) ++
    table "Commands:" d.commands

end Description

end DeckPress.Command
