import DeckPress.Links
import DeckPress.Rendering
import DeckPress.Settings.Document

/-!
# Sites

A site is built in stages, and the first one that fails ends the build: the renderer makes the
pages, the page of the readme document becomes the index, and the links of every page are made
relocatable.  What was done before a failure stays done.

* `Site.promote` (`promote_readme`) makes the index from the readme page.
* `Site.pages` (`discover_html_files`) lists the pages at the top of a site, and `Site.relinkPage`
  (`rewrite_html_file`) replaces the links of one of them.
* `Site.finish` (`postprocess_site`) is everything after rendering, and `Site.build` (`build_site`)
  is the whole.
-/

namespace DeckPress.Site

/-- The name of the index of a site. -/
def indexName : String := "index.html"

/-- The name of the page that is made from a document. -/
def pageName (document : String) : String := document ++ ".html"

/-- Whether a name is that of a page: it ends like one and is not hidden. -/
def isPageName (name : String) : Bool :=
  ".html".toList.isSuffixOf name.toList && !".".toList.isPrefixOf name.toList

/-- Runs an act on a file of a site.  A failure for one of the expected causes becomes a failure of
the build at that file. -/
def onFile {α : Type} (p : Path) (expected : Cause → Bool) (a : Act α) : Act α := do
  match ← Act.attempt a with
  | .error (.cause c) =>
    if expected c then throw (.site { path := p, problem := .failed c }) else Act.fail c
  | r => Act.resume r

/-- Whether a cause is one that reading and writing a page may have. -/
def isPageCause (c : Cause) : Bool := c.isOs || c.kind = .decoding || c.kind = .encoding

/-- Makes the page of the readme document the index, in place of the one that the renderer made.
Both pages have to be there before either is touched. -/
def promote (outputDir : Path) (readme : String) : Act Path := do
  let readmePage := outputDir / pageName readme
  let index := outputDir / indexName
  if !(← Act.isFile readmePage) then throw (.site { path := readmePage, problem := .noReadme })
  if !(← Act.isFile index) then throw (.site { path := index, problem := .noIndex })
  onFile readmePage Cause.isOs do
    Act.unlink index
    Act.rename readmePage index
  return index

/-- The pages at the top of a site, in order. -/
def pages (outputDir : Path) : Act (List Path) := do
  let names ← onFile outputDir Cause.isOs (Act.list outputDir)
  Act.keep Act.isFile ((names.filter isPageName).map outputDir.child)

/-- Applies rules to the links of a page, and tells whether that changed it. -/
def relinkPage (rules : List Links.Rule) (page : Path) : Act Bool :=
  onFile page isPageCause do
    let text ← Act.lift ((Utf8.decode (← Act.readPage page)).mapError .undecodable)
    let relinked := Links.relink rules text
    Act.writePage page (Utf8.encode relinked)
    return relinked ≠ text

/-- Applies rules to the links of many pages, in order. -/
def relinkPages (rules : List Links.Rule) : List Path → Act Unit
  | [] => pure ()
  | page :: rest => do
    let _ ← relinkPage rules page
    relinkPages rules rest

/-- What a finished site consists of. -/
structure Result where
  outputDir : Path
  index : Path
  /-- The pages, in the order in which their links were replaced. -/
  pages : List Path
deriving DecidableEq, Repr

/-- Finishes a rendered site. -/
def finish (outputDir : Path) (readme : String) : Act Result := do
  let index ← promote outputDir readme
  let pages ← pages outputDir
  relinkPages (Links.Rule.forReadme readme.toList) pages
  return ⟨outputDir, index, pages⟩

/-- Builds the site of the project at `root`.  The settings are read from the project unless they
are given, the renderer is the program that the settings name unless one is given, and the site is
made where the settings say unless `outputDir?` says otherwise.  If the program asks for a rebuild
while it runs, `answer` is what is done. -/
def build (answer : Act Unit) (root : Path) (renderer? : Option Renderer := none)
    (settings? : Option Settings := none) (outputDir? : Option Path := none) : Act Result := do
  let settings ← match settings? with
    | some s => pure s
    | none => Settings.load root
  let text (key : String) : Act String := Act.lift (settings.text key)
  let render ← match renderer? with
    | some r => pure r
    | none => pure (Rendering.byProgram answer root (← text Settings.renderer))
  let contentDir := root / (← text Settings.contentDir)
  let theme := root / (← text Settings.theme)
  let outputDir ← match outputDir? with
    | some p => pure p
    | none => pure (root / (← text Settings.outputDir))
  render contentDir outputDir theme
  finish outputDir (← text Settings.readme)

end DeckPress.Site
