import DeckPress.Text.Replace

/-!
# Relocatable links

Rendered pages name their assets from the server root, link to Markdown sources, and keep the
readme page under its own name.  A list of literal rules, applied in order, turns such links into
ones that work from any base path.

* `Rule.forReadme` (`link_substitutions`) gives the three rules of a site whose index is made from a
  given readme page.
* `relink` (`rewrite_links`) applies a list of rules, each to the result of the one before.
-/

namespace DeckPress.Links

/-- One literal replacement. -/
structure Rule where
  /-- The text that is looked for. -/
  search : Text
  /-- The text that stands in its place afterwards. -/
  replacement : Text
deriving DecidableEq, Repr

namespace Rule

/-- Assets below the server root become relative to the page. -/
def assets : Rule := ⟨"href=\"/_assets".toList, "href=\"./_assets".toList⟩

/-- A Markdown source is linked by the page made from it. -/
def sources : Rule := ⟨".md".toList, ".html".toList⟩

/-- The page of the readme document `readme` is linked as the index. -/
def index (readme : Text) : Rule := ⟨readme ++ ".html".toList, "index.html".toList⟩

/-- The rules of a site, in the order in which they apply.  The rule for the index comes last, since
it also has to catch the links that the rule for sources has just made. -/
def forReadme (readme : Text) : List Rule := [assets, sources, index readme]

end Rule

/-- The readme document of a project that names none. -/
def defaultReadme : Text := "README".toList

/-- Applies the rules in order, each to every occurrence. -/
def relink (rules : List Rule) (page : Text) : Text :=
  rules.foldl (fun t r => Text.replace r.search r.replacement t) page

theorem relink_nil (page : Text) : relink [] page = page := rfl

theorem relink_cons (r : Rule) (rules : List Rule) (page : Text) :
    relink (r :: rules) page = relink rules (Text.replace r.search r.replacement page) := rfl

end DeckPress.Links
