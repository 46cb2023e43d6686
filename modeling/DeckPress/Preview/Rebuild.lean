import DeckPress.Preview.Sources
import DeckPress.Site

/-!
# Building for a preview

The next site is made in a directory of its own, and takes the place of the finished one only when
it is complete, so that what is served is never half-written.

* `Preview.prepare` (`_prepare_staging_dir`) clears the place of the next site, and
  `Preview.activate` (`_activate_staging`) puts it in the place of the finished one.
* `Preview.build` (`build`) makes a site and puts it in place.
* `Preview.rebuild` (`rebuild`) does so when the sources have changed.  A rebuild that fails leaves
  the finished site as it was and is tried again at the next change.
* `Preview.onChange` (`on_any_event`) handles the news of a change.
* A program may ask for a rebuild while it runs.  Such a request comes to nothing, since a rebuild
  is under way already; `Preview.rebuildUpTo` bounds how deep requests may nest.
-/

namespace DeckPress.Preview

/-- Clears the place of the next site. -/
def prepare (p : Preview) : Act Path := do
  if ← Act.isThere p.stagingDir then Act.removeTree p.stagingDir
  Act.makeDirectories p.stagingDir.parent
  return p.stagingDir

/-- Puts the site at `staging` in the place of the finished one. -/
def activate (p : Preview) (staging : Path) : Act Unit := do
  if ← Act.isThere p.outputDir then Act.removeTree p.outputDir
  Act.replace staging p.outputDir

/-- Makes the next site and puts it in place.  If the program asks for a rebuild while it runs,
`answer` is what is done. -/
def build (p : Preview) (answer : Act Unit) : Act Unit := do
  let staging ← p.prepare
  let _ ← Site.build answer p.root none (some p.settings) (some staging)
  p.activate staging

/-- The time of day in seconds, as a clock that shows `milliseconds` gives it. -/
def seconds (milliseconds : Int) : Binary64 :=
  .ofRatio (milliseconds < 0) milliseconds.natAbs 1000

/-- How long after a rebuild changes are taken to belong to it, in seconds. -/
def pause : Binary64 := .ofDecimal false 5 (-2)

/-- Whether a rebuild at a time follows the last one too closely. -/
def isTooSoon (now last : Int) : Bool := ((seconds now).sub (seconds last)).lt pause

/-- Changes how far the preview has come. -/
def advance (change : Progress → Progress) : Act Unit :=
  modify fun h => { h with progress := change h.progress }

/-- Builds, and remembers what the sources looked like before.  A failure of the build is
printed. -/
def renew (p : Preview) (answer : Act Unit) (signature? : Option Signature) : Act Unit := do
  Act.print "Change detected; rebuilding..."
  match ← Act.attempt (p.build answer) with
  | .ok () => advance fun s => { s with signature? }
  | .error (.cause c) =>
    if c.isOs then Act.print ("Rebuild failed: " ++ c.message) else Act.fail c
  | .error (.site e) => Act.print ("Rebuild failed: " ++ e.text)

/-- Rebuilds with requests nested to the given depth. -/
def rebuildUpTo (p : Preview) : Nat → Act Unit
  | 0 => pure ()
  | depth + 1 => do
    let h ← get
    if h.progress.isRebuilding || isTooSoon h.clock h.progress.rebuiltAt then return
    let signature? ← p.signature
    if signature?.isSome && signature? = (← get).progress.signature? then return
    advance fun s => { s with isRebuilding := true }
    let result ← Act.attempt (p.renew (p.rebuildUpTo depth) signature?)
    modify fun h =>
      { h with progress := { h.progress with isRebuilding := false, rebuiltAt := h.clock } }
    Act.resume result

/-- Rebuilds if the sources have changed since the last build that succeeded, unless a rebuild is
under way or has just ended.  Requests made meanwhile find a rebuild under way, so that a depth of
two is enough. -/
def rebuild (p : Preview) : Act Unit := p.rebuildUpTo 2

/-- Whether a change of a file is one that the preview itself makes, or one in the installed
programs. -/
def isIgnored (p : Preview) (file : Path) : Bool :=
  file.IsBelow p.outputDir || file.IsBelow p.stagingDir || file.names.contains "node_modules"

/-- Handles the news that something has changed. -/
def onChange (p : Preview) (file : Path) (isDirectory : Bool) : Act Unit :=
  if isDirectory || p.isIgnored file then pure () else p.rebuild

end DeckPress.Preview
