import DeckPress.Preview.Rebuild
import DeckPress.Preview.Serve

/-!
# Watching

`Preview.start` (`start`) builds, serves and watches until it is told to stop; `Preview.watch`
(`_start_watcher`) and `Preview.stop` (`stop`) are the watching alone.
-/

namespace DeckPress.Preview

/-- Watches the directory of the slides with all below it, and the directory of the style sheet,
as far as they are there. -/
def watch (p : Preview) : Act Unit := do
  if ← Act.isThere p.contentDir then Act.record (.watching p.contentDir true)
  if ← Act.isThere p.theme.parent then Act.record (.watching p.theme.parent false)
  Act.record .watchStarted
  advance fun s => { s with isWatching := true }

/-- Ends the watch, if there is one. -/
def stop : Act Unit := do
  if (← get).progress.isWatching then
    Act.record .watchStopped
    Act.record .watchJoined

/-- Serves and watches a site that has been built, until it is told to stop. -/
def run (p : Preview) : Act Unit := do
  let signature? ← p.signature
  advance fun s => { s with signature? }
  p.listen
  p.watch
  stop

/-- Builds, and then serves and watches until it is told to stop.  If the program asks for a rebuild
while it runs, `answer` is what is done. -/
def start (p : Preview) (answer : Act Unit) : Act Unit := do
  p.build answer
  p.run

end DeckPress.Preview
