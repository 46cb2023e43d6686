import DeckPress.Http.Response
import DeckPress.Preview.Basic

/-!
# Serving

The web server of a preview (`_start_http`) shows the finished site, as it is at the time of each
request.
-/

namespace DeckPress.Preview

/-- Opens the web server. -/
def listen (p : Preview) : Act Unit := do
  let number ← Act.lift ((Literal.decimal p.portNumber).mapError .number)
  Act.record (.listening p.portNumber)
  Act.print s!"Serving {p.outputDir} at http://localhost:{number}"

/-- Opens the web server and answers requests, each on a connection of its own. -/
def serve (p : Preview) (requests : List Text) : Act (List (Except Cause Http.Reply)) := do
  p.listen
  return requests.map (Http.answer (← get) p.outputDir)

end DeckPress.Preview
