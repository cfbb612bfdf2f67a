import Descriptors.Session.Script
import Descriptors.Session.Reader
import Descriptors.Session.Request
import Descriptors.Text.WhiteSpace
/-! One exchange of the protocol: a line of JSON text holding a script comes in, and the line
of its transcript goes out. A line that holds no JSON document, or no list of operations, is
answered with a misuse alone. -/
namespace Descriptors
namespace Session

/-- A transcript as an answer: the results in order, every job's log under its key, and a
mark when some job never reported. -/
def Transcript.toDoc (t : Transcript) : Doc :=
  let logs := Doc.record (t.logs.map fun (key, events) => (key, .list events))
  let base := [("results", Doc.list t.results), ("logs", logs)]
  .record (if t.incomplete then base ++ [("incomplete", .bool true)] else base)

/-- The answer line of one request line, the transfers calling the kernel through `io`. -/
def respond (io : Kernel.Io) (line : String) : String :=
  match Doc.read line with
  | .error e => (Doc.misuse s!"bad json: {e.message}").render
  | .ok d =>
    match d.script? with
    | .error message => (Doc.misuse message).render
    | .ok ops => (runScript io ops).toDoc.render

/-- The answer to a line of input as it comes, its line break taken off: a carriage return
before the break goes with it, and a line of white space only is no request and has no
answer. The transfers call the simulated kernel. -/
def respondLine (line : String) : Option String :=
  let line := if line.endsWith "\r" then (line.dropEnd 1).toString else line
  if (Text.trim line).isEmpty then none else some (respond Kernel.Io.simulation line)

end Session
end Descriptors
