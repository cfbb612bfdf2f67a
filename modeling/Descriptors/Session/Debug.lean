import Descriptors.Session.Act
import Descriptors.Text.WhiteSpace
import Descriptors.Text.GraphemeExtend
import Descriptors.Text.Printable
/-! The debug view of a resource. Every resource has a debug text, the way a derived
formatter writes it: the type's name, then its fields in braces, each descriptor as
`Descriptor { fd: N, worker: S }` and a server's path quoted with its special characters
escaped. An answer reads the text back: the type is what comes before the first ` {`, and
the text is cut at every `Descriptor { fd: `, each piece after a cut spelling one descriptor,
even one that a path spells out. -/
namespace Descriptors
namespace Session

/-- The escape of a character in a quoted debug text: the usual backslash escapes, and the
code point in hexadecimal for a character that extends the one before it or is not
printable. -/
def debugEscape (c : Char) : String :=
  match c with
  | '\x00' => "\\0"
  | '\t' => "\\t"
  | '\r' => "\\r"
  | '\n' => "\\n"
  | '\\' => "\\\\"
  | '"' => "\\\""
  | c =>
    if Text.isGraphemeExtend c || !Text.isPrintable c then
      "\\u\x7b" ++ String.ofList (Nat.toDigits 16 c.toNat) ++ "\x7d"
    else String.singleton c

/-- A text quoted as a debug view shows it. -/
def debugQuote (s : String) : String :=
  "\"" ++ String.join (s.toList.map debugEscape) ++ "\""

/-- The text before and after the first occurrence of `pat`, if it occurs. -/
def splitFirst (pat : List Char) : List Char → Option (List Char × List Char)
  | [] => if pat.isEmpty then some ([], []) else none
  | c :: cs =>
    if pat.isPrefixOf (c :: cs) then some ([], (c :: cs).drop pat.length)
    else (splitFirst pat cs).map fun (before, after) => (c :: before, after)

/-- A 32-bit signed number in decimal, with an optional sign and nothing else around it. -/
def readInt32? (cs : List Char) : Option Int :=
  let (neg, digits) := match cs with
    | '-' :: rest => (true, rest)
    | '+' :: rest => (false, rest)
    | _ => (false, cs)
  if digits.isEmpty || !digits.all Char.isDigit then none
  else
    let n : Int := (digits.foldl (fun acc c => acc * 10 + (c.toNat - 48)) 0 : Nat)
    let v := if neg then -n else n
    if v < -2147483648 || 2147483647 < v then none else some v

/-- What opens a descriptor in a debug text. -/
def descriptorMark : List Char := "Descriptor \x7b fd: ".toList

/-- The pieces of a text that follow the occurrences of `pat`, each up to the next one; at
most `fuel` of them. -/
def piecesAfter (pat : List Char) : Nat → List Char → List (List Char)
  | 0, _ => []
  | fuel + 1, cs =>
    match splitFirst pat cs with
    | none => []
    | some (_, rest) =>
      match splitFirst pat rest with
      | none => [rest]
      | some (piece, _) => piece :: piecesAfter pat fuel rest

/-- The number and worker state one descriptor's piece of a debug text spells: the number
up to `, worker: `, white space around it ignored, and the state up to the first ` }`, or to
the end of the piece. -/
def descriptorOf (piece : List Char) : Except String (Int × String) :=
  match splitFirst ", worker: ".toList piece with
  | none => .error "bad debug"
  | some (fdText, rest) =>
    match readInt32? (Text.trim (String.ofList fdText)).toList with
    | none => .error "bad debug fd"
    | some fd =>
      let worker := ((splitFirst " \x7d".toList rest).map Prod.fst).getD rest
      .ok (fd, String.ofList worker)

/-- The descriptors a debug text spells out, in order: each number and worker state, or
why the text cannot be read. -/
def descriptorsIn (cs : List Char) : Except String (List (Int × String)) :=
  (piecesAfter descriptorMark cs.length cs).mapM descriptorOf

namespace Act

/-- The debug text of descriptor `d`. -/
def descText (d : Nat) : Act String := do
  let w ← get
  let fd := ((w.desc? d).map (·.fd)).getD (-1)
  let state := (w.workerState d).name
  pure s!"Descriptor \x7b fd: {fd}, worker: {state} \x7d"

/-- The debug text of a resource. -/
def resourceText : Resource → Act String
  | .pipe r wr => do
    let reader ← descText r
    let writer ← descText wr
    pure s!"Pipe \x7b reader: {reader}, writer: {writer} \x7d"
  | .desc d => descText d
  | .file d => do
    let inner ← descText d
    pure s!"File \x7b descriptor: {inner} \x7d"
  | .fifo d => do
    let inner ← descText d
    pure s!"Fifo \x7b descriptor: {inner} \x7d"
  | .server d path => do
    let inner ← descText d
    let quoted := debugQuote path
    pure s!"StreamSocketServer \x7b descriptor: {inner}, path: {quoted} \x7d"

/-- The answer of a debug view: the type and the descriptors its text spells out. -/
def debugAnswer (text : String) : Act Doc := do
  let cs := text.toList
  let typeName := String.ofList ((splitFirst " \x7b".toList cs).map Prod.fst |>.getD cs)
  let ds ← orMisuse (descriptorsIn cs)
  let w ← get
  pure (.ok (.record [("type", .text typeName),
    ("descriptors", .list (ds.map fun (fd, worker) =>
      .record [("fd", w.showNumber fd), ("worker", .text worker)]))]))

/-- Runs a debug view; `none` for any other operation. -/
def debugOp (ctx : Ctx) : Op → Option (Act Doc)
  | .debug h => some do
    let (_, hd) ← handle ctx h
    match hd with
    | .whole e => debugAnswer (← resourceText (← resource e))
    | .pipeEnd .. => debugAnswer (← descText (← descOf hd))
  | _ => none

end Act
end Session
end Descriptors
