import Descriptors.Bytes
import Descriptors.Error
import Descriptors.Decimal.Shortest
/-! Answers are documents: the tree a session hands back for each operation, with the
numbers, texts, lists and records that the protocol prints. Bytes appear as hex text or as
a record of length and digest; an I/O error as its code or as its kind and message. -/
namespace Descriptors
namespace Session

/-- An answer document. `num` is an exact integer; `real` is any other number, a double. -/
inductive Doc where
  | null
  | bool (b : Bool)
  | num (n : Int)
  | real (x : Binary64)
  | text (s : String)
  | list (items : List Doc)
  | record (fields : List (String × Doc))
  deriving Repr, Inhabited

namespace Doc

/-- How an answer shows bytes. -/
def ofBytes (bs : List UInt8) : Doc :=
  match Bytes.display bs with
  | .hex t => .text t
  | .digest len fnv => .record [("len", .num len), ("fnv1a64", .text fnv)]

/-- How an answer shows an I/O error. -/
def ofIoError : IoError → Doc
  | .os code => .record [("errno", .text code.symbol)]
  | .custom kind message => .record [("kind", .text kind.name), ("message", .text message)]

/-- A success carrying `v`. -/
def ok (v : Doc) : Doc := .record [("ok", v)]

/-- A success carrying `v`, with extra fields after it. -/
def okWith (v : Doc) (extra : List (String × Doc)) : Doc :=
  .record (("ok", v) :: extra)

/-- A failure labelled `label`, with its fields. -/
def failure (label : String) (fields : List (String × Doc)) : Doc :=
  .record (("error", .text label) :: fields)

/-- A misuse of the protocol itself: an unknown operation, handle or field. -/
def misuse (message : String) : Doc :=
  failure "DriverError" [("message", .text message)]

/-- The answer for reaching outside a buffer. -/
def panicked : Doc := failure "Panic" []

/-- Adds fields to a record; other documents are left as they are. -/
def extend (d : Doc) (extra : List (String × Doc)) : Doc :=
  match d with
  | .record fields => .record (fields ++ extra)
  | d => d

/-- The fields of a library error, with descriptor numbers shown by `number`. -/
def errorFields (number : Int → Doc) : Error → List (String × Doc)
  | .bufferTooSmall requested capacity =>
    [("requested", .num requested), ("capacity", .num capacity),
     ("message", .text (Error.bufferTooSmall requested capacity).message)]
  | .transfer op fd transferred source =>
    [("op", .text op.name), ("fd", number fd), ("transferred", .num transferred),
     ("io", ofIoError source)]
  | .alreadyMonitored fd | .notMonitored fd | .outOfRange fd => [("fd", number fd)]
  | e@(.wait source) | e@(.spawn source) =>
    [("message", .text e.message), ("io", ofIoError source)]
  | e@(.os call source) =>
    [("op", .text call.name), ("message", .text e.message), ("io", ofIoError source)]

/-- A library error as an answer. -/
def ofError (number : Int → Doc) (e : Error) : Doc :=
  failure e.label (errorFields number e)

/-- The escape of a character inside a JSON string: quotes, backslashes and control
characters are escaped, everything else stands for itself. -/
def escapeChar (c : Char) : String :=
  match c with
  | '"' => "\\\""
  | '\\' => "\\\\"
  | '\n' => "\\n"
  | '\r' => "\\r"
  | '\t' => "\\t"
  | '\x08' => "\\b"
  | '\x0c' => "\\f"
  | c =>
    if c.toNat < 32 then
      "\\u00" ++ String.ofList [Bytes.hexDigit (c.toNat / 16), Bytes.hexDigit (c.toNat % 16)]
    else String.singleton c

/-- A text as a JSON string. -/
def quote (s : String) : String :=
  "\"" ++ String.join (s.toList.map escapeChar) ++ "\""

/-- How an answer writes a double: its shortest decimal, by the number `kk` of digits
before the point (`10 ^ (kk - 1) ≤ |x| < 10 ^ kk`). An integer of at most 16 digits is
written out with `.0`, other numbers with `0 < kk ≤ 16` with a point among their digits, and
those with `-5 < kk ≤ 0` as `0.` and zeros before the digits; all others in scientific form,
one digit before the point and the exponent after `e`, signed only when negative. A zero is
`0.0`; a negative number has a minus sign in front. -/
def realText (x : Binary64) : String :=
  let sign := if x.negative then "-" else ""
  if x.isZero then sign ++ "0.0"
  else
    let d := Decimal.shortest x
    let ds := Nat.toDigits 10 d.digits
    let len := ds.length
    let kk : Int := len + d.exponent
    let zeros (n : Nat) : List Char := List.replicate n '0'
    let body : List Char :=
      if 0 ≤ d.exponent && kk ≤ 16 then ds ++ zeros d.exponent.toNat ++ ['.', '0']
      else if 0 < kk && kk ≤ 16 then ds.take kk.toNat ++ ['.'] ++ ds.drop kk.toNat
      else if -5 < kk && kk ≤ 0 then ['0', '.'] ++ zeros (-kk).toNat ++ ds
      else if len == 1 then ds ++ ['e'] ++ (toString (kk - 1)).toList
      else ds.take 1 ++ ['.'] ++ ds.drop 1 ++ ['e'] ++ (toString (kk - 1)).toList
    sign ++ String.ofList body

mutual

/-- The compact JSON text of a document; the keys of a record come out sorted. -/
def render : Doc → String
  | .null => "null"
  | .bool b => if b then "true" else "false"
  | .num n => toString n
  | .real x => realText x
  | .text s => quote s
  | .list items => "[" ++ ",".intercalate (renderItems items) ++ "]"
  | .record fields =>
    let sorted := (renderFields fields).mergeSort fun a b => decide (a.1 ≤ b.1)
    "\x7b" ++ ",".intercalate (sorted.map fun (k, v) => quote k ++ ":" ++ v) ++ "\x7d"

/-- The texts of the items of a list. -/
def renderItems : List Doc → List String
  | [] => []
  | d :: ds => render d :: renderItems ds

/-- The keys of a record with the texts of their values. -/
def renderFields : List (String × Doc) → List (String × String)
  | [] => []
  | (k, d) :: rest => (k, render d) :: renderFields rest

end

end Doc

end Session
end Descriptors
