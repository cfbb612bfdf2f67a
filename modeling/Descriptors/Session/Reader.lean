import Descriptors.Session.Doc
import Descriptors.Binary64
/-! # Reading JSON text

A document read from the UTF-8 bytes of a line of JSON text, or the first problem found with
it and where: the line and the column, counted in bytes. Lists and records nest at most 127
deep.

Numbers follow a reader of 64-bit numbers. An integer that fits an unsigned 64-bit word is
exact, and so is a negative one that fits a signed word; any other number is a double made
from its decimal digits as read (at most the digits that fit an unsigned word, the others
only counted) and a power of ten, by one rounded product or quotient with the double nearest
to that power. Such a double may differ in its last bit from the one nearest to the
decimal.

Where a problem is reported depends on what the reader had taken in: a problem with a byte
it has read is reported after that byte, one with a byte it has only looked at is reported
at that byte, that is after it as well. Of two fields of one name in a record the later
wins. The reader is total: its steps are bounded by the length of the text. -/
namespace Descriptors
namespace Session
namespace Reader

/-- Why a text is not a JSON document. -/
inductive Problem where
  | eofInList
  | eofInObject
  | eofInString
  | eofInValue
  | expectedColon
  | expectedListCommaOrEnd
  | expectedObjectCommaOrEnd
  | expectedIdent
  | expectedValue
  | invalidEscape
  | invalidNumber
  | numberOutOfRange
  | controlCharacter
  | keyMustBeString
  | loneLeadingSurrogate
  | trailingComma
  | trailingCharacters
  | unexpectedEndOfHexEscape
  | recursionLimit
  deriving Repr, DecidableEq

/-- How a problem is told. -/
def Problem.message : Problem → String
  | .eofInList => "EOF while parsing a list"
  | .eofInObject => "EOF while parsing an object"
  | .eofInString => "EOF while parsing a string"
  | .eofInValue => "EOF while parsing a value"
  | .expectedColon => "expected `:`"
  | .expectedListCommaOrEnd => "expected `,` or `]`"
  | .expectedObjectCommaOrEnd => "expected `,` or `\x7d`"
  | .expectedIdent => "expected ident"
  | .expectedValue => "expected value"
  | .invalidEscape => "invalid escape"
  | .invalidNumber => "invalid number"
  | .numberOutOfRange => "number out of range"
  | .controlCharacter => "control character (\\u0000-\\u001F) found while parsing a string"
  | .keyMustBeString => "key must be a string"
  | .loneLeadingSurrogate => "lone leading surrogate in hex escape"
  | .trailingComma => "trailing comma"
  | .trailingCharacters => "trailing characters"
  | .unexpectedEndOfHexEscape => "unexpected end of hex escape"
  | .recursionLimit => "recursion limit exceeded"

/-- A problem found where `rest` bytes of the text are left, reported `ahead` bytes further
on (never past the end of the text). -/
structure Failure where
  problem : Problem
  rest : Nat
  ahead : Nat
  deriving Repr

/-- Reading a part of the text: the part and the bytes after it, or the problem found. -/
abbrev Parse := Except Failure

/-- A problem reported after the bytes read, `rest` being what follows them. -/
def failAt {α : Type} (p : Problem) (rest : List UInt8) : Except Failure α :=
  .error ⟨p, rest.length, 0⟩

/-- A problem reported at the byte looked at, the first of `rest`: after it. -/
def failAhead {α : Type} (p : Problem) (rest : List UInt8) : Except Failure α :=
  .error ⟨p, rest.length, 1⟩

/-- The bytes JSON allows between tokens. -/
def isBlank (b : UInt8) : Bool := b == 32 || b == 10 || b == 9 || b == 13

def skipBlanks (bs : List UInt8) : List UInt8 := bs.dropWhile isBlank

def isDigit (b : UInt8) : Bool := 48 ≤ b && b ≤ 57

def digitOf (b : UInt8) : Nat := b.toNat - 48

/-- The byte of an ASCII character. -/
def byte (c : Char) : UInt8 := c.toNat.toUInt8

/-- Whether `acc * 10 + digit` passes `limit`. -/
def passes (acc digit limit : Nat) : Bool :=
  limit / 10 ≤ acc && (limit / 10 < acc || limit % 10 < digit)

/-- The largest unsigned 64-bit number. -/
def wordMax : Nat := Nat.pow 2 64 - 1

/-- The largest signed 32-bit number: exponents saturate at its bounds. -/
def exponentMax : Int := Int.pow 2 31 - 1

/-- An exponent held to the signed 32-bit range, as adding or taking away there saturates. -/
def saturate (e : Int) : Int := max (min e exponentMax) (-exponentMax - 1)

/-- The rest of an identifier after its first letter. -/
def ident : List UInt8 → List UInt8 → Parse (List UInt8)
  | [], bs => .ok bs
  | _ :: _, [] => failAt .eofInValue []
  | w :: ws, b :: bs => if b == w then ident ws bs else failAt .expectedIdent bs

/-- The double `significand * 10 ^ exponent` as a reader of numbers makes it: the
significand's double times or over the double nearest to the power of ten, rounded once.
Powers beyond `10 ^ 308` are taken `10 ^ 308` at a time while the number is not zero; a
positive one there, or a product beyond the greatest double, is out of range. Dividing by
`10 ^ 308` twice brings any significand to zero, so four rounds suffice. -/
def fromParts (positive : Bool) (significand : Nat) (exponent : Int) (rest : List UInt8) :
    Parse (Doc × List UInt8) :=
  let rec go : Nat → Binary64 → Int → Parse Binary64
    | 0, f, _ => .ok f
    | fuel + 1, f, e =>
      if e.natAbs ≤ 308 then
        if 0 ≤ e then
          match f.mul (Binary64.pow10 e.natAbs) with
          | some g => .ok g
          | none => failAt .numberOutOfRange rest
        else .ok ((f.div (Binary64.pow10 e.natAbs)).getD f)
      else if f.isZero then .ok f
      else if 0 ≤ e then failAt .numberOutOfRange rest
      else go fuel ((f.div (Binary64.pow10 308)).getD f) (e + 308)
  match go 4 (Binary64.ofNat significand) exponent with
  | .ok f => .ok (.real (if positive then f else f.neg), rest)
  | .error e => .error e

/-- The digits of an exponent past one that overflows: only a zero number or a negative
exponent survive, as a zero. -/
def exponentOverflow (positive zeroSignificand positiveExponent : Bool) (rest : List UInt8) :
    Parse (Doc × List UInt8) :=
  if !zeroSignificand && positiveExponent then failAt .numberOutOfRange rest
  else .ok (.real (Binary64.zero !positive), rest.dropWhile isDigit)

/-- The digits of an exponent, `exp` read so far. -/
def exponentDigits (positive : Bool) (significand : Nat) (start : Int) (positiveExponent : Bool) :
    Nat → List UInt8 → Parse (Doc × List UInt8)
  | exp, b :: bs =>
    if isDigit b then
      if passes exp (digitOf b) exponentMax.toNat then
        exponentOverflow positive (significand == 0) positiveExponent bs
      else exponentDigits positive significand start positiveExponent (exp * 10 + digitOf b) bs
    else
      let e := if positiveExponent then saturate (start + exp) else saturate (start - exp)
      fromParts positive significand e (b :: bs)
  | exp, [] =>
    let e := if positiveExponent then saturate (start + exp) else saturate (start - exp)
    fromParts positive significand e []

/-- An exponent after its mark: an optional sign, then at least one digit. -/
def exponentPart (positive : Bool) (significand : Nat) (start : Int) (bs : List UInt8) :
    Parse (Doc × List UInt8) :=
  let (positiveExponent, bs) := match bs with
    | b :: rest => if b == byte '+' then (true, rest) else if b == byte '-' then (false, rest)
      else (true, b :: rest)
    | [] => (true, [])
  match bs with
  | [] => failAt .eofInValue []
  | b :: rest =>
    if isDigit b then exponentDigits positive significand start positiveExponent (digitOf b) rest
    else failAt .invalidNumber rest

/-- Whether a byte marks an exponent. -/
def isExponentMark (b : UInt8) : Bool := b == byte 'e' || b == byte 'E'

/-- What follows a number's digits: an exponent, or its end. -/
def afterDigits (positive : Bool) (significand : Nat) (exponent : Int) :
    List UInt8 → Parse (Doc × List UInt8)
  | b :: bs => if isExponentMark b then exponentPart positive significand exponent bs
    else fromParts positive significand exponent (b :: bs)
  | [] => fromParts positive significand exponent []

/-- The fraction digits past those the significand can hold: they are skipped. -/
def fractionOverflow (positive : Bool) (significand : Nat) (exponent : Int) (bs : List UInt8) :
    Parse (Doc × List UInt8) :=
  afterDigits positive significand exponent (bs.dropWhile isDigit)

/-- The digits of a fraction, `count` of them read so far into the significand. -/
def fractionDigits (positive : Bool) (before : Int) :
    Nat → Nat → List UInt8 → Parse (Doc × List UInt8)
  | significand, count, b :: bs =>
    if isDigit b then
      if passes significand (digitOf b) wordMax then
        fractionOverflow positive significand (before - count) (b :: bs)
      else fractionDigits positive before (significand * 10 + digitOf b) (count + 1) bs
    else if count == 0 then failAhead .invalidNumber (b :: bs)
    else afterDigits positive significand (before - count) (b :: bs)
  | significand, count, [] =>
    if count == 0 then failAhead .eofInValue []
    else afterDigits positive significand (before - count) []

/-- What follows the digits of an integer part: a fraction, an exponent, or the end. -/
def afterWhole (positive : Bool) (significand : Nat) (exponent : Int) :
    List UInt8 → Parse (Doc × List UInt8)
  | b :: bs =>
    if b == byte '.' then fractionDigits positive exponent significand 0 bs
    else if isExponentMark b then exponentPart positive significand exponent bs
    else fromParts positive significand exponent (b :: bs)
  | [] => fromParts positive significand exponent []

/-- The digits of an integer past those an unsigned word holds: each counts a power of ten. -/
def longInteger (positive : Bool) (significand : Nat) :
    Nat → List UInt8 → Parse (Doc × List UInt8)
  | exponent, b :: bs =>
    if isDigit b then longInteger positive significand (exponent + 1) bs
    else afterWhole positive significand exponent (b :: bs)
  | exponent, [] => afterWhole positive significand exponent []

/-- A number that ended after its integer part: exact if it fits its word, a double
otherwise (a negative zero, or a negative number beyond the signed range). -/
def integerDoc (positive : Bool) (n : Nat) : Doc :=
  if positive then .num n
  else if n == 0 || Nat.pow 2 63 < n then .real (Binary64.ofNat n).neg
  else .num (-(n : Int))

/-- What follows an integer part that fits a word. -/
def afterInteger (positive : Bool) (n : Nat) : List UInt8 → Parse (Doc × List UInt8)
  | b :: bs =>
    if b == byte '.' then fractionDigits positive 0 n 0 bs
    else if isExponentMark b then exponentPart positive n 0 bs
    else .ok (integerDoc positive n, b :: bs)
  | [] => .ok (integerDoc positive n, [])

/-- The digits of an integer part after its first, `n` read so far. -/
def wholeDigits (positive : Bool) : Nat → List UInt8 → Parse (Doc × List UInt8)
  | n, b :: bs =>
    if isDigit b then
      if passes n (digitOf b) wordMax then longInteger positive n 0 (b :: bs)
      else wholeDigits positive (n * 10 + digitOf b) bs
    else afterInteger positive n (b :: bs)
  | n, [] => afterInteger positive n []

/-- A number after its sign: a zero alone or a digit that is not zero and more digits, then
an optional fraction and exponent. -/
def number (positive : Bool) : List UInt8 → Parse (Doc × List UInt8)
  | [] => failAt .eofInValue []
  | b :: bs =>
    if b == byte '0' then
      match bs with
      | c :: _ => if isDigit c then failAhead .invalidNumber bs else afterInteger positive 0 bs
      | [] => afterInteger positive 0 []
    else if isDigit b then wholeDigits positive (digitOf b) bs
    else failAt .invalidNumber bs

/-- The value of a hexadecimal digit. -/
def hexValue? (b : UInt8) : Option Nat :=
  if isDigit b then some (digitOf b)
  else if byte 'a' ≤ b && b ≤ byte 'f' then some (b.toNat - 87)
  else if byte 'A' ≤ b && b ≤ byte 'F' then some (b.toNat - 55)
  else none

/-- Four hexadecimal digits: the code unit they spell. All four are taken even when one of
them is no digit. -/
def hexUnit (bs : List UInt8) : Parse (Nat × List UInt8) :=
  match bs with
  | a :: b :: c :: d :: rest =>
    match hexValue? a, hexValue? b, hexValue? c, hexValue? d with
    | some a, some b, some c, some d => .ok (a * 4096 + b * 256 + c * 16 + d, rest)
    | _, _, _, _ => failAt .invalidEscape rest
  | _ => failAt .eofInString []

/-- The UTF-8 bytes of a code point. -/
def utf8 (n : Nat) : List UInt8 :=
  if n < 0x80 then [n.toUInt8]
  else if n < 0x800 then [(0xC0 + n / 64).toUInt8, (0x80 + n % 64).toUInt8]
  else if n < 0x10000 then
    [(0xE0 + n / 4096).toUInt8, (0x80 + n / 64 % 64).toUInt8, (0x80 + n % 64).toUInt8]
  else
    [(0xF0 + n / 262144).toUInt8, (0x80 + n / 4096 % 64).toUInt8, (0x80 + n / 64 % 64).toUInt8,
      (0x80 + n % 64).toUInt8]

/-- The bytes of a `\u` escape after its `u`: a code unit outside the surrogates, or a leading
surrogate followed by an escaped trailing one. -/
def unicodeEscape (bs : List UInt8) : Parse (List UInt8 × List UInt8) := do
  let (n, bs) ← hexUnit bs
  if 0xDC00 ≤ n && n ≤ 0xDFFF then failAt .loneLeadingSurrogate bs
  else if n < 0xD800 || 0xDBFF < n then pure (utf8 n, bs)
  else
    match bs with
    | [] => failAt .eofInString []
    | b :: bs =>
      if b != byte '\\' then failAt .unexpectedEndOfHexEscape bs
      else
        match bs with
        | [] => failAt .eofInString []
        | b :: bs =>
          if b != byte 'u' then failAt .unexpectedEndOfHexEscape bs
          else do
            let (lo, bs) ← hexUnit bs
            if lo < 0xDC00 || 0xDFFF < lo then failAt .loneLeadingSurrogate bs
            else pure (utf8 (0x10000 + (n - 0xD800) * 1024 + (lo - 0xDC00)), bs)

/-- The bytes an escape stands for, after its backslash. -/
def escape (bs : List UInt8) : Parse (List UInt8 × List UInt8) :=
  match bs with
  | [] => failAt .eofInString []
  | b :: rest =>
    if b == byte '"' || b == byte '\\' || b == byte '/' then .ok ([b], rest)
    else if b == byte 'b' then .ok ([8], rest)
    else if b == byte 'f' then .ok ([12], rest)
    else if b == byte 'n' then .ok ([10], rest)
    else if b == byte 'r' then .ok ([13], rest)
    else if b == byte 't' then .ok ([9], rest)
    else if b == byte 'u' then unicodeEscape rest
    else failAt .invalidEscape rest

/-- The bytes of a string after its opening quote, `acc` holding those read, last first.
Every step reads at least one byte, so `fuel` is the number of bytes left, and one more. A
control byte must be escaped. -/
def stringBytes : Nat → List UInt8 → List UInt8 → Parse (List UInt8 × List UInt8)
  | 0, _, bs => failAt .eofInString bs
  | _ + 1, _, [] => failAt .eofInString []
  | fuel + 1, acc, b :: bs =>
    if b == byte '"' then .ok (acc.reverse, bs)
    else if b == byte '\\' then do
      let (e, bs) ← escape bs
      stringBytes fuel (e.reverse ++ acc) bs
    else if b < 32 then failAt .controlCharacter bs
    else stringBytes fuel (b :: acc) bs

/-- A string after its opening quote. -/
def string (bs : List UInt8) : Parse (String × List UInt8) := do
  let (body, rest) ← stringBytes (bs.length + 1) [] bs
  pure ((String.fromUTF8? (ByteArray.mk body.toArray)).getD "", rest)

/-- How deeply lists and records may nest: the one that would be the 128th is refused. -/
def depthLimit : Nat := 128

mutual

/-- A value at the front of the bytes, inside `depth` open lists and records; `fuel` bounds
the steps. -/
def value : Nat → Nat → List UInt8 → Parse (Doc × List UInt8)
  | 0, _, bs => failAt .eofInValue bs
  | fuel + 1, depth, bs =>
    match skipBlanks bs with
    | [] => failAhead .eofInValue []
    | b :: rest =>
      if b == byte 'n' then (ident [117, 108, 108] rest).map fun r => (.null, r)
      else if b == byte 't' then (ident [114, 117, 101] rest).map fun r => (.bool true, r)
      else if b == byte 'f' then (ident [97, 108, 115, 101] rest).map fun r => (.bool false, r)
      else if b == byte '-' then number false rest
      else if isDigit b then number true (b :: rest)
      else if b == byte '"' then (string rest).map fun (s, r) => (.text s, r)
      else if b == byte '[' then
        if depthLimit ≤ depth + 1 then failAhead .recursionLimit (b :: rest)
        else items fuel (depth + 1) true [] rest
      else if b == byte '\x7b' then
        if depthLimit ≤ depth + 1 then failAhead .recursionLimit (b :: rest)
        else fields fuel (depth + 1) true [] rest
      else failAhead .expectedValue (b :: rest)

/-- The items of a list after its opening bracket; `acc` holds those read, last first, and
`first` says that none was read yet. -/
def items : Nat → Nat → Bool → List Doc → List UInt8 → Parse (Doc × List UInt8)
  | 0, _, _, _, bs => failAt .eofInList bs
  | fuel + 1, depth, first, acc, bs =>
    match skipBlanks bs with
    | [] => failAhead .eofInList []
    | b :: rest =>
      if b == byte ']' then .ok (.list acc.reverse, rest)
      else if b == byte ',' && !first then
        match skipBlanks rest with
        | [] => failAhead .eofInValue []
        | c :: more =>
          if c == byte ']' then failAhead .trailingComma (c :: more)
          else do
            let (v, r) ← value fuel depth (c :: more)
            items fuel depth false (v :: acc) r
      else if first then do
        let (v, r) ← value fuel depth (b :: rest)
        items fuel depth false (v :: acc) r
      else failAhead .expectedListCommaOrEnd (b :: rest)

/-- A field's name, colon and value, the name's opening quote being next; the field joins
`acc`, replacing one of the same name. -/
def field :
    Nat → Nat → List (String × Doc) → List UInt8 → Parse (List (String × Doc) × List UInt8)
  | 0, _, _, bs => failAt .eofInObject bs
  | fuel + 1, depth, acc, bs => do
    let (k, r) ← string (bs.drop 1)
    match skipBlanks r with
    | [] => failAhead .eofInObject []
    | c :: more =>
      if c != byte ':' then failAhead .expectedColon (c :: more)
      else do
        let (v, r) ← value fuel depth more
        pure ((k, v) :: acc.filter (·.1 != k), r)

/-- The fields of a record after its opening brace; `acc` holds those read, last first,
and `first` says that none was read yet. -/
def fields :
    Nat → Nat → Bool → List (String × Doc) → List UInt8 → Parse (Doc × List UInt8)
  | 0, _, _, _, bs => failAt .eofInObject bs
  | fuel + 1, depth, first, acc, bs =>
    match skipBlanks bs with
    | [] => failAhead .eofInObject []
    | b :: rest =>
      if b == byte '\x7d' then .ok (.record acc.reverse, rest)
      else if b == byte ',' && !first then
        match skipBlanks rest with
        | [] => failAhead .eofInValue []
        | c :: more =>
          if c == byte '"' then do
            let (acc, r) ← field fuel depth acc (c :: more)
            fields fuel depth false acc r
          else if c == byte '\x7d' then failAhead .trailingComma (c :: more)
          else failAhead .keyMustBeString (c :: more)
      else if first then
        if b == byte '"' then do
          let (acc, r) ← field fuel depth acc (b :: rest)
          fields fuel depth false acc r
        else failAhead .keyMustBeString (b :: rest)
      else failAhead .expectedObjectCommaOrEnd (b :: rest)

end

/-- Where a problem lies: the line, counted from one, and the column, the bytes before it on
its line. -/
def position (bs : List UInt8) (offset : Nat) : Nat × Nat :=
  let before := bs.take offset
  let lineStart := before.length - (before.reverse.takeWhile (· != 10)).length
  (1 + (before.take lineStart).count 10, offset - lineStart)

end Reader

/-- Why a line is not a JSON document: the problem, and its line and column. -/
structure ReadError where
  problem : Reader.Problem
  line : Nat
  column : Nat
  deriving Repr

/-- How a reading error is told. -/
def ReadError.message (e : ReadError) : String :=
  s!"{e.problem.message} at line {e.line} column {e.column}"

/-- The document a line of JSON text holds, with nothing but blanks around it. -/
def Doc.read (text : String) : Except ReadError Doc :=
  let bs := text.toUTF8.toList
  let n := bs.length
  let located (f : Reader.Failure) : ReadError :=
    let (line, column) := Reader.position bs (min n (n - f.rest + f.ahead))
    ⟨f.problem, line, column⟩
  match Reader.value (2 * n + 2) 0 bs with
  | .error f => .error (located f)
  | .ok (d, rest) =>
    match Reader.skipBlanks rest with
    | [] => .ok d
    | more => .error (located ⟨.trailingCharacters, more.length, 1⟩)

end Session
end Descriptors
