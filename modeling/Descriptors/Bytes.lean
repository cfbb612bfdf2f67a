/-! Byte strings as lists of octets. Inputs name bytes as UTF-8 text, as hex pairs, or as
the counting pattern whose `i`-th byte is `i % 251`. Answers show up to 4096 bytes as
lowercase hex and longer strings by their length and FNV-1a 64 digest. -/
namespace Descriptors
namespace Bytes

/-- The counting pattern: byte `i` is `i % 251`. -/
def pattern (n : Nat) : List UInt8 :=
  (List.range n).map fun i => (i % 251).toUInt8

/-- The UTF-8 encoding of a text. -/
def ofText (s : String) : List UInt8 :=
  s.toUTF8.toList

/-- The value of one hex digit, either case. -/
def hexValue? (c : Char) : Option Nat :=
  if '0' ≤ c ∧ c ≤ '9' then some (c.toNat - '0'.toNat)
  else if 'a' ≤ c ∧ c ≤ 'f' then some (c.toNat - 'a'.toNat + 10)
  else if 'A' ≤ c ∧ c ≤ 'F' then some (c.toNat - 'A'.toNat + 10)
  else none

/-- Why hex text gives no bytes. -/
inductive HexFault where
  /-- An odd number of bytes cannot be cut into pairs. -/
  | oddLength
  /-- A cut between two pairs falls inside a character. -/
  | splitCharacter
  /-- A pair is not a number in base 16. -/
  | notHex
  deriving Repr, DecidableEq

/-- Whether a byte continues a UTF-8 character rather than starting one. -/
def isContinuation (b : UInt8) : Bool := b &&& 0xC0 == 0x80

/-- The value of a byte as an ASCII hex digit. -/
def hexByte? (b : UInt8) : Option Nat := hexValue? (Char.ofNat b.toNat)

/-- The value of a pair of bytes read as an unsigned base-16 number: two digits, or a plus
sign and one digit. -/
def pairValue? (hi lo : UInt8) : Option Nat :=
  if hi == 43 then hexByte? lo
  else match hexByte? hi, hexByte? lo with
    | some h, some l => some (h * 16 + l)
    | _, _ => none

/-- Reads the pairs of a byte string onto an accumulator held in reverse. The text is cut
after every second byte, so a cut inside a character fails before that pair is read. -/
def pairsOnto : List UInt8 → List UInt8 → Except HexFault (List UInt8)
  | acc, [] => .ok acc.reverse
  | acc, hi :: lo :: rest =>
    if (rest.head?.map isContinuation).getD false then .error .splitCharacter
    else match pairValue? hi lo with
      | some v => pairsOnto (v.toUInt8 :: acc) rest
      | none => .error .notHex
  | _, [_] => .error .oddLength

/-- The bytes written as hex pairs of the text's UTF-8 bytes. -/
def ofHex (s : String) : Except HexFault (List UInt8) :=
  let bs := ofText s
  if bs.length % 2 == 1 then .error .oddLength else pairsOnto [] bs

/-- A lowercase hex digit. -/
def hexDigit (n : Nat) : Char :=
  if n < 10 then Char.ofNat (48 + n) else Char.ofNat (87 + n)

/-- Lowercase hex, two digits per byte. -/
def toHex (bs : List UInt8) : String :=
  bs.foldl (fun s b => (s.push (hexDigit (b.toNat / 16))).push (hexDigit (b.toNat % 16))) ""

/-- Sixteen lowercase hex digits of a word, most significant first. -/
def word64Hex (x : UInt64) : String :=
  String.ofList ((List.range 16).reverse.map fun i => hexDigit ((x.toNat / Nat.pow 16 i) % 16))

def fnvOffset : UInt64 := 0xcbf29ce484222325

def fnvPrime : UInt64 := 0x100000001b3

/-- FNV-1a with 64-bit words: xor in each byte, then multiply by the prime. -/
def fnv1a64 (bs : List UInt8) : UInt64 :=
  bs.foldl (fun h b => (h ^^^ b.toUInt64) * fnvPrime) fnvOffset

/-- How an answer shows a byte string. -/
inductive Shown where
  | hex (text : String)
  | digest (len : Nat) (fnv : String)
  deriving Repr, DecidableEq

/-- Up to 4096 bytes are shown whole; longer strings by length and digest. -/
def display (bs : List UInt8) : Shown :=
  if bs.length ≤ 4096 then .hex (toHex bs)
  else .digest bs.length (word64Hex (fnv1a64 bs))

theorem pattern_length (n : Nat) : (pattern n).length = n := by
  simp [pattern]

end Bytes
end Descriptors
