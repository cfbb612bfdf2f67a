import Descriptors.Binary64
/-! # Shortest decimals of doubles

The shortest decimal that reads back as a given double, nearest to it among those of its
length. A decimal of `n` significant digits that reads back exists exactly when one of the
double's two neighbours on the grid of `n`-digit decimals reads back, since the doubles that
round to it form an interval around it; so the grids of 1, 2, … 17 digits are tried in turn,
and 17 digits always suffice. -/
namespace Descriptors

/-- A decimal `digits * 10 ^ exponent`. -/
structure Decimal where
  digits : Nat
  exponent : Int
  deriving Repr, DecidableEq, Inhabited

namespace Decimal

/-- The number of decimal digits of a number; zero has one. -/
def length (n : Nat) : Nat := (Nat.toDigits 10 n).length

/-- Whether `num / den ≥ 10 ^ p`. -/
def atLeastPow10 (num den : Nat) (p : Int) : Bool :=
  if 0 ≤ p then den * Nat.pow 10 p.toNat ≤ num else den ≤ num * Nat.pow 10 (-p).toNat

/-- The exponent `p` with `10 ^ p ≤ num / den < 10 ^ (p + 1)`, for `num` and `den`
positive. The lengths of the two numbers bound it to one of two values. -/
def decade (num den : Nat) : Int :=
  let p : Int := (length num : Int) - (length den : Int)
  if atLeastPow10 num den p then p else p - 1

/-- The same decimal without the zeros at the end of its digits; at most `fuel` of them go. -/
def trim : Nat → Decimal → Decimal
  | 0, d => d
  | fuel + 1, d =>
    if d.digits != 0 && d.digits % 10 == 0 then trim fuel ⟨d.digits / 10, d.exponent + 1⟩
    else d

/-- The double a positive decimal reads as. -/
def read? (d : Decimal) : Option Binary64 :=
  if 0 ≤ d.exponent then Binary64.ofRatio false (d.digits * Nat.pow 10 d.exponent.toNat) 1 0
  else Binary64.ofRatio false d.digits (Nat.pow 10 (-d.exponent).toNat) 0

/-- The decimal of `n` significant digits nearest to `num / den` that reads as `x`, if one
does: the two neighbours of `num / den` on that grid are tried, the nearer first, a tie
going to the even digits. -/
def onGrid (x : Binary64) (num den : Nat) (p : Int) (n : Nat) : Option Decimal :=
  let unit := p - n + 1
  let (a, b) := if 0 ≤ unit then (num, den * Nat.pow 10 unit.toNat)
    else (num * Nat.pow 10 (-unit).toNat, den)
  let lo : Decimal := ⟨a / b, unit⟩
  let hi : Decimal := ⟨a / b + 1, unit⟩
  let r := a % b
  let hits (d : Decimal) : Bool := d.read? == some x
  let loFirst := 2 * r < b || (2 * r == b && (a / b) % 2 == 0)
  let order := if r == 0 then [lo] else if loFirst then [lo, hi] else [hi, lo]
  order.find? hits

/-- The shortest decimal that reads as the magnitude of the double `x`, which is not a zero,
nearest to it among those of its length. -/
def shortest (x : Binary64) : Decimal :=
  let x := { x with negative := false }
  let (num, den) := x.ratio
  let p := decade num den
  let found := (List.range 17).findSome? fun i => onGrid x num den p (i + 1)
  let d := found.getD ⟨num / den, 0⟩
  trim (length d.digits) d

end Decimal
end Descriptors
