/-! # Finite binary64 numbers

A finite IEEE 754 double as its sign and the exact magnitude `mantissa * 2 ^ exponent`,
with rounding of exact ratios to the nearest double, a tie going to the even mantissa. The
arithmetic a reader of JSON numbers does (a product or quotient of two doubles, each
rounded once) is rounding of the exact result, so it is computed here in natural numbers and
no runtime float is involved. -/
namespace Descriptors

/-- A finite double: the value is `mantissa * 2 ^ exponent`, negated when `negative`. It is
kept in its one canonical form: a normal number has `2 ^ 52 ≤ mantissa < 2 ^ 53` and
`-1074 ≤ exponent ≤ 971`; a subnormal number or a zero has `mantissa < 2 ^ 52` and exponent
`-1074`. -/
structure Binary64 where
  negative : Bool
  mantissa : Nat
  exponent : Int
  deriving Repr, DecidableEq, Inhabited

namespace Binary64

/-- The exponent of the subnormal numbers and of the least normal binade. -/
def minExponent : Int := -1074

/-- The exponent of the greatest binade. -/
def maxExponent : Int := 971

/-- The bits of a mantissa. -/
def precision : Nat := 53

/-- A zero of the given sign. -/
def zero (negative : Bool) : Binary64 := ⟨negative, 0, minExponent⟩

/-- Whether the number is a zero of either sign. -/
def isZero (x : Binary64) : Bool := x.mantissa == 0

/-- The number with its sign flipped. -/
def neg (x : Binary64) : Binary64 := { x with negative := !x.negative }

/-- Whether `num / den ≥ 2 ^ k`. -/
def atLeastPow2 (num den : Nat) (k : Int) : Bool :=
  if 0 ≤ k then den * Nat.pow 2 k.toNat ≤ num else den ≤ num * Nat.pow 2 (-k).toNat

/-- The exponent `k` with `2 ^ k ≤ num / den < 2 ^ (k + 1)`, for `num` and `den` positive.
The logarithms of the two numbers bound it to one of two values. -/
def binade (num den : Nat) : Int :=
  let k : Int := (Nat.log2 num : Int) - (Nat.log2 den : Int)
  if atLeastPow2 num den k then k else k - 1

/-- The quotient `num / den` rounded to the nearest natural number, a tie going to the even
one. -/
def roundHalfEven (num den : Nat) : Nat :=
  let q := num / den
  let r := num % den
  if den < 2 * r || (2 * r == den && q % 2 == 1) then q + 1 else q

/-- The double nearest to `num / den * 2 ^ shift`, negated when `negative`; a tie goes to
the even mantissa. `none` when the ratio lies beyond the greatest double, where rounding
gives an infinity. A zero ratio gives a zero of the given sign. -/
def ofRatio (negative : Bool) (num den : Nat) (shift : Int) : Option Binary64 :=
  if num = 0 || den = 0 then some (zero negative)
  else
    let e := max (binade num den + shift - (precision - 1 : Nat)) minExponent
    let d := shift - e
    let m := if 0 ≤ d then roundHalfEven (num * Nat.pow 2 d.toNat) den
      else roundHalfEven num (den * Nat.pow 2 (-d).toNat)
    let (m, e) := if m = Nat.pow 2 precision then (Nat.pow 2 (precision - 1), e + 1) else (m, e)
    if maxExponent < e then none else some ⟨negative, m, e⟩

/-- The double nearest to a natural number. -/
def ofNat (n : Nat) : Binary64 := (ofRatio false n 1 0).getD (zero false)

/-- The double nearest to `10 ^ k`. -/
def pow10 (k : Nat) : Binary64 := (ofRatio false (Nat.pow 10 k) 1 0).getD (zero false)

/-- The numerator and denominator of the magnitude, over a power of two: `(m, 2 ^ (-e))`
for a negative exponent, `(m * 2 ^ e, 1)` otherwise. -/
def ratio (x : Binary64) : Nat × Nat :=
  if 0 ≤ x.exponent then (x.mantissa * Nat.pow 2 x.exponent.toNat, 1)
  else (x.mantissa, Nat.pow 2 (-x.exponent).toNat)

/-- The rounded product; `none` when it overflows. -/
def mul (x y : Binary64) : Option Binary64 :=
  ofRatio (x.negative != y.negative) (x.mantissa * y.mantissa) 1 (x.exponent + y.exponent)

/-- The rounded quotient by a number that is not zero; `none` when it overflows. -/
def div (x y : Binary64) : Option Binary64 :=
  ofRatio (x.negative != y.negative) x.mantissa y.mantissa (x.exponent - y.exponent)

end Binary64
end Descriptors
