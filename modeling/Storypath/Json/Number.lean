import Storypath.Number.Digits
import Storypath.Number.Double

/-! Numbers of JSON, kept as they are written. -/
namespace Storypath.Json

/-- A number: its sign, the digits before and after the point, and the exponent with its
sign. A number without a point has no digits after it. -/
structure Number where
  negative : Bool
  whole : List Char
  fraction : List Char
  exponent : Option (Bool × List Char)
  deriving DecidableEq

namespace Number

def ofNat (n : Nat) : Number := ⟨false, Nat.toDigits 10 n, [], none⟩

def nat? (n : Number) : Option Nat :=
  if !n.negative && n.fraction.isEmpty && n.exponent.isNone &&
      Digits.value n.whole < Nat.pow 2 64 then
    some (Digits.value n.whole)
  else none

def leading (value : Nat) : List Char → Nat × Nat
  | [] => (value, 0)
  | c :: cs =>
    if 10 * value + Digits.digit c < Nat.pow 2 64 then leading (10 * value + Digits.digit c) cs
    else (value, cs.length + 1)

def maxExponent : Nat := Nat.pow 2 31 - 1

/-- Whether a coefficient times a power of ten stays finite in double precision when both
are rounded before they are multiplied. -/
def productFits (coefficient exponent : Nat) : Bool :=
  coefficient == 0 || (exponent ≤ 308 && Double.significant
    (Double.significant coefficient 1 * Double.significant (Nat.pow 10 exponent) 1) 1 <
      Nat.pow 2 1024)

/-- Whether a number is within the range of double precision. Digits beyond 64 bits are not
looked at, only counted. -/
def inRange (n : Number) : Bool :=
  let (high, left) := leading 0 n.whole
  let (coefficient, unread) := leading high n.fraction
  let shift : Int := left - (n.fraction.length - unread)
  match n.exponent with
  | none =>
    (n.fraction.isEmpty && left == 0) || shift < 0 || productFits coefficient shift.toNat
  | some (negative, digits) =>
    let e := Digits.value digits
    if e ≤ maxExponent then
      let total := if negative then shift - e else shift + e
      total < 0 || productFits coefficient total.toNat
    else coefficient == 0 || negative

end Number
end Storypath.Json
