/-! Nonnegative numbers of double precision, and exact arithmetic on them. A finite one is a
whole number of units of 2^-1074 with at most 53 significant bits; every operation is the exact
result rounded once, to the nearest such number and to the even one of two that are as near. -/
namespace Storypath

inductive Double where
  | finite (units : Nat)
  | infinite
  deriving DecidableEq

namespace Double

/-- The whole number nearest to a quotient, the even one of two that are as near. -/
def nearest (num den : Nat) : Nat :=
  if 2 * (num % den) < den || (2 * (num % den) == den && num / den % 2 == 0) then num / den
  else num / den + 1

/-- The distance between neighbours with 53 significant bits, as a power of two, at a number
whose whole part is `n`. -/
def spacing (n : Nat) : Nat := Nat.pow 2 (n.log2 - 52)

/-- A quotient rounded to a whole number with at most 53 significant bits. -/
def significant (num den : Nat) : Nat :=
  let step := spacing (num / den)
  nearest num (den * step) * step

def one : Nat := Nat.pow 2 1074

def bound : Nat := Nat.pow 2 2098

def ofUnits (num den : Nat) : Double :=
  if significant num den < bound then .finite (significant num den) else .infinite

def ofQuotient (num den : Nat) : Double := ofUnits (num * one) den

def add : Double → Double → Double
  | .finite a, .finite b => ofUnits (a + b) 1
  | _, _ => .infinite

def scale : Double → Nat → Double
  | .finite a, k => ofUnits (a * k) 1
  | .infinite, _ => .infinite

def round? : Double → Option Nat
  | .finite a => some ((a + one / 2) / one)
  | .infinite => none

def atMost : Double → Nat → Bool
  | .finite a, n => a ≤ n * one
  | .infinite, _ => false

end Double
end Storypath
