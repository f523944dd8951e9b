import Storypath.Number.Digits
import Storypath.Number.Double
import Storypath.Text.DecimalDigit
import Storypath.Text.WhiteSpace

/-! Durations as a script writes them: `0`, or numbers each followed by a unit, as in `1m30s`.
They are added up in double precision and rounded to whole nanoseconds. -/
namespace Storypath

inductive TimeUnit where
  | nanosecond
  | microsecond
  | millisecond
  | second
  | minute
  | hour
  deriving DecidableEq

def TimeUnit.nanoseconds : TimeUnit → Nat
  | .nanosecond => 1
  | .microsecond => 1000
  | .millisecond => 1000000
  | .second => 1000000000
  | .minute => 60000000000
  | .hour => 3600000000000

def TimeUnit.read? : List Char → Option (TimeUnit × List Char)
  | 'n' :: 's' :: r => some (.nanosecond, r)
  | 'u' :: 's' :: r | '\u00b5' :: 's' :: r | '\u03bc' :: 's' :: r => some (.microsecond, r)
  | 'm' :: 's' :: r => some (.millisecond, r)
  | 's' :: r => some (.second, r)
  | 'm' :: r => some (.minute, r)
  | 'h' :: r => some (.hour, r)
  | _ => none

structure DurationPart where
  whole : List Char
  fraction : List Char
  unit : TimeUnit
  deriving DecidableEq

inductive DurationFlaw where
  | shape
  | number
  | range
  deriving DecidableEq

def DurationFlaw.reason : DurationFlaw → String
  | .shape => "expected <number><unit> pairs"
  | .number => "bad number"
  | .range => "out of range"

structure DurationFault where
  literal : String
  flaw : DurationFlaw
  deriving DecidableEq

namespace DurationFault

def code : String := "DELIVERY_INVALID_DURATION"

def message (f : DurationFault) : String :=
  s!"Invalid @wait duration \"{f.literal}\": {f.flaw.reason}."

end DurationFault

namespace DurationPart

def readFraction : List Char → List Char × List Char
  | '.' :: r => (r.takeWhile Text.isDecimalDigit, r.dropWhile Text.isDecimalDigit)
  | r => ([], r)

def read? (cs : List Char) : Option (DurationPart × List Char) :=
  let whole := cs.takeWhile Text.isDecimalDigit
  let (fraction, rest) := readFraction (cs.dropWhile Text.isDecimalDigit)
  if whole.isEmpty && fraction.isEmpty then none
  else (TimeUnit.read? rest).map fun (unit, rest) => (⟨whole, fraction, unit⟩, rest)

def digitsValue? (cs : List Char) : Option Nat :=
  if cs.all Char.isDigit then some (Digits.value cs) else none

def nanoseconds? (p : DurationPart) : Option Double :=
  (digitsValue? (p.whole ++ p.fraction)).map fun n =>
    (Double.ofQuotient n (Nat.pow 10 p.fraction.length)).scale p.unit.nanoseconds

end DurationPart

namespace Duration

theorem length_readFraction_le (cs : List Char) :
    (DurationPart.readFraction cs).2.length ≤ cs.length := by
  unfold DurationPart.readFraction
  split
  · exact Nat.le_succ_of_le (List.dropWhile_sublist _).length_le
  · exact Nat.le_refl _

theorem length_unit_lt {cs rest : List Char} {u : TimeUnit}
    (h : TimeUnit.read? cs = some (u, rest)) : rest.length < cs.length := by
  unfold TimeUnit.read? at h
  split at h <;> simp_all only [Option.some.injEq, Prod.mk.injEq, reduceCtorEq] <;>
    simp only [← h.2, List.length_cons] <;> omega

theorem length_part_lt {cs rest : List Char} {p : DurationPart}
    (h : DurationPart.read? cs = some (p, rest)) : rest.length < cs.length := by
  simp only [DurationPart.read?] at h
  split at h
  · simp at h
  · obtain ⟨⟨u, r⟩, hu, hr⟩ := Option.map_eq_some_iff.1 h
    simp only [Prod.mk.injEq] at hr
    have h₁ := length_unit_lt hu
    have h₂ := length_readFraction_le (cs.dropWhile Text.isDecimalDigit)
    have h₃ := (List.dropWhile_sublist (p := Text.isDecimalDigit) (l := cs)).length_le
    rw [hr.2] at h₁
    omega

def parts? (cs : List Char) (before : Array DurationPart) : Option (List DurationPart) :=
  match _h : DurationPart.read? cs with
  | none => none
  | some (p, []) => some (before.push p).toList
  | some (p, c :: rest) => parts? (c :: rest) (before.push p)
termination_by cs.length
decreasing_by exact length_part_lt _h

def unsigned (literal : String) : List Char :=
  match Text.trim literal.toList with
  | '+' :: r => r
  | r => r

def maximum : Nat := Nat.pow 2 64 - 1

def total? (parts : List DurationPart) : Option Double :=
  parts.foldlM (fun sum p => p.nanoseconds?.map sum.add) (.finite 0)

/-- The nanoseconds that a literal means. A sum of up to 2^64 is taken, and counts as the
greatest duration there. -/
def parse (literal : String) : Except DurationFault Nat :=
  if unsigned literal = ['0'] then .ok 0
  else
    match parts? (unsigned literal) #[] with
    | none => .error ⟨literal, .shape⟩
    | some parts =>
      match total? parts with
      | none => .error ⟨literal, .number⟩
      | some sum =>
        match sum.round? with
        | some n =>
          if sum.atMost (Nat.pow 2 64) then .ok (min n maximum) else .error ⟨literal, .range⟩
        | none => .error ⟨literal, .range⟩

end Duration
end Storypath
