import Storypath.Json.Number

/-! The tokens of JSON, how each is written, and how a text is cut into them. -/
namespace Storypath.Json

/-- A token of JSON. A string is without text if its escapes hold half a surrogate pair: such
a string can be passed over but not read. -/
inductive Token where
  | openArray
  | closeArray
  | openObject
  | closeObject
  | comma
  | colon
  | null
  | bool (value : Bool)
  | number (value : Number)
  | string (text : Option String)
  deriving DecidableEq

def hexPair (c : Char) : List Char :=
  [Nat.digitChar (c.toNat / 16), Nat.digitChar (c.toNat % 16)]

def escapedChar (c : Char) : List Char :=
  if c == '"' || c == '\\' then ['\\', c]
  else if c == '\x08' then ['\\', 'b']
  else if c == '\x0c' then ['\\', 'f']
  else if c == '\n' then ['\\', 'n']
  else if c == '\r' then ['\\', 'r']
  else if c == '\t' then ['\\', 't']
  else if c < ' ' then '\\' :: 'u' :: '0' :: '0' :: hexPair c
  else [c]

def Number.written (n : Number) : List Char :=
  (if n.negative then ['-'] else []) ++ n.whole ++
    (if n.fraction.isEmpty then [] else '.' :: n.fraction) ++
    match n.exponent with
    | none => []
    | some (negative, digits) => 'e' :: (if negative then '-' :: digits else digits)

def Token.written : Token → List Char
  | .openArray => ['[']
  | .closeArray => [']']
  | .openObject => ['{']
  | .closeObject => ['}']
  | .comma => [',']
  | .colon => [':']
  | .null => "null".toList
  | .bool true => "true".toList
  | .bool false => "false".toList
  | .number n => n.written
  | .string (some s) => '"' :: s.toList.flatMap escapedChar ++ ['"']
  | .string none => "\"\\ud800\"".toList

/-- A string that is being read, latest character first: whether half a pair has been lost,
and the first half of a pair that waits for the second. -/
structure Draft where
  chars : List Char
  broken : Bool
  high : Option Nat

namespace Draft

def empty : Draft := ⟨[], false, none⟩

def push (d : Draft) (c : Char) : Draft := ⟨c :: d.chars, d.broken || d.high.isSome, none⟩

def isHigh (n : Nat) : Bool := 0xD800 ≤ n && n ≤ 0xDBFF

def isLow (n : Nat) : Bool := 0xDC00 ≤ n && n ≤ 0xDFFF

def pushCode (d : Draft) (n : Nat) : Draft :=
  if isLow n then
    match d.high with
    | some h =>
      ⟨Char.ofNat (0x10000 + (h - 0xD800) * 0x400 + (n - 0xDC00)) :: d.chars, d.broken, none⟩
    | none => { d with broken := true }
  else if isHigh n then { d with broken := d.broken || d.high.isSome, high := some n }
  else d.push (Char.ofNat n)

def text? (d : Draft) : Option String :=
  if d.broken || d.high.isSome then none else some (String.ofList d.chars.reverse)

end Draft

inductive NumberStage where
  | sign
  | zero
  | whole
  | point
  | fraction
  | mark
  | exponentSign
  | exponent

structure NumberDraft where
  negative : Bool
  whole : List Char
  fraction : List Char
  exponent : Option (Bool × List Char)

def NumberDraft.number (d : NumberDraft) : Number :=
  ⟨d.negative, d.whole.reverse, d.fraction.reverse,
    d.exponent.map fun (s, ds) => (s, ds.reverse)⟩

inductive Mode where
  | gap
  | word (left : List Char) (token : Token)
  | number (stage : NumberStage) (draft : NumberDraft)
  | string (draft : Draft)
  | escape (draft : Draft)
  | hex (draft : Draft) (left value : Nat)

def hexValue? (c : Char) : Option Nat :=
  if '0' ≤ c && c ≤ '9' then some (c.toNat - '0'.toNat)
  else if 'a' ≤ c && c ≤ 'f' then some (c.toNat - 'a'.toNat + 10)
  else if 'A' ≤ c && c ≤ 'F' then some (c.toNat - 'A'.toNat + 10)
  else none

namespace Mode

def inGap (c : Char) : Option (List Token × Mode) :=
  if c == ' ' || c == '\t' || c == '\n' || c == '\r' then some ([], gap)
  else if c == '[' then some ([.openArray], gap)
  else if c == ']' then some ([.closeArray], gap)
  else if c == '{' then some ([.openObject], gap)
  else if c == '}' then some ([.closeObject], gap)
  else if c == ',' then some ([.comma], gap)
  else if c == ':' then some ([.colon], gap)
  else if c == '"' then some ([], string .empty)
  else if c == 'n' then some ([], word ['u', 'l', 'l'] .null)
  else if c == 't' then some ([], word ['r', 'u', 'e'] (.bool true))
  else if c == 'f' then some ([], word ['a', 'l', 's', 'e'] (.bool false))
  else if c == '-' then some ([], number .sign ⟨true, [], [], none⟩)
  else if c == '0' then some ([], number .zero ⟨false, ['0'], [], none⟩)
  else if c.isDigit then some ([], number .whole ⟨false, [c], [], none⟩)
  else none

def endNumber (d : NumberDraft) (c : Char) : Option (List Token × Mode) :=
  (inGap c).map fun (tokens, mode) => (.number d.number :: tokens, mode)

def afterWhole (d : NumberDraft) (c : Char) : Option (List Token × Mode) :=
  if c == '.' then some ([], number .point d)
  else if c == 'e' || c == 'E' then some ([], number .mark d)
  else endNumber d c

def inNumber (stage : NumberStage) (d : NumberDraft) (c : Char) : Option (List Token × Mode) :=
  match stage with
  | .sign =>
    if c == '0' then some ([], number .zero { d with whole := ['0'] })
    else if c.isDigit then some ([], number .whole { d with whole := [c] })
    else none
  | .zero => if c.isDigit then none else afterWhole d c
  | .whole =>
    if c.isDigit then some ([], number .whole { d with whole := c :: d.whole })
    else afterWhole d c
  | .point =>
    if c.isDigit then some ([], number .fraction { d with fraction := [c] }) else none
  | .fraction =>
    if c.isDigit then some ([], number .fraction { d with fraction := c :: d.fraction })
    else if c == 'e' || c == 'E' then some ([], number .mark d)
    else endNumber d c
  | .mark =>
    if c == '+' then some ([], number .exponentSign { d with exponent := some (false, []) })
    else if c == '-' then some ([], number .exponentSign { d with exponent := some (true, []) })
    else if c.isDigit then some ([], number .exponent { d with exponent := some (false, [c]) })
    else none
  | .exponentSign | .exponent =>
    if c.isDigit then
      some ([], number .exponent
        { d with exponent := d.exponent.map fun (s, ds) => (s, c :: ds) })
    else
      match stage with
      | .exponent => endNumber d c
      | _ => none

def afterBackslash (d : Draft) (c : Char) : Option Mode :=
  if c == '"' || c == '\\' || c == '/' then some (string (d.push c))
  else if c == 'b' then some (string (d.push '\x08'))
  else if c == 'f' then some (string (d.push '\x0c'))
  else if c == 'n' then some (string (d.push '\n'))
  else if c == 'r' then some (string (d.push '\r'))
  else if c == 't' then some (string (d.push '\t'))
  else if c == 'u' then some (hex d 4 0)
  else none

def step (mode : Mode) (c : Char) : Option (List Token × Mode) :=
  match mode with
  | gap => inGap c
  | word left token =>
    match left with
    | [] => none
    | [l] => if c == l then some ([token], gap) else none
    | l :: left => if c == l then some ([], word left token) else none
  | number stage d => inNumber stage d c
  | string d =>
    if c == '"' then some ([.string d.text?], gap)
    else if c == '\\' then some ([], escape d)
    else if c < ' ' then none
    else some ([], string (d.push c))
  | escape d => (afterBackslash d c).map fun mode => ([], mode)
  | hex d left value =>
    (hexValue? c).map fun v =>
      if left ≤ 1 then ([], string (d.pushCode (16 * value + v)))
      else ([], hex d (left - 1) (16 * value + v))

def finish : Mode → Option (List Token)
  | gap => some []
  | number .zero d | number .whole d | number .fraction d | number .exponent d =>
    some [.number d.number]
  | _ => none

end Mode

def tokensFrom (mode : Mode) (before : Array Token) : List Char → Option (List Token)
  | [] => mode.finish.map fun tokens => before.toList ++ tokens
  | c :: cs =>
    match mode.step c with
    | none => none
    | some (tokens, mode) => tokensFrom mode (before.appendList tokens) cs

def tokens? (text : String) : Option (List Token) := tokensFrom .gap #[] text.toList

end Storypath.Json
