import Storypath.Json.Token

/-! Values of JSON: reading and writing them, on one line or indented. -/
namespace Storypath.Json

/-- A value. The members of an object keep their order and may repeat a key. -/
inductive Value where
  | null
  | bool (value : Bool)
  | number (value : Number)
  | string (text : Option String)
  | array (items : List Value)
  | object (members : List (Option String × Value))
  deriving Inhabited

namespace Value

def ofString (s : String) : Value := .string (some s)

def ofNat (n : Nat) : Value := .number (.ofNat n)

def ofMembers (members : List (String × Value)) : Value :=
  .object (members.map fun (k, v) => (some k, v))

mutual

def tokens : Value → List Token
  | .null => [.null]
  | .bool b => [.bool b]
  | .number n => [.number n]
  | .string s => [.string s]
  | .array items => .openArray :: itemTokens items
  | .object members => .openObject :: memberTokens members

def itemTokens : List Value → List Token
  | [] => [.closeArray]
  | [v] => v.tokens ++ [.closeArray]
  | v :: vs => v.tokens ++ .comma :: itemTokens vs

def memberTokens : List (Option String × Value) → List Token
  | [] => [.closeObject]
  | [(k, v)] => .string k :: .colon :: v.tokens ++ [.closeObject]
  | (k, v) :: ms => .string k :: .colon :: v.tokens ++ .comma :: memberTokens ms

end

def render (v : Value) : String := String.ofList (v.tokens.flatMap Token.written)

def newLine (level : Nat) : List Char := '\n' :: List.replicate (2 * level) ' '

mutual

def indented (level : Nat) : Value → List Char
  | .array [] => ['[', ']']
  | .array items => '[' :: indentedItems (level + 1) items ++ newLine level ++ [']']
  | .object [] => ['{', '}']
  | .object members => '{' :: indentedMembers (level + 1) members ++ newLine level ++ ['}']
  | .null => Token.null.written
  | .bool b => (Token.bool b).written
  | .number n => (Token.number n).written
  | .string s => (Token.string s).written

def indentedItems (level : Nat) : List Value → List Char
  | [] => []
  | [v] => newLine level ++ indented level v
  | v :: vs => newLine level ++ indented level v ++ ',' :: indentedItems level vs

def indentedMembers (level : Nat) : List (Option String × Value) → List Char
  | [] => []
  | [(k, v)] => newLine level ++ (Token.string k).written ++ ':' :: ' ' :: indented level v
  | (k, v) :: ms =>
    newLine level ++ (Token.string k).written ++ ':' :: ' ' :: indented level v ++
      ',' :: indentedMembers level ms

end

def renderIndented (v : Value) : String := String.ofList (indented 0 v)

end Value

/-- A value around the place that is read: an array with the items before it, or an object
with the members before it and the key of this one, latest first. -/
inductive Frame where
  | array (before : List Value)
  | object (before : List (Option String × Value)) (key : Option String)

inductive Build where
  | value (frames : List Frame)
  | firstItem (frames : List Frame)
  | nextItem (before : List Value) (frames : List Frame)
  | firstKey (frames : List Frame)
  | key (before : List (Option String × Value)) (frames : List Frame)
  | colon (before : List (Option String × Value)) (key : Option String) (frames : List Frame)
  | nextMember (before : List (Option String × Value)) (frames : List Frame)
  | whole (value : Value)

namespace Build

def complete (v : Value) : List Frame → Build
  | [] => .whole v
  | .array before :: frames => .nextItem (v :: before) frames
  | .object before k :: frames => .nextMember ((k, v) :: before) frames

def begin (frames : List Frame) : Token → Option Build
  | .null => some (complete .null frames)
  | .bool b => some (complete (.bool b) frames)
  | .number n => some (complete (.number n) frames)
  | .string s => some (complete (.string s) frames)
  | .openArray => some (.firstItem frames)
  | .openObject => some (.firstKey frames)
  | _ => none

def step : Build → Token → Option Build
  | .value frames, t => begin frames t
  | .firstItem frames, .closeArray => some (complete (.array []) frames)
  | .firstItem frames, t => begin (.array [] :: frames) t
  | .nextItem before frames, .comma => some (.value (.array before :: frames))
  | .nextItem before frames, .closeArray => some (complete (.array before.reverse) frames)
  | .firstKey frames, .closeObject => some (complete (.object []) frames)
  | .firstKey frames, .string k => some (.colon [] k frames)
  | .key before frames, .string k => some (.colon before k frames)
  | .colon before k frames, .colon => some (.value (.object before k :: frames))
  | .nextMember before frames, .comma => some (.key before frames)
  | .nextMember before frames, .closeObject => some (complete (.object before.reverse) frames)
  | _, _ => none

def run (b : Build) : List Token → Option Build
  | [] => some b
  | t :: ts => (b.step t).bind fun b => b.run ts

end Build

def Value.ofTokens? (tokens : List Token) : Option Value :=
  match (Build.value []).run tokens with
  | some (.whole v) => some v
  | _ => none

def Value.parse? (text : String) : Option Value := (tokens? text).bind Value.ofTokens?

end Storypath.Json
