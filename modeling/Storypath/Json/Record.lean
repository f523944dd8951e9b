import Storypath.Json.Value

/-! Reading typed data out of JSON. A record is an object with known keys, or an array of its
fields in order; a variant carries its tag among its members, or in front of its fields. -/
namespace Storypath.Json.Value

def maxNesting : Nat := 127

/-- Whether a value can be kept for later: its strings have texts, its numbers are in range,
and it is nested at most so deep. -/
def keepable : Nat → Value → Bool
  | _, .null | _, .bool _ => true
  | _, .number n => n.inRange
  | _, .string s => s.isSome
  | 0, .array _ | 0, .object _ => false
  | room + 1, .array items => items.all (keepable room)
  | room + 1, .object members => members.all fun (k, v) => k.isSome && keepable room v

def text? : Value → Option String
  | .string s => s
  | _ => none

def nat? : Value → Option Nat
  | .number n => n.nat?
  | _ => none

def bool? : Value → Option Bool
  | .bool b => some b
  | _ => none

def list? {α : Type} (read? : Value → Option α) : Value → Option (List α)
  | .array items => items.mapM read?
  | _ => none

/-- The one member with a key, if there is one; a key that is repeated has none. -/
def member? (key : String) (members : List (Option String × Value)) : Option (Option Value) :=
  match members.filter fun m => m.1 == some key with
  | [] => some none
  | [(_, v)] => some (some v)
  | _ => none

/-- The fields of a record, each absent or there. Unknown members are passed over, but every
key must have a text; an array may lack its last fields. -/
def fields? (keys : List String) : Value → Option (List (Option Value))
  | .array items =>
    if items.length ≤ keys.length then
      some (items.map some ++ List.replicate (keys.length - items.length) none)
    else none
  | .object members =>
    if members.all fun m => m.1.isSome then keys.mapM fun k => member? k members else none
  | _ => none

/-- A variant: its tag, and a record of the rest. The whole of it must be fit to be kept, as
the tag may come last. -/
def variant? (room : Nat) (tag : String) (v : Value) : Option (String × Value) :=
  if keepable room v then
    match v with
    | .array (t :: items) => t.text?.map fun t => (t, .array items)
    | .object members =>
      match member? tag members with
      | some (some t) =>
        t.text?.map fun t => (t, .object (members.filter fun m => m.1 != some tag))
      | _ => none
    | _ => none
  else none

end Storypath.Json.Value
