/-! What a reader looks for in a script: a label as it stands, or the label that a reference
means. -/
namespace Storypath

structure Target where
  written : String
  label : String
  deriving DecidableEq

namespace Target

def ofLabel (label : String) : Target := ⟨label, label⟩

def bareName (reference : String) : String :=
  match reference.toList with
  | '*' :: name => String.ofList name
  | _ => reference

def ofReference (reference : String) : Target := ⟨reference, "*" ++ bareName reference⟩

def isMetBy (t : Target) (literal : String) : Bool := literal == t.label

end Target
end Storypath
