import Storypath.Delivery.Duration
import Storypath.Delivery.Message
import Storypath.Script.Statement

/-! The plan of a delivery: one message for each statement that shows something, each due when
the one before it is, the pauses between them are over, and its own text has been typed. -/
namespace Storypath

def typingMilliseconds (count : Nat) : Nat :=
  if count ≤ 4 then 2000
  else if count ≤ 9 then 2500
  else if count ≤ 14 then 3000
  else 4000

def typingDelay (count : Nat) : Nat := typingMilliseconds count * 1000000

def Button.ofBranches (branches : List Branch) : List Button :=
  (branches.takeWhile (·.buttonText != "")).map fun b =>
    ⟨b.buttonText, b.targetLabel, b.buttonText⟩

def Statement.effect : Statement → String ⊕ Message
  | .pause duration => .inl duration
  | .text t => .inr (.text t)
  | .choice prompt branches => .inr (.buttons prompt prompt (Button.ofBranches branches))

namespace Delivery

def planFrom (offset : Nat) (before : Array Scheduled) :
    List Statement → Except DurationFault (List Scheduled)
  | [] => .ok before.toList
  | s :: rest =>
    match s.effect with
    | .inl literal =>
      match Duration.parse literal with
      | .ok pause => planFrom (offset + pause) before rest
      | .error fault => .error fault
    | .inr message =>
      let due := typingDelay s.displayText.length + offset
      planFrom due (before.push ⟨due, message⟩) rest

def plan (statements : List Statement) : Except DurationFault (List Scheduled) :=
  planFrom 0 #[] statements

end Delivery
end Storypath
