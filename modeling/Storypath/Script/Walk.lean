import Storypath.Script.Item
import Storypath.Script.Target

/-! A walk through the constructs of a script in search of a segment. Statements are gathered
from the start; meeting the target brings back those that were there at the last jump, a jump
while gathering sets a new target, and a choice or an end closes the segment. -/
namespace Storypath

/-- A walk: the statements gathered and those kept at the last jump, both latest first, the
target, whether its label has been met since the last jump, and whether any target has been. -/
structure Walk where
  gathered : List Statement
  kept : List Statement
  collecting : Bool
  matched : Bool
  target : Target

namespace Walk

def start (target : Target) : Walk := ⟨[], [], false, false, target⟩

def statements (w : Walk) : List Statement := w.gathered.reverse

def gather (w : Walk) (s : Statement) : Walk := { w with gathered := s :: w.gathered }

def close (w : Walk) : Walk ⊕ List Statement :=
  if w.collecting then .inr w.statements else .inl w

def pass (w : Walk) : Item → Walk ⊕ List Statement
  | .text t => .inl (w.gather (.text t))
  | .pause d => .inl (w.gather (.pause d))
  | .choice prompt branches => (w.gather (.choice prompt branches)).close
  | .brokenChoice | .blockEnd => w.close
  | .label literal =>
    if w.target.isMetBy literal then
      .inl { w with gathered := w.kept, collecting := true, matched := true }
    else .inl w
  | .jump reference =>
    if w.collecting then
      .inl { w with kept := w.gathered, collecting := false, target := .ofReference reference }
    else .inl w

/-- The result at the end of the script. A target that was never met is a fault where reading
is strict; otherwise all that was gathered counts. -/
def finish (strict : Bool) (w : Walk) : Except ScriptFault (List Statement) :=
  if w.collecting || !strict then .ok w.statements
  else if w.matched then .error (.jumpTargetNotFound w.target.written)
  else .error (.labelNotFound w.target.written)

end Walk
end Storypath
