import Storypath.Script.Location

/-! What can be wrong with a script, and how it is said. -/
namespace Storypath

inductive ChoiceFlaw where
  | noPrompt
  | branchWithoutTarget
  | notClosed
  deriving DecidableEq

def ChoiceFlaw.reason : ChoiceFlaw → String
  | .noPrompt => "missing prompt text"
  | .branchWithoutTarget => "branch without a [target]"
  | .notClosed => "block is not closed by @end"

inductive ScriptFault where
  | tooManyBranches (count limit : Nat)
  | tokenLimit (limit : Nat)
  | malformedWait (found : String) (place : Location)
  | malformedChoice (flaw : ChoiceFlaw) (place : Location)
  | labelNotFound (label : String)
  | jumpTargetNotFound (target : String)
  deriving DecidableEq

namespace ScriptFault

def code : ScriptFault → String
  | .tooManyBranches .. => "CHOICE_TOO_MANY_BRANCHES"
  | .tokenLimit _ => "PARSE_GUARD_EXCEEDED"
  | .malformedWait .. => "PARSE_MALFORMED_WAIT"
  | .malformedChoice .. => "PARSE_MALFORMED_CHOICE_BLOCK"
  | .labelNotFound _ => "PARSE_LABEL_NOT_FOUND"
  | .jumpTargetNotFound _ => "PARSE_JUMP_TARGET_NOT_FOUND"

def message : ScriptFault → String
  | .tooManyBranches count limit =>
    s!"Choice prompt has {count} branches, at most {limit} are allowed."
  | .tokenLimit limit => s!"Token guard exceeded: max_tokens={limit}."
  | .malformedWait found _ => s!"@wait expects a duration, found \"{found}\"."
  | .malformedChoice flaw _ => s!"Malformed @buttons block: {flaw.reason}."
  | .labelNotFound label => s!"Label \"{label}\" was not found."
  | .jumpTargetNotFound target =>
    s!"Continuation target \"{target}\" has no matching label after the jump."

def place? : ScriptFault → Option Location
  | .malformedWait _ place | .malformedChoice _ place => some place
  | _ => none

end ScriptFault
end Storypath
