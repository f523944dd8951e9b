import Storypath.Script.Fault

/-! What a segment of a story consists of. -/
namespace Storypath

structure Branch where
  targetLabel : String
  buttonText : String
  deriving DecidableEq

inductive Statement where
  | text (text : String)
  | choice (prompt : String) (branches : List Branch)
  | pause (duration : String)
  deriving DecidableEq

/-- What a statement is called where its content does not matter. -/
inductive StatementKind where
  | plainText
  | choicePrompt
  | pauseDirective
  deriving DecidableEq

namespace Statement

def choice? (prompt : String) (branches : List Branch) (limit : Nat) :
    Except ScriptFault Statement :=
  if branches.length ≤ limit then .ok (.choice prompt branches)
  else .error (.tooManyBranches branches.length limit)

def kind : Statement → StatementKind
  | .text _ => .plainText
  | .choice _ _ => .choicePrompt
  | .pause _ => .pauseDirective

def displayText : Statement → String
  | .text t => t
  | .choice prompt _ => prompt
  | .pause _ => ""

def branches : Statement → List Branch
  | .choice _ bs => bs
  | _ => []

end Statement
end Storypath
