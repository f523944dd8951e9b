import Storypath.Playthrough.Case
import Storypath.Script.Source

/-! Playing a recorded case: at each choice the next action is taken, and all that is shown on
the way is compared with what the case expects. -/
namespace Storypath

open Json (Value)

inductive CaseFault where
  | unreadable (path : String) (failure : FileFailure)
  | parseCase
  | invalidSchemaVersion (found : String)
  | resolve (fault : Fault)
  | missingAction (event : Nat)
  | choiceNotOffered (event : Nat) (target : String) (offered : List String)
  | unusedActions (used total : Nat)
  | guardExceeded (limit : Nat)
  | eventCountMismatch (expected actual : Nat) (observed : List Observation)
  | eventMismatch (event : Nat) (expected actual : Observation)
  deriving DecidableEq

def CaseFault.message : CaseFault → String
  | .unreadable path failure => s!"Failed to read file {path}: {failure.message}"
  | .parseCase => "Failed to parse testcase."
  | .invalidSchemaVersion found =>
    s!"Invalid testcase schema version \"{found}\", expected \"{Case.schema}\"."
  | .resolve fault => s!"Resolve error: {fault.display}"
  | .missingAction event => s!"Action missing at event index {event}: a choice is waiting."
  | .choiceNotOffered event target offered =>
    s!"Target \"{target}\" is not offered at event index {event}; " ++
      s!"offered: {Text.quotedList offered}."
  | .unusedActions used total => s!"Unused actions: used {used} of {total}."
  | .guardExceeded limit => s!"Guard exceeded: max_steps={limit}."
  | .eventCountMismatch expected actual observed =>
    let seen := (Value.array (observed.map Observation.toJson)).renderIndented
    s!"Expected event count {expected}, actual {actual}. observed={seen}"
  | .eventMismatch event expected actual =>
    s!"Event mismatch at index {event}. expected={expected.toJson.render} " ++
      s!"actual={actual.toJson.render}"

structure Report where
  observed : List Observation
  consumed : Nat
  steps : Nat
  deriving DecidableEq

namespace Playthrough

def maxSteps : Nat := 5000

def offered (statements : List Statement) : List String :=
  statements.foldl (fun targets s =>
    match s with
    | .choice _ branches => branches.map Branch.targetLabel
    | _ => targets) []

/-- Plays on from a segment with `left` segments to go. `seen` has been shown before it, `taken`
actions have led to it, and `actions` are still to be taken. -/
def playFrom (source : String) (options : ScriptOptions) (left : Nat) (seen : Array Observation)
    (taken : Nat) (actions : List Action) (statements : List Statement) :
    Except CaseFault Report :=
  match left with
  | 0 => .error (.guardExceeded maxSteps)
  | left + 1 =>
    let seen := seen.appendList (statements.map Observation.ofStatement)
    let targets := offered statements
    if targets.isEmpty then
      if actions.isEmpty then .ok ⟨(seen.push .ending).toList, taken, taken + 1⟩
      else .error (.unusedActions taken (taken + actions.length))
    else
      match actions with
      | [] => .error (.missingAction (seen.size - 1))
      | action :: actions =>
        if targets.contains action.target then
          match resolveReference source action.target options with
          | .ok statements => playFrom source options left seen (taken + 1) actions statements
          | .error fault => .error (.resolve (.script fault))
        else .error (.choiceNotOffered (seen.size - 1) action.target targets)

def scriptOptions (c : Case) : ScriptOptions := { strict := c.strict }

def play (source : String) (c : Case) : Except CaseFault Report :=
  match resolve source c.startLabel (scriptOptions c) with
  | .ok statements => playFrom source (scriptOptions c) maxSteps #[] 0 c.actions statements
  | .error fault => .error (.resolve (.script fault))

def firstMismatch (index : Nat) : List Observation → List Observation → Option CaseFault
  | expected :: es, actual :: as =>
    if expected = actual then firstMismatch (index + 1) es as
    else some (.eventMismatch index expected actual)
  | _, _ => none

def compare (expected observed : List Observation) : Except CaseFault Unit :=
  if observed.length ≠ expected.length then
    .error (.eventCountMismatch expected.length observed.length observed)
  else
    match firstMismatch 0 expected observed with
    | some fault => .error fault
    | none => .ok ()

def caseOfText (text : String) : Except CaseFault Case :=
  match (Value.parse? text).bind Case.ofJson? with
  | none => .error .parseCase
  | some c =>
    if c.schemaVersion = Case.schema then .ok c
    else .error (.invalidSchemaVersion c.schemaVersion)

variable {m : Type → Type} [Monad m] [Files m]

def readCase (path : String) : m (Except CaseFault Case) := do
  match ← readText path with
  | .error failure => return .error (.unreadable path failure)
  | .ok text => return caseOfText text

def runCase (folder : String) (c : Case) : m (Except CaseFault Report) := do
  match ← loadScript (Path.join folder c.script) with
  | .error fault => return .error (.resolve fault)
  | .ok source => return play source c

def assertCase (folder path : String) : m (Except CaseFault Unit) := do
  match ← readCase path with
  | .error fault => return .error fault
  | .ok c =>
    match ← runCase folder c with
    | .error fault => return .error fault
    | .ok report => return compare c.expectedEvents report.observed

end Playthrough
end Storypath
