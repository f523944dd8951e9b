import Storypath.CommandLine.Arguments
import Storypath.CommandLine.Outlet
import Storypath.Delivery.MessageJson
import Storypath.Script.StatementJson

/-! Carrying out a command line. -/
namespace Storypath

def Attempt.lines (pushed : List Push) : Outcome → List String
  | .delivered _ tappable =>
    "EVENT:DELIVERED" :: pushed.map (·.scheduled.line) ++ tappable.map fun t => s!"TAPPABLE:{t}"
  | .ignored reason => ["EVENT:IGNORED", s!"REASON:{reason.text}"]

def Attempt.answer (a : Attempt) : Answer :=
  match a.result with
  | .error fault => .ofFault fault
  | .ok outcome => ⟨"RESULT:OK" :: Attempt.lines a.pushed outcome, 0⟩

def Statement.line (s : Statement) : String := s!"STATEMENT_JSON:{s.toJson.render}"

namespace Command

variable {m : Type → Type} [Monad m] [Files m]

def run (command : Command) : m Answer := do
  match command with
  | .resolve path target options =>
    match ← resolveFile path target options with
    | .error fault => return .ofFault fault
    | .ok statements =>
      return ⟨"RESULT:OK" :: "EVENT:RESOLVED" :: statements.map Statement.line, 0⟩
  | .agent player user event =>
    return (← Session.dispatch player .accepting user event).answer

end Command

namespace CommandLine

def usageText : String :=
  "Usage:\n" ++
  "  resolve --script FILE --label LABEL [--reference] [--strict] [--max-branches N]\n" ++
  "  agent follow --user ID --script FILE [options]\n" ++
  "  agent message --user ID --text TEXT --script FILE [options]\n" ++
  "  agent postback --user ID --data LABEL --script FILE [options]\n" ++
  "Options: --state-dir DIR, --start-label LABEL, --start-keyword WORD, --strict,\n" ++
  "  --max-branches N\n"

def optionVariables : List String :=
  ["GAMEBOOK_SCRIPT", "GAMEBOOK_STATE_DIR", "GAMEBOOK_START_LABEL", "GAMEBOOK_START_KEYWORD"]

def environmentFile : String := ".env"

variable {m : Type → Type} [Monad m] [Files m]

def loadEnvironment (env : Environment) : m Environment := do
  match ← Files.read environmentFile with
  | .ok content => return EnvironmentFile.load env content
  | .error _ => return env

def run (env : Environment) (args : List String) (o : Outlet) : m (Outlet × Nat) := do
  match read env args with
  | .error usage => return (o, usage.exitCode)
  | .ok command => return (← command.run).emit o

end CommandLine
end Storypath
