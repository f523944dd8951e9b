import Storypath.CommandLine.Environment
import Storypath.Session.Dispatch

/-! The command line. Arguments are read from left to right, and the first that is wrong or
asks for help ends the reading. -/
namespace Storypath

inductive Command where
  | resolve (scriptPath : String) (target : Target) (options : ScriptOptions)
  | agent (player : Player) (user : String) (event : ReaderEvent)

inductive Usage where
  | help
  | fault
  deriving DecidableEq

def Usage.exitCode : Usage → Nat
  | .help => 0
  | .fault => 2

namespace CommandLine

structure Grammar where
  valued : List String
  flags : List String

abbrev Given := List (String × String)

def looksLikeOption (arg : String) : Bool :=
  match arg.toList with
  | '-' :: _ :: _ => true
  | _ => false

inductive Shape where
  | escape
  | long (name : String) (value? : Option String)
  | short (letters : List Char)
  | plain
  deriving DecidableEq

def shape (arg : String) : Shape :=
  match arg.toList with
  | ['-', '-'] => .escape
  | '-' :: '-' :: cs =>
    let name := String.ofList (cs.takeWhile (· != '='))
    match cs.dropWhile (· != '=') with
    | _ :: value => .long name (some (String.ofList value))
    | [] => .long name none
  | '-' :: c :: cs => .short (c :: cs)
  | _ => .plain

def number? (text : String) : Option Nat :=
  let digits := match text.toList with
    | '+' :: ds => ds
    | ds => ds
  if digits.isEmpty then none
  else (DurationPart.digitsValue? digits).bind fun n => if n < Nat.pow 2 64 then some n else none

def add (given : Given) (name value : String) : Except Usage Given :=
  if (given.lookup name).isSome then .error .fault
  else if name = "max-branches" && (number? value).isNone then .error .fault
  else .ok ((name, value) :: given)

def readOptions (grammar : Grammar) (given : Given) : List String → Except Usage Given
  | [] => .ok given
  | arg :: rest =>
    match shape arg with
    | .escape => if rest.isEmpty then .ok given else .error .fault
    | .long "help" none => .error .help
    | .long name none =>
      if grammar.flags.contains name then do
        readOptions grammar (← add given name "") rest
      else if grammar.valued.contains name then
        match rest with
        | [] => .error .fault
        | value :: rest =>
          if looksLikeOption value then .error .fault
          else do readOptions grammar (← add given name value) rest
      else .error .fault
    | .long name (some value) =>
      if grammar.valued.contains name then do
        readOptions grammar (← add given name value) rest
      else .error .fault
    | .short ('h' :: _) => .error .help
    | .short _ | .plain => .error .fault

def required (given : Given) (name : String) (fallback : Option String) :
    Except Usage String :=
  match (given.lookup name).or fallback with
  | some value => .ok value
  | none => .error .fault

def optionsOf (given : Given) : ScriptOptions :=
  { maxBranches := ((given.lookup "max-branches").bind number?).getD 4
    strict := (given.lookup "strict").isSome }

def resolveGrammar : Grammar := ⟨["script", "label", "max-branches"], ["reference", "strict"]⟩

def eventGrammar (own : List String) : Grammar :=
  ⟨"user" :: own ++ ["script", "state-dir", "start-label", "start-keyword", "max-branches"],
    ["strict"]⟩

def readResolve (env : Environment) (args : List String) : Except Usage Command := do
  let given ← readOptions resolveGrammar [] args
  let script ← required given "script" (env.lookup "GAMEBOOK_SCRIPT")
  let label ← required given "label" none
  let target :=
    if (given.lookup "reference").isSome then Target.ofReference label else .ofLabel label
  return .resolve script target (optionsOf given)

def playerOf (env : Environment) (given : Given) : Except Usage Player := do
  let orElse (name inherited fallback : String) : String :=
    ((given.lookup name).or (env.lookup inherited)).getD fallback
  return {
    scriptPath := ← required given "script" (env.lookup "GAMEBOOK_SCRIPT")
    stateFolder := orElse "state-dir" "GAMEBOOK_STATE_DIR" ".gamebook"
    startLabel := orElse "start-label" "GAMEBOOK_START_LABEL" "*start"
    startKeyword := orElse "start-keyword" "GAMEBOOK_START_KEYWORD" "start"
    options := optionsOf given }

def readEvent (env : Environment) (own : List String)
    (event : Given → Except Usage ReaderEvent) (args : List String) : Except Usage Command := do
  let given ← readOptions (eventGrammar own) [] args
  return .agent (← playerOf env given) (← required given "user" none) (← event given)

def commandsBelow : List String → List String
  | [] => ["resolve", "agent", "help"]
  | ["agent"] => ["follow", "message", "postback", "help"]
  | _ => []

def readHelp (above : List String) : List String → Usage
  | [] => .help
  | name :: rest =>
    if (commandsBelow above).contains name then readHelp (above ++ [name]) rest else .fault

def noCommand (arg : String) : Usage :=
  match shape arg with
  | .long "help" none | .short ('h' :: _) => .help
  | _ => .fault

def readAgent (env : Environment) : List String → Except Usage Command
  | [] => .error .fault
  | "follow" :: args => readEvent env [] (fun _ => .ok .follow) args
  | "message" :: args =>
    readEvent env ["text"] (fun given => return .message (← required given "text" none)) args
  | "postback" :: args =>
    readEvent env ["data"] (fun given => return .postback (← required given "data" none)) args
  | "help" :: args => .error (readHelp ["agent"] args)
  | arg :: _ => .error (noCommand arg)

def read (env : Environment) : List String → Except Usage Command
  | [] => .error .fault
  | "resolve" :: args => readResolve env args
  | "agent" :: args => readAgent env args
  | "help" :: args => .error (readHelp [] args)
  | arg :: _ => .error (noCommand arg)

end CommandLine
end Storypath
