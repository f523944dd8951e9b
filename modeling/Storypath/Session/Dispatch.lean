import Storypath.Delivery.Plan
import Storypath.Script.Source
import Storypath.Session.ReaderState

/-! Events of a reader and what they set off: a segment is looked up, its messages are sent
through a client, and the choices that they offer are kept. -/
namespace Storypath

structure Player where
  scriptPath : String
  stateFolder : String
  startLabel : String
  startKeyword : String
  options : ScriptOptions

inductive ReaderEvent where
  | follow
  | message (text : String)
  | postback (data : String)
  deriving DecidableEq

inductive IgnoreReason where
  | notStartKeyword
  | notTappable
  deriving DecidableEq

def IgnoreReason.text : IgnoreReason → String
  | .notStartKeyword => "message is not the start keyword"
  | .notTappable => "postback is not a tappable choice"

inductive Outcome where
  | delivered (messages : Nat) (tappable : List String)
  | ignored (reason : IgnoreReason)
  deriving DecidableEq

structure Push where
  user : String
  scheduled : Scheduled
  deriving DecidableEq

/-- A way to send messages. It takes a message or refuses it, and may look at those that it
took before, latest first. -/
structure Client where
  refuse? : List Push → Push → Option Fault

def Client.accepting : Client := ⟨fun _ _ => none⟩

structure Attempt where
  pushed : List Push
  result : Except Fault Outcome

def Message.offers? : Message → Option (List String)
  | .buttons _ _ actions => some (actions.map Button.data)
  | .text _ => none

namespace Session

/-- Sends messages in order until one is refused. `taken` are the messages taken before,
latest first, and `tappable` what was offered last. -/
def send (client : Client) (user : String) (taken : List Push) (tappable : List String) :
    List Scheduled → List Push × Except Fault (List String)
  | [] => (taken.reverse, .ok tappable)
  | s :: rest =>
    match client.refuse? taken ⟨user, s⟩ with
    | some fault => (taken.reverse, .error fault)
    | none => send client user (⟨user, s⟩ :: taken) (s.message.offers?.getD tappable) rest

variable {m : Type → Type} [Monad m] [Files m]

/-- Plans and sends statements and keeps what they offer. Nothing is sent unless the whole
plan stands, and nothing is kept unless all of it was taken. -/
def deliver (player : Player) (client : Client) (state : ReaderState)
    (statements : List Statement) : m Attempt := do
  match Delivery.plan statements with
  | .error fault => return ⟨[], .error (.duration fault)⟩
  | .ok plan =>
    match send client state.userId [] state.tappable plan with
    | (pushed, .error fault) => return ⟨pushed, .error fault⟩
    | (pushed, .ok tappable) =>
      match ← { state with tappable := tappable }.save player.stateFolder with
      | .error fault => return ⟨pushed, .error fault⟩
      | .ok _ => return ⟨pushed, .ok (.delivered plan.length tappable)⟩

def start (player : Player) (client : Client) (user : String) : m Attempt := do
  match ← resolveFile player.scriptPath (.ofLabel player.startLabel) player.options with
  | .error fault => return ⟨[], .error fault⟩
  | .ok statements =>
    match ← ReaderState.load player.stateFolder user with
    | .error fault => return ⟨[], .error fault⟩
    | .ok state => deliver player client state statements

def choose (player : Player) (client : Client) (user data : String) : m Attempt := do
  match ← ReaderState.load player.stateFolder user with
  | .error fault => return ⟨[], .error fault⟩
  | .ok state =>
    if state.tappable.contains data then
      match ← resolveFile player.scriptPath (.ofReference data) player.options with
      | .error fault => return ⟨[], .error fault⟩
      | .ok statements => deliver player client { state with tappable := [] } statements
    else return ⟨[], .ok (.ignored .notTappable)⟩

def dispatch (player : Player) (client : Client) (user : String) (event : ReaderEvent) :
    m Attempt :=
  match event with
  | .follow => start player client user
  | .message text =>
    if text = player.startKeyword then start player client user
    else return ⟨[], .ok (.ignored .notStartKeyword)⟩
  | .postback data => choose player client user data

end Session
end Storypath
