/-! What a reader receives: lines of text, and questions with buttons. -/
namespace Storypath

structure Button where
  label : String
  data : String
  displayText : String
  deriving DecidableEq

inductive Message where
  | text (text : String)
  | buttons (altText prompt : String) (actions : List Button)
  deriving DecidableEq

structure Scheduled where
  delay : Nat
  message : Message
  deriving DecidableEq

def Scheduled.milliseconds (s : Scheduled) : Nat := s.delay / 1000000

end Storypath
