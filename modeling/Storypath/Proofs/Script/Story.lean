import Storypath.Script.Item

/-! Stories as an author thinks of them: segments with a name, a body and an ending. A story is
written down as a script, one construct a line. -/
namespace Storypath

namespace Story

structure Name where
  text : String
  nonempty : text ≠ ""
  letters : ∀ c ∈ text.toList, c.isAlphanum = true

structure Line where
  text : String
  plain : ∃ c ∈ text.toList.head?, c ∉ [' ', '\t', '*', '[', '@', '-', ']', '\x00']
  unbroken : ∀ c ∈ text.toList, c ≠ '\n' ∧ c ≠ '\r'

structure Link where
  name : Name
  starred : Bool

def Link.text (l : Link) : String := if l.starred then "*" ++ l.name.text else l.name.text

inductive Part where
  | line (text : Line)
  | pause (duration : Line)

structure Way where
  link : Link
  button : Option Line

inductive Ending where
  | stop
  | jump (link : Link)
  | choice (prompt : Line) (ways : List Way)

def Ending.Fits (limit : Nat) : Ending → Prop
  | .stop | .jump _ => True
  | .choice _ ways => ways.length ≤ limit

instance (limit : Nat) (e : Ending) : Decidable (e.Fits limit) :=
  match e with
  | .stop | .jump _ => isTrue trivial
  | .choice _ ways => inferInstanceAs (Decidable (ways.length ≤ limit))

structure Segment where
  name : Name
  body : List Part
  ending : Ending

def Forward : List Segment → Prop
  | [] => True
  | s :: later =>
    (∀ link, s.ending = .jump link → ∃ s' ∈ later, s'.name.text = link.name.text) ∧ Forward later

end Story

structure Story where
  segments : List Story.Segment
  distinct : (segments.map fun s => s.name.text).Nodup
  forward : Story.Forward segments

namespace Story

def Part.write : Part → String
  | .line l => l.text
  | .pause d => "@wait " ++ d.text

def Way.buttonText (w : Way) : String :=
  match w.button with
  | some l => l.text
  | none => ""

def Way.write (w : Way) : String := "- [" ++ w.link.text ++ "] " ++ w.buttonText

def Ending.lines : Ending → List String
  | .stop => ["@end"]
  | .jump link => ["[" ++ link.text ++ "]"]
  | .choice prompt ways => "@buttons" :: prompt.text :: (ways.map Way.write ++ ["@end"])

def Segment.lines (s : Segment) : List String :=
  ("*" ++ s.name.text) :: (s.body.map Part.write ++ s.ending.lines)

def writeLines : List String → String
  | [] => ""
  | l :: ls => l ++ "\n" ++ writeLines ls

def script (story : Story) : String := writeLines (story.segments.flatMap Segment.lines)

def Part.statement : Part → Statement
  | .line l => .text l.text
  | .pause d => .pause d.text

def Way.branch (w : Way) : Branch := ⟨w.link.text, w.buttonText⟩

/-- What the segment of a name tells, a jump from it included. -/
def told : List Segment → String → List Statement
  | [], _ => []
  | s :: later, name =>
    if s.name.text = name then
      s.body.map Part.statement ++
        match s.ending with
        | .stop => []
        | .jump link => told later link.name.text
        | .choice prompt ways => [.choice prompt.text (ways.map Way.branch)]
    else told later name

end Story
end Storypath
