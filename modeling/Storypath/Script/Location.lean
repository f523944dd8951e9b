/-! Places in a script as a reader counts them: lines and columns from one, a column for
each character. -/
namespace Storypath

structure Location where
  line : Nat
  column : Nat
  deriving DecidableEq

namespace Location

def first : Location := ⟨1, 1⟩

def advance (l : Location) (c : Char) : Location :=
  if c = '\n' then ⟨l.line + 1, 1⟩ else ⟨l.line, l.column + 1⟩

/-- The place `left` bytes further on, or of the next character where that falls inside one. -/
def walk (l : Location) (left : Nat) : List Char → Location
  | [] => l
  | c :: cs => if left = 0 then l else (l.advance c).walk (left - c.utf8Size) cs

theorem walk_zero (l : Location) (cs : List Char) : l.walk 0 cs = l := by
  cases cs <;> simp [walk]

theorem walk_cons {left : Nat} (more : left ≠ 0) (l : Location) (c : Char) (cs : List Char) :
    l.walk left (c :: cs) = (l.advance c).walk (left - c.utf8Size) cs := by
  simp [walk, more]

/-- The place of a byte offset; an offset past the end has the place of the end. -/
def ofOffset (source : String) (offset : Nat) : Location := first.walk offset source.toList

end Location
end Storypath
