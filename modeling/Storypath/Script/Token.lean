/-! The tokens of a story script. The first character of a token fixes its class and the
characters that may follow, and a token runs as far as these reach. -/
namespace Storypath

inductive TokenKind where
  | endOfInput
  | whitespace
  | text
  | label
  | jumpBracket
  | choiceBlockStart
  | branchMarker
  | blockEnd
  | wait
  | illegal
  deriving DecidableEq

structure Token where
  kind : TokenKind
  literal : String
  offset : Nat
  deriving DecidableEq

namespace Token

def isWhitespace (t : Token) : Bool := t.kind == .whitespace

/-- The name that a token gives to a jump. A bracket drops its own sign, so a bare bracket
names nothing and leaves the name to the token after it. -/
def targetName (t : Token) : String :=
  match t.kind with
  | .jumpBracket =>
    match t.literal.toList with
    | '[' :: name => String.ofList name
    | _ => t.literal
  | _ => t.literal

def atEnd (offset : Nat) : Token := ⟨.endOfInput, "", offset⟩

def isBlank (c : Char) : Bool := c == ' ' || c == '\t' || c == '\n' || c == '\r'

def isLineEnd (c : Char) : Bool := c == '\n' || c == '\r'

/-- Whether `c` may follow inside a token that begins with `first`: blanks follow a blank or
a closing bracket, ASCII letters and digits a sign, nothing the null character, and all but
a line end anything else. -/
def continues (first c : Char) : Bool :=
  if isBlank first || first == ']' then isBlank c
  else if first == '*' || first == '[' || first == '-' || first == '@' then c.isAlphanum
  else if first == '\x00' then false
  else !isLineEnd c

def commandKind (word : String) : TokenKind :=
  if word = "@buttons" then .choiceBlockStart
  else if word = "@end" then .blockEnd
  else if word = "@wait" then .wait
  else .whitespace

/-- The class of a token by its first character and, for a command, by the whole word. -/
def kindOf (first : Char) (literal : String) : TokenKind :=
  if isBlank first || first == ']' then .whitespace
  else if first == '*' then .label
  else if first == '[' then .jumpBracket
  else if first == '-' then .branchMarker
  else if first == '@' then commandKind literal
  else if first == '\x00' then .illegal
  else .text

def extent (first : Char) (rest : List Char) : String :=
  String.ofList (first :: rest.takeWhile (continues first))

def starting (first : Char) (rest : List Char) (offset : Nat) : Token :=
  ⟨kindOf first (extent first rest), extent first rest, offset⟩

def after (first : Char) (rest : List Char) : List Char := rest.dropWhile (continues first)

theorem kindOf_ne_endOfInput (first : Char) (literal : String) :
    kindOf first literal ≠ .endOfInput := by
  unfold kindOf commandKind
  repeat' split
  all_goals simp

theorem length_after_le (first : Char) (rest : List Char) :
    (after first rest).length ≤ rest.length :=
  (List.dropWhile_sublist _).length_le

end Token
end Storypath
