import Storypath.Text.Alphanumeric
import Storypath.Text.WhiteSpace

/-! Variables, and the file from which more of them can be loaded. A line of the file gives one
variable; a value between quotes may run over several lines, and may name other variables. -/
namespace Storypath

abbrev Environment := List (String × String)

def textAfter? (front text : List Char) : Option String :=
  if front.isPrefixOf text then some (String.ofList (text.drop front.length)) else none

/-- The value of a variable, which is what follows its name and an equals sign. A name with an
equals sign in it so reaches into the value of the variable named before that sign. -/
def Environment.value? (env : Environment) (name : String) : Option String :=
  match name.toList.dropWhile (· != '=') with
  | [] => env.lookup name
  | _ :: front =>
    (env.lookup (String.ofList (name.toList.takeWhile (· != '=')))).bind fun value =>
      textAfter? (front ++ ['=']) value.toList

namespace EnvironmentFile

inductive Quoting where
  | complete
  | blank
  | escape
  | strong
  | strongEscape
  | weak
  | weakEscape
  deriving DecidableEq

def Quoting.opening (c : Char) : Quoting :=
  if c == '\\' then .escape
  else if c == '"' then .weak
  else if c == '\'' then .strong
  else .complete

def Quoting.step (q : Quoting) (c : Char) : Quoting :=
  match q with
  | .blank => .opening c
  | .complete =>
    if Text.isWhiteSpace c && c != '\n' && c != '\r' then .blank else .opening c
  | .escape => .complete
  | .weak => if c == '\\' then .weakEscape else if c == '"' then .complete else .weak
  | .weakEscape => .weak
  | .strong => if c == '\\' then .strongEscape else if c == '\'' then .complete else .strong
  | .strongEscape => .strong

def Quoting.scan (q : Quoting) (count : Nat) : List Char → Quoting ⊕ Nat
  | [] => .inl q
  | c :: cs => if q = .blank && c == '#' then .inr count else (q.step c).scan (count + 1) cs

def withoutLineEnd (line : List Char) : List Char :=
  match line.reverse with
  | '\n' :: '\r' :: r => r.reverse
  | '\n' :: r => r.reverse
  | _ => line

/-- Joins the lines that a quoted value runs over and cuts off comments. `before` is what has
been joined so far, latest character first. Nothing stands for a place where the file cannot be
read on. -/
def logicalLines (before : List Char) (q : Quoting) :
    List (Option (List Char)) → List (Option (List Char))
  | [] => if q = .complete then [] else [none]
  | none :: _ => [none]
  | some line :: rest =>
    if before.isEmpty && (Text.trimStart line).head? = some '#' then
      some [] :: logicalLines [] .complete rest
    else
      match q.scan 0 line with
      | .inr count =>
        some ((line.take count).reverseAux before).reverse :: logicalLines [] .complete rest
      | .inl .complete =>
        some (withoutLineEnd (line.reverseAux before).reverse) :: logicalLines [] .complete rest
      | .inl q => logicalLines (line.reverseAux before) q rest

/-- Where reading a value stands. The flag says whether double quotes are open. -/
inductive ValueMode where
  | text (quoted : Bool)
  | strong
  | escape (quoted : Bool)
  | name (quoted : Bool) (letters : List Char)
  | braced (quoted : Bool) (letters : List Char)
  | ended

def ValueMode.step (lookUp : String → String) (mode : ValueMode) (c : Char) :
    Option (List Char × ValueMode) :=
  match mode with
  | .ended => if c == ' ' || c == '\t' then some ([], .ended) else none
  | .escape quoted =>
    if c == '\\' || c == '\'' || c == '"' || c == '$' || c == ' ' then some ([c], .text quoted)
    else if c == 'n' then some (['\n'], .text quoted)
    else none
  | .strong => if c == '\'' then some ([], .text false) else some ([c], .strong)
  | .name quoted letters =>
    if Text.isAlphanumeric c then some ([], .name quoted (c :: letters))
    else if c == '{' && letters.isEmpty then some ([], .braced quoted [])
    else
      let value := (lookUp (String.ofList letters.reverse)).toList
      if c == '$' then some (value, .name quoted [])
      else some (value ++ [c], .text quoted)
  | .braced quoted letters =>
    if c == '\x7d' then some ((lookUp (String.ofList letters.reverse)).toList, .text quoted)
    else some ([], .braced quoted (c :: letters))
  | .text quoted =>
    if c == '$' then some ([], .name quoted [])
    else if c == '"' then some ([], .text (!quoted))
    else if c == '\\' then some ([], .escape quoted)
    else if quoted then some ([c], .text true)
    else if c == '\'' then some ([], .strong)
    else if c == ' ' || c == '\t' then some ([], .ended)
    else some ([c], .text false)

def ValueMode.finish (lookUp : String → String) : ValueMode → Option (List Char)
  | .text false | .escape false | .ended => some []
  | .name false letters => some (lookUp (String.ofList letters.reverse)).toList
  | _ => none

/-- Reads a value from a place on; a number sign after the end begins a comment. -/
def readValue (lookUp : String → String) (mode : ValueMode) (before : List Char) :
    List Char → Option String
  | [] => (mode.finish lookUp).map fun cs => String.ofList (before.reverse ++ cs)
  | c :: cs =>
    match mode, c with
    | .ended, '#' => some (String.ofList before.reverse)
    | _, _ =>
      match mode.step lookUp c with
      | none => none
      | some (added, mode) => readValue lookUp mode (added.reverse ++ before) cs

def isNameStart (c : Char) : Bool := c.isAlpha || c == '_'

def isNameRest (c : Char) : Bool := c.isAlphanum || c == '_' || c == '.'

def readName : List Char → Option (String × List Char)
  | [] => none
  | c :: cs =>
    if isNameStart c then
      some (String.ofList (c :: cs.takeWhile isNameRest), Text.trimStart (cs.dropWhile isNameRest))
    else none

/-- The name that a line sets, and what follows its equals sign. The word `export` may stand in
front of the name, and may itself be one. -/
def readTarget (line : List Char) : Option (String × List Char) := do
  match ← readName line with
  | (name, '=' :: rest) => pure (name, rest)
  | ("export", rest) =>
    match ← readName rest with
    | (name, '=' :: rest) => pure (name, rest)
    | _ => none
  | _ => none

def readLine (lookUp : String → String) (line : List Char) : Option (Option (String × String)) :=
  match Text.trim line with
  | [] | '#' :: _ => some none
  | line =>
    match readTarget line with
    | none => none
    | some (name, rest) =>
      match Text.trimStart rest with
      | [] | '#' :: _ => some (some (name, ""))
      | value => (readValue lookUp (.text false) [] value).map fun v => some (name, v)

def lookUp (env seen : Environment) (name : String) : String :=
  ((env.value? name).or (seen.lookup name)).getD ""

/-- Sets the variables of lines that are not set already, up to the first malformed line. `seen`
holds what the lines before have set, latest first. -/
def setFrom (env seen : Environment) : List (Option (List Char)) → Environment
  | [] => env
  | none :: _ => env
  | some line :: rest =>
    match readLine (lookUp env seen) line with
    | none => env
    | some none => setFrom env seen rest
    | some (some (name, value)) =>
      setFrom (if (env.lookup name).isSome then env else (name, value) :: env)
        ((name, value) :: seen) rest

def physicalLines (line : ByteArray) : List UInt8 → List (Option (List Char))
  | [] => if line.isEmpty then [] else [(String.fromUTF8? line).map String.toList]
  | b :: bs =>
    if b = 0x0A then
      (String.fromUTF8? (line.push b)).map String.toList :: physicalLines ByteArray.empty bs
    else physicalLines (line.push b) bs

def withoutMark : List UInt8 → List UInt8
  | 0xEF :: 0xBB :: 0xBF :: bs => bs
  | bs => bs

def wordsFrom (before : Array String) (word : List Char) : List Char → List String
  | [] => (before.push (String.ofList word.reverse)).toList
  | c :: cs =>
    if isNameRest c then wordsFrom before (c :: word) cs
    else if word.isEmpty then wordsFrom before [] cs
    else wordsFrom (before.push (String.ofList word.reverse)) [] cs

def words (content : ByteArray) : List String :=
  match String.fromUTF8? content with
  | some text => wordsFrom #[] [] text.toList
  | none => []

def load (env : Environment) (content : ByteArray) : Environment :=
  setFrom env []
    (logicalLines [] .complete (physicalLines ByteArray.empty (withoutMark content.toList)))

end EnvironmentFile
end Storypath
