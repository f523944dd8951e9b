import Storypath.Script.Token

/-! The stream of tokens of a script. It can be asked for a token, which it answers for ever
with the token at the end once the script is used up, or for the next token, which it
answers with nothing from then on. -/
namespace Storypath

/-- A place in a script: what is still to be read, how many bytes lie before it, and whether
the end has been answered with nothing. -/
structure TokenStream where
  rest : List Char
  offset : Nat
  ended : Bool
  deriving DecidableEq

namespace TokenStream

def ofSource (source : String) : TokenStream := ⟨source.toList, 0, false⟩

def token (s : TokenStream) : Token × TokenStream :=
  match s.rest with
  | [] => (Token.atEnd s.offset, s)
  | c :: cs =>
    let t := Token.starting c cs s.offset
    (t, { s with rest := Token.after c cs, offset := s.offset + t.literal.utf8ByteSize })

theorem length_rest_token (s : TokenStream) :
    s.token.2.rest.length + (if s.token.1.kind = .endOfInput then 0 else 1) ≤ s.rest.length := by
  obtain ⟨rest, offset, ended⟩ := s
  cases rest with
  | nil => simp [token, Token.atEnd]
  | cons c cs =>
    have := Token.length_after_le c cs
    simpa [token, Token.starting, Token.kindOf_ne_endOfInput] using this

def next (s : TokenStream) : Option Token × TokenStream :=
  if s.ended then (none, s)
  else
    let (t, s') := s.token
    if t.kind = .endOfInput then (none, { s' with ended := true }) else (some t, s')

inductive Call where
  | token
  | next
  deriving DecidableEq

def answers (s : TokenStream) : List Call → List (Option Token)
  | [] => []
  | .token :: calls => some s.token.1 :: s.token.2.answers calls
  | .next :: calls => s.next.1 :: s.next.2.answers calls

def collect (cs : List Char) (offset : Nat) (done : Array Token) : Array Token :=
  match cs with
  | [] => done
  | c :: rest =>
    let t := Token.starting c rest offset
    collect (Token.after c rest) (offset + t.literal.utf8ByteSize) (done.push t)
termination_by cs.length
decreasing_by
  have := Token.length_after_le c rest
  simp only [List.length_cons]
  omega

def tokens (source : String) : List Token := (collect source.toList 0 #[]).toList

end TokenStream
end Storypath
