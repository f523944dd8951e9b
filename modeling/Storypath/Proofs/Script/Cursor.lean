import Mathlib
import Storypath.Proofs.Script.LineEndings

/-! Reading a script a character at a time. A cursor knows its place in bytes and the size of the
character that was read last, so that this one can be taken back: a token ends where a character has
been read that does not belong to it. Main statement: a cursor answers any row of calls as the stream of
tokens does, so that what it remembers of a character has no part in what it reads later. -/
namespace Storypath

/-- A place in a script, in bytes, the size of the character that was read last, and whether the end
has been answered with nothing. -/
structure Cursor where
  source : String
  offset : Nat
  width : Nat
  ended : Bool

namespace Cursor

def ofSource (source : String) : Cursor := ⟨source, 0, 0, false⟩

def read (k : Cursor) : Option (Char × Cursor) :=
  (String.Pos.Raw.get? k.source ⟨k.offset⟩).map fun c =>
    (c, { k with offset := k.offset + c.utf8Size, width := c.utf8Size })

def unread (k : Cursor) : Cursor := { k with offset := k.offset - k.width, width := 0 }

theorem lt_of_utf8GetAux? {cs : List Char} {start offset : Nat} {c : Char}
    (found : String.Pos.Raw.utf8GetAux? cs ⟨start⟩ ⟨offset⟩ = some c) :
    offset < start + String.utf8Len cs := by
  induction cs generalizing start with
  | nil => simp [String.Pos.Raw.utf8GetAux?] at found
  | cons d cs ih =>
    have some_ := d.utf8Size_pos
    rw [String.utf8Len_cons]
    by_cases here : start = offset
    · omega
    · rw [String.Pos.Raw.utf8GetAux?, if_neg (by simpa using here)] at found
      have further := @ih (start + d.utf8Size) found
      omega

theorem lt_of_read {k k' : Cursor} {c : Char} (read : k.read = some (c, k')) :
    k'.source = k.source ∧ k.offset < k'.offset ∧ k.offset < k.source.utf8ByteSize := by
  obtain ⟨c, found, same⟩ := Option.map_eq_some_iff.mp read
  obtain ⟨rfl, rfl⟩ := Prod.mk.inj same
  have within := lt_of_utf8GetAux? found
  rw [Nat.zero_add, ← String.utf8ByteSize_ofList, String.ofList_toList] at within
  exact ⟨rfl, Nat.lt_add_of_pos_right c.utf8Size_pos, within⟩

def skip (fits : Char → Bool) (k : Cursor) : Cursor :=
  match _read : k.read with
  | none => k
  | some (c, k') => if fits c then skip fits k' else k'.unread
termination_by k.source.utf8ByteSize - k.offset
decreasing_by
  obtain ⟨same, further, within⟩ := lt_of_read _read
  rw [same]
  omega

def pass (c : Char) (k : Cursor) : Cursor :=
  match k.read with
  | none => k
  | some (_, k') => if c = '\x00' then k' else k'.skip (Token.continues c)

def token (k : Cursor) : Token × Cursor :=
  match k.read with
  | none => (Token.atEnd k.offset, k)
  | some (c, ahead) =>
    let start := ahead.unread
    let stop := start.pass c
    let literal := String.Pos.Raw.extract k.source ⟨start.offset⟩ ⟨stop.offset⟩
    (⟨Token.kindOf c literal, literal, start.offset⟩, stop)

def next (k : Cursor) : Option Token × Cursor :=
  if k.ended then (none, k)
  else
    let (t, k') := k.token
    if t.kind = .endOfInput then (none, { k' with ended := true }) else (some t, k')

def answers (k : Cursor) : List TokenStream.Call → List (Option Token)
  | [] => []
  | .token :: calls => some k.token.1 :: k.token.2.answers calls
  | .next :: calls => k.next.1 :: k.next.2.answers calls

def between (before rest : List Char) (width : Nat) (ended : Bool) : Cursor :=
  ⟨String.ofList (before ++ rest), String.utf8Len before, width, ended⟩

variable {before rest cs : List Char} {c : Char} {width : Nat} {ended : Bool}

theorem read_between_nil : (between before [] width ended).read = none := by
  rw [read, between, String.get?_of_valid]
  rfl

theorem read_between_cons : (between before (c :: cs) width ended).read =
    some (c, between (before ++ [c]) cs c.utf8Size ended) := by
  rw [read, between, String.get?_of_valid]
  simp [between]

theorem unread_between : (between (before ++ [c]) cs c.utf8Size ended).unread =
    between before (c :: cs) 0 ended := by
  simp [unread, between]

theorem skip_between (fits : Char → Bool) : ∃ width', (between before rest width ended).skip fits =
    between (before ++ rest.takeWhile fits) (rest.dropWhile fits) width' ended := by
  induction rest generalizing before width with
  | nil =>
    refine ⟨width, ?_⟩
    rw [skip]
    split
    · simp
    · next read => simp [read_between_nil] at read
  | cons c cs ih =>
    rw [skip]
    split
    · next read => simp [read_between_cons] at read
    · next c' k' read =>
      obtain ⟨rfl, rfl⟩ : c = c' ∧ between (before ++ [c]) cs c.utf8Size ended = k' := by
        simpa [read_between_cons] using read
      cases fit : fits c with
      | true =>
        obtain ⟨width', same⟩ := @ih (before ++ [c]) c.utf8Size
        exact ⟨width', by simpa [fit] using same⟩
      | false => exact ⟨0, by simp [fit, unread_between]⟩

theorem pass_between : ∃ width', (between before (c :: cs) width ended).pass c =
    between (before ++ c :: cs.takeWhile (Token.continues c)) (Token.after c cs) width' ended := by
  rw [pass, read_between_cons]
  by_cases null : c = '\x00'
  · subst null
    have alone : cs.takeWhile (Token.continues '\x00') = [] := by cases cs <;> rfl
    have left : Token.after '\x00' cs = cs := by cases cs <;> rfl
    exact ⟨'\x00'.utf8Size, by simp [alone, left]⟩
  · obtain ⟨width', same⟩ := @skip_between (before ++ [c]) cs c.utf8Size ended (Token.continues c)
    refine ⟨width', ?_⟩
    simpa [null, Token.after] using same

theorem extract_token (before : List Char) (c : Char) (cs : List Char) :
    String.Pos.Raw.extract (String.ofList (before ++ c :: cs)) ⟨String.utf8Len before⟩
      ⟨String.utf8Len (before ++ c :: cs.takeWhile (Token.continues c))⟩ = Token.extent c cs := by
  have split : before ++ c :: cs =
      before ++ (c :: cs.takeWhile (Token.continues c)) ++ Token.after c cs := by
    simp [Token.after]
  rw [split, String.utf8Len_append, String.extract_of_valid]
  rfl

theorem token_between : ∃ width', (between before (c :: cs) width ended).token =
    (Token.starting c cs (String.utf8Len before),
      between (before ++ c :: cs.takeWhile (Token.continues c)) (Token.after c cs) width' ended) := by
  obtain ⟨width', passed⟩ := @pass_between before cs c 0 ended
  refine ⟨width', ?_⟩
  rw [token, read_between_cons]
  simp only [unread_between, passed]
  simp only [between, extract_token, Token.starting]

/-- A cursor at the place of a stream, whatever it remembers of the character read last. -/
def At (s : TokenStream) (k : Cursor) : Prop :=
  ∃ before width, k = between before s.rest width s.ended ∧ s.offset = String.utf8Len before

variable {s : TokenStream} {k : Cursor}

theorem token_at (here : At s k) : k.token.1 = s.token.1 ∧ At s.token.2 k.token.2 := by
  obtain ⟨rest, offset, ended⟩ := s
  obtain ⟨before, width, rfl, rfl⟩ : ∃ before width, k = between before rest width ended ∧
    offset = String.utf8Len before := here
  cases rest with
  | nil =>
    have stays : (between before [] width ended).token =
        (Token.atEnd (String.utf8Len before), between before [] width ended) := by
      rw [token, read_between_nil]
      rfl
    rw [stays]
    exact ⟨rfl, before, width, rfl, rfl⟩
  | cons c cs =>
    obtain ⟨width', read⟩ := @token_between before cs c width ended
    rw [read, TokenStream.token_cons]
    refine ⟨rfl, _, width', rfl, ?_⟩
    rw [String.utf8Len_append, Token.extent, String.utf8ByteSize_ofList]

theorem At.setEnded (here : At s k) : At { s with ended := true } { k with ended := true } := by
  obtain ⟨before, width, rfl, offset⟩ := here
  exact ⟨before, width, rfl, offset⟩

theorem next_at (here : At s k) : k.next.1 = s.next.1 ∧ At s.next.2 k.next.2 := by
  have flag : k.ended = s.ended := by
    obtain ⟨before, width, rfl, -⟩ := here
    rfl
  obtain ⟨same, later⟩ := token_at here
  rcases read : k.token with ⟨t, k'⟩
  rcases given : s.token with ⟨t', s'⟩
  rw [read, given] at same later
  obtain rfl : t = t' := same
  unfold next TokenStream.next
  rw [flag, read, given]
  by_cases ended : s.ended = true
  · rw [if_pos ended, if_pos ended]
    exact ⟨rfl, here⟩
  · rw [if_neg ended, if_neg ended]
    by_cases last : t.kind = .endOfInput
    · simpa [last] using later.setEnded
    · simpa [last] using later

theorem answers_at (here : At s k) (calls : List TokenStream.Call) :
    k.answers calls = s.answers calls := by
  induction calls generalizing s k with
  | nil => rfl
  | cons call calls ih =>
    cases call with
    | token =>
      obtain ⟨same, later⟩ := token_at here
      rw [answers, TokenStream.answers, same, ih later]
    | next =>
      obtain ⟨same, later⟩ := next_at here
      rw [answers, TokenStream.answers, same, ih later]

theorem at_ofSource (source : String) : At (.ofSource source) (.ofSource source) :=
  ⟨[], 0, by simp [between, ofSource, TokenStream.ofSource], rfl⟩

/-- A cursor and the stream of tokens answer alike. -/
theorem answers_ofSource (source : String) (calls : List TokenStream.Call) :
    (ofSource source).answers calls = (TokenStream.ofSource source).answers calls :=
  answers_at (at_ofSource source) calls

end Cursor
end Storypath
