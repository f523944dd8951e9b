import Mathlib
import Storypath.Proofs.Script.Cursor
import Storypath.Proofs.Script.Grammar

/-! Calls on a stream of tokens. The two ways to ask for a token move the stream on alike, so that what
a call is answered depends on how many calls were made before it and not on which. Main statement: up to
the last token of a script each call is answered with the token that is due, and after it each in the
way of its own. -/
namespace Storypath

namespace TokenStream

def Call.pastEnd (size : Nat) : Call → Option Token
  | .token => some ⟨.endOfInput, "", size⟩
  | .next => none

/-- Tokens that have to be given, one for each call, and what is answered once they are used up. -/
def due (ts : List Token) (size : Nat) (i : Nat) (call : Call) : Option Token :=
  match ts[i]? with
  | some t => some t
  | none => call.pastEnd size

/-- A place in a script of that many bytes with those tokens to come. The end has been answered with
nothing only where there are none. -/
structure Before (ts : List Token) (size : Nat) (s : TokenStream) : Prop where
  tokens : listFrom s.rest s.offset = ts
  size : s.offset + String.utf8Len s.rest = size
  ended : s.ended = true → s.rest = []

variable {s : TokenStream} {ts : List Token} {size : Nat}

theorem before_ofSource (source : String) :
    Before (tokens source) source.utf8ByteSize (ofSource source) where
  tokens := (tokens_eq_listFrom source).symm
  size := by
    rw [← String.utf8ByteSize_ofList]
    simp [ofSource]
  ended h := by cases h

theorem Before.nil {offset : Nat} {ended : Bool} (before : Before ts size ⟨[], offset, ended⟩) :
    ts = [] ∧ offset = size :=
  ⟨by simpa using before.tokens.symm, before.size⟩

theorem Before.cons {c : Char} {cs : List Char} {offset : Nat} {ended : Bool}
    (before : Before ts size ⟨c :: cs, offset, ended⟩) :
    ended = false ∧ ∃ ts', ts = Token.starting c cs offset :: ts' ∧
      Before ts' size ⟨Token.after c cs, offset + (Token.extent c cs).utf8ByteSize, ended⟩ := by
  have open_ : ended = false := by
    by_contra closed
    exact absurd (before.ended (Bool.eq_true_of_not_eq_false closed)) (List.cons_ne_nil c cs)
  refine ⟨open_, _, ?_, rfl, ?_, fun closed => absurd (open_.symm.trans closed) Bool.false_ne_true⟩
  · rw [← before.tokens, listFrom_cons]
  · have whole : c :: cs = c :: cs.takeWhile (Token.continues c) ++ Token.after c cs := by
      simp [Token.after]
    have total := before.size
    rw [whole, String.utf8Len_append] at total
    rw [Token.extent, String.utf8ByteSize_ofList, Nat.add_assoc]
    exact total

theorem Before.token (before : Before ts size s) :
    some s.token.1 = due ts size 0 .token ∧ Before ts.tail size s.token.2 := by
  obtain ⟨rest, offset, ended⟩ := s
  cases rest with
  | nil =>
    obtain ⟨rfl, rfl⟩ := before.nil
    exact ⟨rfl, before⟩
  | cons c cs =>
    obtain ⟨-, ts, rfl, later⟩ := before.cons
    exact ⟨rfl, later⟩

theorem Before.next (before : Before ts size s) :
    s.next.1 = due ts size 0 .next ∧ Before ts.tail size s.next.2 := by
  obtain ⟨rest, offset, ended⟩ := s
  cases rest with
  | nil =>
    obtain ⟨rfl, rfl⟩ := before.nil
    have there : Before [] offset ⟨[], offset, true⟩ := ⟨before.tokens, before.size, fun _ => rfl⟩
    cases ended with
    | true => exact ⟨rfl, there⟩
    | false => exact ⟨rfl, there⟩
  | cons c cs =>
    obtain ⟨rfl, ts, rfl, later⟩ := before.cons
    have given : TokenStream.next ⟨c :: cs, offset, false⟩ = (some (Token.starting c cs offset),
        ⟨Token.after c cs, offset + (Token.extent c cs).utf8ByteSize, false⟩) := by
      simp [TokenStream.next, token_cons, Token.starting, Token.kindOf_ne_endOfInput]
    rw [given]
    exact ⟨rfl, later⟩

theorem due_drop (ts : List Token) (size n i : Nat) (call : Call) :
    due (ts.drop n) size i call = due ts size (n + i) call := by
  rw [due, due, List.getElem?_drop]

theorem due_tail (ts : List Token) (size i : Nat) (call : Call) :
    due ts.tail size i call = due ts size (i + 1) call := by
  rw [← List.drop_one, due_drop, Nat.add_comm]

theorem due_token {ts : List Token} {i : Nat} (size : Nat) (within : i ≤ ts.length) :
    due ts size i .token = (ts ++ [Token.atEnd size])[i]? := by
  rcases Nat.lt_or_eq_of_le within with before | rfl
  · simp [due, before, List.getElem?_append_left]
  · simp [due, Call.pastEnd, Token.atEnd]

/-- Each call is answered with what is due after the calls before it, whichever they are. -/
theorem Before.answers (before : Before ts size s) (calls : List Call) :
    s.answers calls = calls.mapIdx fun i call => due ts size i call := by
  induction calls generalizing s ts with
  | nil => rfl
  | cons call calls ih =>
    rw [List.mapIdx_cons]
    cases call with
    | token =>
      obtain ⟨first, later⟩ := before.token
      rw [TokenStream.answers, first, ih later]
      simp only [due_tail]
    | next =>
      obtain ⟨first, later⟩ := before.next
      rw [TokenStream.answers, first, ih later]
      simp only [due_tail]

theorem answers_token {source : String} {n : Nat} (within : n ≤ (tokens source).length + 1) :
    (ofSource source).answers (List.replicate n .token) =
      ((tokens source ++ [Token.atEnd source.utf8ByteSize]).take n).map some := by
  rw [(before_ofSource source).answers]
  refine List.ext_getElem (by simp [within]) fun i early _ => ?_
  rw [List.length_mapIdx, List.length_replicate] at early
  rw [List.getElem_mapIdx, List.getElem_replicate, due_token _ (by omega), List.getElem_map,
    List.getElem_take, List.getElem?_eq_getElem]

/-- Asked for the next token again and again, a stream gives all tokens of its script and then nothing.
Asked in both ways by turns, in whatever order, it gives the same tokens one after the other, and once
they are used up it answers each call with the token at the end or with nothing, as it was asked. So does
a cursor that reads a character at a time. -/
theorem answers_interleaved (source : String) :
    (∀ n, (ofSource source).answers (List.replicate ((tokens source).length + n) .next) =
      (tokens source).map some ++ List.replicate n none) ∧
    ∀ calls : List Call,
      (ofSource source).answers calls =
        (calls.mapIdx fun i call => due (tokens source) source.utf8ByteSize i call) ∧
      (Cursor.ofSource source).answers calls = (ofSource source).answers calls := by
  refine ⟨fun n => ?_, fun calls => ⟨?_, Cursor.answers_ofSource source calls⟩⟩
  · rw [(before_ofSource source).answers]
    refine List.ext_getElem (by simp) fun i _ _ => ?_
    rw [List.getElem_mapIdx, List.getElem_replicate]
    by_cases within : i < (tokens source).length
    · simp [due, within]
    · rw [List.getElem_append_right (by simpa using within)]
      simp [due, within, Call.pastEnd]
  · exact (before_ofSource source).answers calls

example : (ofSource "  ").answers [.next, .token, .next, .token] =
    [some ⟨.whitespace, "  ", 0⟩, some ⟨.endOfInput, "", 2⟩, none, some ⟨.endOfInput, "", 2⟩] := by
  cbv

end TokenStream
end Storypath
