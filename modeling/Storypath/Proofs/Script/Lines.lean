import Mathlib
import Storypath.Proofs.Script.Grammar

/-! Lines and tokens. What ends with a line feed is cut into tokens before it is known what follows, as
long as that does not begin with a blank. Main statement: the tokens of two such texts, one behind the
other, are those of the first and those of the second, which stand further on. -/
namespace Storypath

namespace Grammar

variable {kind : TokenKind} {literal more cs : List Char} {offset : Nat} {front back : List Token}

theorem not_letterOrDigit_lineFeed : ¬ LetterOrDigit '\n' := by
  rw [← isAlphanum_iff]
  decide

theorem Lexeme.of_lineFeed (lexeme : Lexeme kind literal []) (ends : literal.getLast? = some '\n')
    (fresh : ∀ c ∈ more.head?, ¬ Blank c) : Lexeme kind literal more := by
  have feed : '\n' ∈ literal := List.mem_of_getLast? ends
  cases lexeme with
  | blanks first run => exact .blanks first ⟨run.within, fresh⟩
  | closing run => exact .closing ⟨run.within, fresh⟩
  | label name | bracket name | marker name | command name =>
    have inside := (List.mem_cons.mp feed).resolve_left (by decide)
    exact absurd (name.within _ inside) not_letterOrDigit_lineFeed
  | null => simp at feed
  | text first other line =>
    rcases List.mem_cons.mp feed with here | inside
    · exact absurd (here ▸ .inr (.inr (.inl rfl))) first
    · exact absurd (.inl rfl) (line.within _ inside)

/-- A text that ends with a line feed and one that begins with no blank are cut one after the other. -/
theorem Cuts.append (first : Cuts cs offset front)
    (second : Cuts more (offset + (String.ofList cs).utf8ByteSize) back)
    (ends : ∀ c ∈ cs.getLast?, c = '\n') (fresh : ∀ c ∈ more.head?, ¬ Blank c) :
    Cuts (cs ++ more) offset (front ++ back) := by
  induction front generalizing cs offset with
  | nil =>
    obtain rfl := cuts_nil.mp first
    simpa using second
  | cons t front ih =>
    obtain ⟨rest, rfl, lexeme, rfl, later⟩ := cuts_cons.mp first
    refine cuts_cons.mpr ⟨rest ++ more, by simp, ?_, rfl, ih later ?_ fun c mem => ends c ?_⟩
    · cases rest with
      | nil =>
        obtain ⟨c, last⟩ := Option.ne_none_iff_exists'.mp
          (mt List.getLast?_eq_none_iff.mp lexeme.ne_nil)
        obtain rfl := ends c (by simpa using last)
        exact lexeme.of_lineFeed last fresh
      | cons c rest => exact lexeme.of_head rfl
    · simpa [Nat.add_assoc] using second
    · rw [List.getLast?_append, Option.mem_def.mp mem]
      rfl

theorem cuts_tokens (source : String) : Cuts source.toList 0 (TokenStream.tokens source) := by
  rw [cuts_iff, TokenStream.tokens_eq_listFrom]

end Grammar

open Grammar (cuts_tokens)
open TokenStream (tokens)

/-- The tokens of a text that ends with a line feed and of one behind it that begins with no blank are
the tokens of each. So those which begin behind the line feed are those of the second text, whatever the
first one is, but for the place at which they stand. -/
theorem tokens_append_line (a b : String) (fresh : ∀ c ∈ b.toList.head?, ¬ Grammar.Blank c) :
    tokens (a ++ "\n" ++ b) =
        tokens (a ++ "\n") ++ (tokens b).map (Token.shift (a.utf8ByteSize + 1)) ∧
      (tokens (a ++ "\n" ++ b)).filter (fun t => a.utf8ByteSize < t.offset) =
        (tokens b).map (Token.shift (a.utf8ByteSize + 1)) := by
  have size : (a ++ "\n").utf8ByteSize = a.utf8ByteSize + 1 := String.utf8ByteSize_append
  have behind := (cuts_tokens b).shift (a ++ "\n").utf8ByteSize
  have whole : tokens (a ++ "\n" ++ b) =
      tokens (a ++ "\n") ++ (tokens b).map (Token.shift (a.utf8ByteSize + 1)) := by
    rw [← size, TokenStream.tokens_eq_listFrom (a ++ "\n" ++ b), String.toList_append]
    refine (Grammar.cuts_iff.mp ((cuts_tokens (a ++ "\n")).append ?_ ?_ fresh)).symm
    · simpa using behind
    · simp
  refine ⟨whole, ?_⟩
  rw [whole, List.filter_append, List.filter_eq_nil_iff.mpr, List.nil_append, List.filter_eq_self]
  · intro t mem
    obtain ⟨t, -, rfl⟩ := List.mem_map.mp mem
    have later : a.utf8ByteSize < t.offset + (a.utf8ByteSize + 1) := by omega
    exact decide_eq_true later
  · intro t mem
    obtain ⟨before, after, split, offset, -⟩ := Grammar.exists_around mem
    have some_ : 0 < t.literal.utf8ByteSize := by
      have nonempty := (cuts_tokens _).nonempty t mem
      rw [Nat.pos_iff_ne_zero, Ne, String.utf8ByteSize_eq_zero_iff]
      exact nonempty
    have total := congrArg String.utf8ByteSize split
    rw [size, String.utf8ByteSize_append, String.utf8ByteSize_append, offset] at total
    have earlier : ¬ a.utf8ByteSize < t.offset := by omega
    simpa using earlier

theorem tokens_bracketLines :
    (∀ c ∈ "] こ".toList.head?, ¬ Grammar.Blank c) ∧
      tokens ("@wait [a]" ++ "\n" ++ "] こ") =
        [⟨.wait, "@wait", 0⟩, ⟨.whitespace, " ", 5⟩, ⟨.jumpBracket, "[a", 6⟩,
          ⟨.whitespace, "]\n", 8⟩, ⟨.whitespace, "] ", 10⟩, ⟨.text, "こ", 12⟩] := by
  have fresh : ∀ c ∈ "] こ".toList.head?, ¬ Grammar.Blank c := by
    simp [Grammar.Blank]
  exact ⟨fresh, (tokens_append_line "@wait [a]" "] こ" fresh).1.trans (by cbv)⟩

end Storypath
