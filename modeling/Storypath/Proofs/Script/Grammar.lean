import Mathlib
import Storypath.Proofs.Script.Tokens
import Storypath.Proofs.Text.Maximal

/-! The grammar of tokens, said of the pieces of a script and not of a scanner. Main statement: a
script is cut into tokens in one way only, and taking the next token until there is none cuts it that
way. -/
namespace Storypath

namespace Grammar

def Blank (c : Char) : Prop := c = ' ' ∨ c = '\t' ∨ c = '\n' ∨ c = '\r'

def LetterOrDigit (c : Char) : Prop :=
  'A' ≤ c ∧ c ≤ 'Z' ∨ 'a' ≤ c ∧ c ≤ 'z' ∨ '0' ≤ c ∧ c ≤ '9'

def LineEnd (c : Char) : Prop := c = '\n' ∨ c = '\r'

inductive Command : List Char → TokenKind → Prop
  | buttons : Command ['b', 'u', 't', 't', 'o', 'n', 's'] .choiceBlockStart
  | blockEnd : Command ['e', 'n', 'd'] .blockEnd
  | wait : Command ['w', 'a', 'i', 't'] .wait
  | unknown {word : List Char} (buttons : word ≠ ['b', 'u', 't', 't', 'o', 'n', 's'])
      (blockEnd : word ≠ ['e', 'n', 'd']) (wait : word ≠ ['w', 'a', 'i', 't']) :
      Command word .whitespace

/-- The tokens with what may come after them. The first character tells what a token is. -/
inductive Lexeme : TokenKind → List Char → List Char → Prop
  | blanks {c : Char} {run rest : List Char} (first : Blank c) (more : Maximal Blank run rest) :
      Lexeme .whitespace (c :: run) rest
  | closing {run rest : List Char} (more : Maximal Blank run rest) :
      Lexeme .whitespace (']' :: run) rest
  | label {name rest : List Char} (more : Maximal LetterOrDigit name rest) :
      Lexeme .label ('*' :: name) rest
  | bracket {name rest : List Char} (more : Maximal LetterOrDigit name rest) :
      Lexeme .jumpBracket ('[' :: name) rest
  | marker {name rest : List Char} (more : Maximal LetterOrDigit name rest) :
      Lexeme .branchMarker ('-' :: name) rest
  | command {word rest : List Char} {kind : TokenKind} (more : Maximal LetterOrDigit word rest)
      (known : Command word kind) : Lexeme kind ('@' :: word) rest
  | null (rest : List Char) : Lexeme .illegal ['\x00'] rest
  | text {c : Char} {line rest : List Char} (first : ¬ Blank c)
      (other : c ∉ [']', '*', '[', '-', '@', '\x00'])
      (more : Maximal (fun c => ¬ LineEnd c) line rest) : Lexeme .text (c :: line) rest

/-- The tokens `ts` make up the characters `cs`, which begin at `offset`. -/
structure Cuts (cs : List Char) (offset : Nat) (ts : List Token) : Prop where
  whole : ts.flatMap (fun t => t.literal.toList) = cs
  nonempty : ∀ t ∈ ts, t.literal ≠ ""
  placed : ∀ before t later, ts = before ++ t :: later →
    t.offset = offset + (before.map fun t => t.literal.utf8ByteSize).sum
  lexeme : ∀ before t later, ts = before ++ t :: later →
    Lexeme t.kind t.literal.toList (later.flatMap fun t => t.literal.toList)

variable {p : Char → Prop} {c : Char} {run rest cs : List Char} {kind : TokenKind}

theorem isBlank_iff (c : Char) : Token.isBlank c = true ↔ Blank c := by
  simp [Token.isBlank, Blank, or_assoc]

theorem isAlphanum_iff (c : Char) : c.isAlphanum = true ↔ LetterOrDigit c := by
  simp only [Char.isAlphanum, Char.isAlpha, Char.isUpper, Char.isLower, Char.isDigit,
    Bool.or_eq_true, Bool.and_eq_true, decide_eq_true_eq, LetterOrDigit, or_assoc]
  exact Iff.rfl

theorem continues_blank {first : Char} (blank : Blank first ∨ first = ']') (c : Char) :
    Token.continues first c = true ↔ Blank c := by
  have here : (Token.isBlank first || first == ']') = true := by
    simpa [isBlank_iff] using blank
  rw [Token.continues, if_pos here, isBlank_iff]

theorem continues_sign {first : Char} (sign : first ∈ ['*', '[', '-', '@']) (c : Char) :
    Token.continues first c = true ↔ LetterOrDigit c := by
  rw [← isAlphanum_iff]
  simp only [List.mem_cons, List.not_mem_nil, or_false] at sign
  rcases sign with rfl | rfl | rfl | rfl <;> rfl

theorem continues_null (c : Char) : Token.continues '\x00' c = true ↔ False := by
  have never : Token.continues '\x00' c = false := rfl
  simp [never]

theorem continues_text {first : Char} (notBlank : ¬ Blank first)
    (other : first ∉ [']', '*', '[', '-', '@', '\x00']) (c : Char) :
    Token.continues first c = true ↔ ¬ LineEnd c := by
  simp only [List.mem_cons, List.not_mem_nil, or_false, not_or] at other
  rw [← isBlank_iff, Bool.not_eq_true] at notBlank
  simp [Token.continues, notBlank, other, Token.isLineEnd, LineEnd]

theorem Maximal.token {first : Char} (more : Maximal p run rest)
    (same : ∀ c, Token.continues first c = true ↔ p c) :
    (Token.extent first (run ++ rest)).toList = first :: run ∧
      Token.after first (run ++ rest) = rest := by
  rw [Token.extent, Token.after, more.takeWhile same, more.dropWhile same, String.toList_ofList]
  exact ⟨rfl, rfl⟩

theorem kindOf_command {word : List Char} (known : Command word kind) :
    Token.commandKind (String.ofList ('@' :: word)) = kind := by
  cases known with
  | unknown buttons blockEnd wait =>
    have differs {other : List Char} (ne : word ≠ other) :
        String.ofList ('@' :: word) ≠ String.ofList ('@' :: other) :=
      fun same => ne (List.cons.inj (String.ofList_injective same)).2
    rw [Token.commandKind, if_neg (differs buttons), if_neg (differs blockEnd),
      if_neg (differs wait)]
  | _ => rfl

theorem Lexeme.token {literal : List Char} (lexeme : Lexeme kind literal rest) :
    ∃ c cs, literal ++ rest = c :: cs ∧ (Token.extent c cs).toList = literal ∧
      Token.after c cs = rest ∧ Token.kindOf c (Token.extent c cs) = kind := by
  cases lexeme with
  | @blanks c run _ first more =>
    obtain ⟨literal, left⟩ := more.token (continues_blank (.inl first))
    refine ⟨c, run ++ rest, rfl, literal, left, ?_⟩
    simp [Token.kindOf, (isBlank_iff c).mpr first]
  | @closing run _ more =>
    obtain ⟨literal, left⟩ := more.token (continues_blank (.inr rfl))
    exact ⟨']', run ++ rest, rfl, literal, left, rfl⟩
  | @label name _ more =>
    obtain ⟨literal, left⟩ := more.token (@continues_sign '*' (by simp))
    exact ⟨'*', name ++ rest, rfl, literal, left, rfl⟩
  | @bracket name _ more =>
    obtain ⟨literal, left⟩ := more.token (@continues_sign '[' (by simp))
    exact ⟨'[', name ++ rest, rfl, literal, left, rfl⟩
  | @marker name _ more =>
    obtain ⟨literal, left⟩ := more.token (@continues_sign '-' (by simp))
    exact ⟨'-', name ++ rest, rfl, literal, left, rfl⟩
  | @command word _ _ more known =>
    obtain ⟨literal, left⟩ := more.token (@continues_sign '@' (by simp))
    refine ⟨'@', word ++ rest, rfl, literal, left, ?_⟩
    rw [← kindOf_command known, ← literal, String.ofList_toList]
    rfl
  | null =>
    have more : Maximal (fun _ => False) [] rest := ⟨by simp, by simp⟩
    obtain ⟨literal, left⟩ := more.token continues_null
    exact ⟨'\x00', rest, rfl, literal, left, rfl⟩
  | @text c line _ first other more =>
    obtain ⟨literal, left⟩ := more.token (continues_text first other)
    refine ⟨c, line ++ rest, rfl, literal, left, ?_⟩
    simp only [List.mem_cons, List.not_mem_nil, or_false, not_or] at other
    rw [← isBlank_iff, Bool.not_eq_true] at first
    simp [Token.kindOf, first, other]

theorem command_commandKind (word : List Char) :
    Command word (Token.commandKind (String.ofList ('@' :: word))) := by
  have known : ∃ kind, Command word kind := by
    by_cases buttons : word = ['b', 'u', 't', 't', 'o', 'n', 's']
    · exact ⟨_, buttons ▸ Command.buttons⟩
    by_cases blockEnd : word = ['e', 'n', 'd']
    · exact ⟨_, blockEnd ▸ Command.blockEnd⟩
    by_cases wait : word = ['w', 'a', 'i', 't']
    · exact ⟨_, wait ▸ Command.wait⟩
    exact ⟨_, .unknown buttons blockEnd wait⟩
  obtain ⟨kind, known⟩ := known
  exact kindOf_command known ▸ known

theorem lexeme_starting (c : Char) (cs : List Char) :
    Lexeme (Token.kindOf c (Token.extent c cs)) (Token.extent c cs).toList (Token.after c cs) := by
  rw [Token.extent, Token.after, String.toList_ofList]
  by_cases blank : Blank c
  · have kind : Token.kindOf c (Token.extent c cs) = .whitespace := by
      simp [Token.kindOf, (isBlank_iff c).mpr blank]
    rw [← Token.extent, kind]
    exact .blanks blank (maximal_takeWhile (continues_blank (.inl blank)) cs)
  by_cases other : c ∈ [']', '*', '[', '-', '@', '\x00']
  · simp only [List.mem_cons, List.not_mem_nil, or_false] at other
    rcases other with rfl | rfl | rfl | rfl | rfl | rfl
    · exact .closing (maximal_takeWhile (continues_blank (.inr rfl)) cs)
    · exact .label (maximal_takeWhile (continues_sign (by simp)) cs)
    · exact .bracket (maximal_takeWhile (continues_sign (by simp)) cs)
    · exact .marker (maximal_takeWhile (continues_sign (by simp)) cs)
    · exact .command (maximal_takeWhile (continues_sign (by simp)) cs) (command_commandKind _)
    · have alone : cs.takeWhile (Token.continues '\x00') = [] := by cases cs <;> rfl
      rw [alone]
      exact .null _
  · have kind : Token.kindOf c (Token.extent c cs) = .text := by
      have plain : Token.isBlank c = false := by simpa [← isBlank_iff] using blank
      simp only [List.mem_cons, List.not_mem_nil, or_false, not_or] at other
      simp [Token.kindOf, plain, other]
    rw [← Token.extent, kind]
    exact .text blank other (maximal_takeWhile (continues_text blank other) cs)

theorem Lexeme.ne_nil {literal : List Char} (lexeme : Lexeme kind literal rest) :
    literal ≠ [] := by
  cases lexeme <;> simp

theorem cuts_cons {cs : List Char} {offset : Nat} {t : Token} {ts : List Token} :
    Cuts cs offset (t :: ts) ↔ ∃ rest, cs = t.literal.toList ++ rest ∧
      Lexeme t.kind t.literal.toList rest ∧ t.offset = offset ∧
        Cuts rest (offset + t.literal.utf8ByteSize) ts := by
  constructor
  · intro cuts
    refine ⟨_, cuts.whole.symm, cuts.lexeme [] t ts rfl, by simpa using cuts.placed [] t ts rfl, rfl,
      fun t mem => cuts.nonempty t (by simp [mem]), ?_, ?_⟩
    · rintro before t' later rfl
      have placed := cuts.placed (t :: before) t' later rfl
      simpa [Nat.add_assoc] using placed
    · rintro before t' later rfl
      exact cuts.lexeme (t :: before) t' later rfl
  · rintro ⟨rest, rfl, lexeme, rfl, cuts⟩
    refine ⟨by simp [cuts.whole], ?_, ?_, ?_⟩
    · intro t' mem
      rcases List.mem_cons.mp mem with rfl | mem
      · intro empty
        exact lexeme.ne_nil (by simp [empty])
      · exact cuts.nonempty t' mem
    · intro before t' later split
      cases before with
      | nil =>
        obtain ⟨rfl, rfl⟩ := List.cons.inj split
        simp
      | cons b before =>
        obtain ⟨rfl, more⟩ := List.cons.inj split
        have placed := cuts.placed before t' later more
        simpa [Nat.add_assoc] using placed
    · intro before t' later split
      cases before with
      | nil =>
        obtain ⟨rfl, rfl⟩ := List.cons.inj split
        rwa [cuts.whole]
      | cons b before => exact cuts.lexeme before t' later (List.cons.inj split).2

theorem cuts_nil {cs : List Char} {offset : Nat} : Cuts cs offset [] ↔ cs = [] :=
  ⟨fun cuts => cuts.whole.symm, by rintro rfl; exact ⟨rfl, by simp, by simp, by simp⟩⟩

/-- Characters are cut as the scanner cuts them, and in no other way. -/
theorem cuts_iff {cs : List Char} {offset : Nat} {ts : List Token} :
    Cuts cs offset ts ↔ ts = TokenStream.listFrom cs offset := by
  constructor
  · intro cuts
    induction ts generalizing cs offset with
    | nil =>
      obtain rfl := cuts_nil.mp cuts
      simp
    | cons t ts ih =>
      obtain ⟨rest, rfl, lexeme, rfl, later⟩ := cuts_cons.mp cuts
      obtain ⟨c, cs, split, literal, left, kind⟩ := lexeme.token
      have extent : Token.extent c cs = t.literal := String.toList_inj.mp literal
      have first : Token.starting c cs t.offset = t := by rw [Token.starting, kind, extent]
      rw [split, TokenStream.listFrom_cons, left, extent, ← ih later, first]
  · rintro rfl
    fun_induction TokenStream.listFrom cs offset with
    | case1 offset => exact cuts_nil.mpr rfl
    | case2 offset c cs ih =>
      refine cuts_cons.mpr ⟨Token.after c cs, ?_, lexeme_starting c cs, rfl, ih⟩
      simp [Token.starting, Token.extent, Token.after]

variable {literal rest' : List Char}

theorem Cuts.shift {cs : List Char} {offset : Nat} {ts : List Token} (cuts : Cuts cs offset ts)
    (d : Nat) : Cuts cs (offset + d) (ts.map (Token.shift d)) := by
  rw [cuts_iff] at cuts ⊢
  rw [cuts, TokenStream.listFrom_add]

theorem Maximal.of_head (more : Maximal p run rest)
    (same : rest'.head? = rest.head?) : Maximal p run rest' :=
  ⟨more.within, by rw [same]; exact more.stops⟩

theorem Lexeme.of_head (lexeme : Lexeme kind literal rest) (same : rest'.head? = rest.head?) :
    Lexeme kind literal rest' := by
  cases lexeme with
  | blanks first more => exact .blanks first (more.of_head same)
  | closing more => exact .closing (more.of_head same)
  | label more => exact .label (more.of_head same)
  | bracket more => exact .bracket (more.of_head same)
  | marker more => exact .marker (more.of_head same)
  | command more known => exact .command (more.of_head same) known
  | null => exact .null rest'
  | text first other more => exact .text first other (more.of_head same)

theorem Cuts.drop {cs : List Char} {offset : Nat} {front back : List Token}
    (cuts : Cuts cs offset (front ++ back)) :
    Cuts (back.flatMap fun t => t.literal.toList)
      (offset + (front.map fun t => t.literal.utf8ByteSize).sum) back := by
  induction front generalizing cs offset with
  | nil =>
    have whole := cuts.whole
    rw [List.nil_append] at cuts whole
    simpa [whole] using cuts
  | cons t front ih =>
    obtain ⟨rest, -, -, -, later⟩ := cuts_cons.mp cuts
    simpa [Nat.add_assoc] using ih later

/-- The tokens in front of a place stay when what follows begins with the same character. -/
theorem Cuts.replace {cs : List Char} {offset : Nat} {front back back' : List Token}
    (cuts : Cuts cs offset (front ++ back))
    (same : rest'.head? = (back.flatMap fun t => t.literal.toList).head?)
    (later : Cuts rest' (offset + (front.map fun t => t.literal.utf8ByteSize).sum) back') :
    Cuts ((front.flatMap fun t => t.literal.toList) ++ rest') offset (front ++ back') := by
  induction front generalizing cs offset with
  | nil => simpa using later
  | cons t front ih =>
    rw [List.cons_append] at cuts
    obtain ⟨rest, -, lexeme, placed, cutsRest⟩ := cuts_cons.mp cuts
    refine cuts_cons.mpr ⟨(front.flatMap fun t => t.literal.toList) ++ rest', by simp, ?_, placed,
      ih cutsRest (by simpa [Nat.add_assoc] using later)⟩
    refine lexeme.of_head ?_
    rw [← cutsRest.whole, List.flatMap_append, List.head?_append, List.head?_append, same]

theorem utf8ByteSize_flatMap (ts : List Token) :
    (String.ofList (ts.flatMap fun t => t.literal.toList)).utf8ByteSize =
      (ts.map fun t => t.literal.utf8ByteSize).sum := by
  induction ts with
  | nil => rfl
  | cons t ts ih =>
    rw [List.flatMap_cons, String.ofList_append, String.utf8ByteSize_append, String.ofList_toList,
      ih, List.map_cons, List.sum_cons]

/-- Each token of a script stands there at its offset, in front of what it is cut off from. -/
theorem exists_around {source : String} {t : Token} (mem : t ∈ TokenStream.tokens source) :
    ∃ front back, source = front ++ (t.literal ++ back) ∧ front.utf8ByteSize = t.offset ∧
      Lexeme t.kind t.literal.toList back.toList := by
  rw [TokenStream.tokens_eq_listFrom] at mem
  have cuts : Cuts source.toList 0 (TokenStream.listFrom source.toList 0) := cuts_iff.mpr rfl
  obtain ⟨before, later, split⟩ := List.append_of_mem mem
  have whole := cuts.whole
  rw [split, List.flatMap_append, List.flatMap_cons] at whole
  refine ⟨String.ofList (before.flatMap fun t => t.literal.toList),
    String.ofList (later.flatMap fun t => t.literal.toList), ?_, ?_, ?_⟩
  · exact String.toList_inj.mp (by simp [← whole])
  · rw [utf8ByteSize_flatMap, cuts.placed before t later split, Nat.zero_add]
  · rw [String.toList_ofList]
    exact cuts.lexeme before t later split

end Grammar

namespace TokenStream

def left (s : TokenStream) : List Token := if s.ended then [] else listFrom s.rest s.offset

theorem next_eq (s : TokenStream) : s.next.1 = s.left.head? ∧ s.next.2.left = s.left.tail := by
  obtain ⟨rest, offset, ended⟩ := s
  cases ended with
  | true => exact ⟨rfl, rfl⟩
  | false =>
    cases rest with
    | nil => simp [next, token, left, Token.atEnd]
    | cons c cs =>
      simp [next, token, left, listFrom_cons, Token.starting, Token.kindOf_ne_endOfInput]

theorem answers_next (s : TokenStream) (n : Nat) :
    s.answers (List.replicate n .next) = (List.range n).map fun i => s.left[i]? := by
  induction n generalizing s with
  | zero => rfl
  | succ n ih =>
    obtain ⟨first, later⟩ := s.next_eq
    rw [List.replicate_succ, answers, ih, first, later, List.range_succ_eq_map]
    simp [List.head?_eq_getElem?]

end TokenStream

/-- Calls for the next token give the tokens of a script one after the other, and nothing when they
have all been given. These tokens, and no others, cut the script as the grammar has it. -/
theorem answers_next_and_cuts_iff (source : String) :
    (∀ n, (TokenStream.ofSource source).answers (List.replicate n .next) =
        (List.range n).map fun i => (TokenStream.tokens source)[i]?) ∧
      ∀ ts, Grammar.Cuts source.toList 0 ts ↔ ts = TokenStream.tokens source := by
  rw [TokenStream.tokens_eq_listFrom]
  exact ⟨(TokenStream.ofSource source).answers_next, fun ts => Grammar.cuts_iff⟩

end Storypath
