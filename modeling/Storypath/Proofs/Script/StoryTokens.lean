import Storypath.Proofs.Script.Story
import Storypath.Proofs.Script.Tokens

/-! The tokens of the script that a story is written as, line by line. Where a token stands
does not matter here, so a token counts by its kind and its literal. -/
namespace Storypath

abbrev Mark := TokenKind × String

def Token.mark (t : Token) : Mark := (t.kind, t.literal)

namespace TokenStream

def marks (cs : List Char) : List Mark := (significant cs 0).map Token.mark

theorem map_mark_significant (cs : List Char) (offset : Nat) :
    (significant cs offset).map Token.mark = marks cs := by
  have shifted := significant_add cs 0 offset
  rw [Nat.zero_add] at shifted
  rw [marks, shifted, List.map_map]
  rfl

@[simp] theorem marks_nil : marks [] = [] := by simp [marks]

theorem marks_cons (c : Char) (rest : List Char) :
    marks (c :: rest) =
      if Token.kindOf c (Token.extent c rest) = .whitespace then marks (Token.after c rest)
      else (Token.kindOf c (Token.extent c rest), Token.extent c rest) ::
        marks (Token.after c rest) := by
  rw [marks, significant_cons]
  by_cases h : Token.kindOf c (Token.extent c rest) = .whitespace
  · simp [Token.isWhitespace, Token.starting, h, map_mark_significant]
  · simp [Token.isWhitespace, Token.starting, h, map_mark_significant, Token.mark]

theorem after_blank {c : Char} (h : (Token.isBlank c || c == ']') = true) (rest : List Char) :
    Token.after c rest = rest.dropWhile Token.isBlank := by
  have follows : Token.continues c = Token.isBlank := by
    funext d
    simp only [Token.continues, h, if_true]
  rw [Token.after, follows]

theorem marks_dropBlank (rest : List Char) :
    marks (rest.dropWhile Token.isBlank) = marks rest := by
  cases rest with
  | nil => rfl
  | cons d rest =>
    by_cases h : Token.isBlank d
    · have blank : (Token.isBlank d || d == ']') = true := by simp [h]
      rw [List.dropWhile_cons_of_pos h, marks_cons, after_blank blank,
        if_pos (by simp [Token.kindOf, h])]
    · rw [List.dropWhile_cons_of_neg h]

theorem marks_blank {c : Char} (h : (Token.isBlank c || c == ']') = true) (rest : List Char) :
    marks (c :: rest) = marks rest := by
  rw [marks_cons, if_pos (by simp [Token.kindOf, h]), after_blank h, marks_dropBlank]

theorem marks_token {c d : Char} {cs : List Char} (rest : List Char)
    (inside : ∀ x ∈ cs, Token.continues c x = true) (outside : Token.continues c d = false)
    (counts : Token.kindOf c (String.ofList (c :: cs)) ≠ .whitespace) :
    marks (c :: (cs ++ d :: rest)) =
      (Token.kindOf c (String.ofList (c :: cs)), String.ofList (c :: cs)) ::
        marks (d :: rest) := by
  have extent : Token.extent c (cs ++ d :: rest) = String.ofList (c :: cs) := by
    rw [Token.extent, List.takeWhile_append_of_pos inside,
      List.takeWhile_cons_of_neg (by simp [outside]), List.append_nil]
  have after : Token.after c (cs ++ d :: rest) = d :: rest := by
    rw [Token.after, List.dropWhile_append_of_pos inside,
      List.dropWhile_cons_of_neg (by simp [outside])]
  rw [marks_cons, extent, after, if_neg counts]

end TokenStream

namespace Story

open TokenStream

variable (rest : List Char)

theorem marks_line (l : Line) :
    marks (l.text.toList ++ '\n' :: rest) = (.text, l.text) :: marks rest := by
  obtain ⟨first, head, notSign⟩ := l.plain
  obtain ⟨inner, chars⟩ := List.head?_eq_some_iff.mp head
  have noEnd := l.unbroken
  rw [chars] at noEnd
  have ofChars : String.ofList (first :: inner) = l.text := by rw [← chars, String.ofList_toList]
  have kind : Token.kindOf first l.text = .text := by
    have := noEnd first (by simp)
    simp [Token.kindOf, Token.isBlank] at notSign ⊢
    simp [this, notSign]
  have continues (x : Char) : Token.continues first x = !Token.isLineEnd x := by
    have := noEnd first (by simp)
    simp [Token.continues, Token.isBlank] at notSign ⊢
    simp [this, notSign]
  rw [chars, List.cons_append, marks_token rest, ofChars, kind, marks_blank rfl]
  · intro x hx
    have := noEnd x (by simp [hx])
    simp [continues, Token.isLineEnd, this]
  · rw [continues]
    rfl
  · rw [ofChars, kind]
    simp

theorem marks_pause (d : Line) :
    marks (("@wait " ++ d.text).toList ++ '\n' :: rest) =
      (.wait, "@wait") :: (.text, d.text) :: marks rest := by
  have word : ("@wait " ++ d.text).toList ++ '\n' :: rest =
      '@' :: ("wait".toList ++ ' ' :: (d.text.toList ++ '\n' :: rest)) := by simp
  rw [word, marks_token, marks_blank rfl, marks_line]
  · rfl
  · simp [Token.continues, Token.isBlank]
  · rfl
  · decide

theorem marks_star (n : Name) {d : Char} (ends : d.isAlphanum = false) :
    marks ('*' :: (n.text.toList ++ d :: rest)) =
      (.label, "*" ++ n.text) :: marks (d :: rest) := by
  have literal : String.ofList ('*' :: n.text.toList) = "*" ++ n.text := by
    rw [← String.toList_inj]
    simp
  rw [marks_token, literal]
  · rfl
  · exact n.letters
  · exact ends
  · simp [Token.kindOf, Token.isBlank]

theorem marks_label (n : Name) :
    marks (("*" ++ n.text).toList ++ '\n' :: rest) = (.label, "*" ++ n.text) :: marks rest := by
  have chars : ("*" ++ n.text).toList ++ '\n' :: rest =
      '*' :: (n.text.toList ++ '\n' :: rest) := by simp
  rw [chars, marks_star rest n rfl, marks_blank rfl]

def Link.marks (l : Link) : List Mark :=
  if l.starred then [(.jumpBracket, "["), (.label, "*" ++ l.name.text)]
  else [(.jumpBracket, "[" ++ l.name.text)]

theorem marks_link (l : Link) :
    marks ('[' :: (l.text.toList ++ ']' :: rest)) = l.marks ++ marks rest := by
  obtain ⟨n, starred⟩ := l
  cases starred with
  | true =>
    have chars : '[' :: ((Link.text ⟨n, true⟩).toList ++ ']' :: rest) =
        '[' :: ([] ++ '*' :: (n.text.toList ++ ']' :: rest)) := by simp [Link.text]
    rw [chars, marks_token, marks_star rest n rfl, marks_blank rfl]
    · rfl
    · simp
    · rfl
    · decide
  | false =>
    have literal : String.ofList ('[' :: n.text.toList) = "[" ++ n.text := by
      rw [← String.toList_inj]
      simp
    simp only [Link.text, Bool.false_eq_true, if_false]
    rw [marks_token, literal, marks_blank rfl]
    · rfl
    · exact n.letters
    · rfl
    · simp [Token.kindOf, Token.isBlank]

def Part.marks : Part → List Mark
  | .line l => [(.text, l.text)]
  | .pause d => [(.wait, "@wait"), (.text, d.text)]

def Way.buttonMarks (w : Way) : List Mark := w.button.toList.map fun l => (.text, l.text)

def Way.marks (w : Way) : List Mark := (.branchMarker, "-") :: (w.link.marks ++ w.buttonMarks)

def Ending.marks : Ending → List Mark
  | .stop => [(.blockEnd, "@end")]
  | .jump link => link.marks
  | .choice prompt ways =>
    (.choiceBlockStart, "@buttons") :: (.text, prompt.text) ::
      (ways.flatMap Way.marks ++ [(.blockEnd, "@end")])

def Segment.marks (s : Segment) : List Mark :=
  (.label, "*" ++ s.name.text) :: (s.body.flatMap Part.marks ++ s.ending.marks)

theorem marks_part (p : Part) :
    TokenStream.marks (p.write.toList ++ '\n' :: rest) = p.marks ++ TokenStream.marks rest := by
  cases p with
  | line l => exact marks_line rest l
  | pause d => exact marks_pause rest d

theorem marks_way (w : Way) :
    TokenStream.marks (w.write.toList ++ '\n' :: rest) = w.marks ++ TokenStream.marks rest := by
  have chars : w.write.toList ++ '\n' :: rest =
      '-' :: ([] ++ ' ' :: '[' :: (w.link.text.toList ++ ']' :: ' ' ::
        (w.buttonText.toList ++ '\n' :: rest))) := by simp [Way.write]
  have button : TokenStream.marks (w.buttonText.toList ++ '\n' :: rest) =
      w.buttonMarks ++ TokenStream.marks rest := by
    cases h : w.button with
    | none =>
      have empty : w.buttonText.toList = [] := by simp [Way.buttonText, h]
      rw [empty, List.nil_append, marks_blank rfl]
      simp [Way.buttonMarks, h]
    | some l => simp [Way.buttonText, Way.buttonMarks, h, marks_line]
  rw [chars, marks_token, marks_blank rfl, marks_link, marks_blank rfl, button]
  · simp [Way.marks, Token.kindOf, Token.isBlank]
  · simp
  · rfl
  · decide

theorem marks_end : marks ("@end".toList ++ '\n' :: rest) = (.blockEnd, "@end") :: marks rest := by
  have chars : "@end".toList ++ '\n' :: rest = '@' :: ("end".toList ++ '\n' :: rest) := rfl
  rw [chars, marks_token, marks_blank rfl]
  · rfl
  · simp [Token.continues, Token.isBlank]
  · rfl
  · decide

theorem marks_buttons :
    marks ("@buttons".toList ++ '\n' :: rest) = (.choiceBlockStart, "@buttons") :: marks rest := by
  have chars : "@buttons".toList ++ '\n' :: rest = '@' :: ("buttons".toList ++ '\n' :: rest) := rfl
  rw [chars, marks_token, marks_blank rfl]
  · rfl
  · simp [Token.continues, Token.isBlank]
  · rfl
  · decide

/-- These lines have these marks, whatever follows them. -/
def Leaves (lines : List String) (ms : List Mark) : Prop :=
  ∀ rest, TokenStream.marks ((writeLines lines).toList ++ rest) = ms ++ TokenStream.marks rest

variable {lines lines' : List String} {ms ms' : List Mark} {α : Type}

theorem Leaves.line {l : String}
    (h : ∀ rest, TokenStream.marks (l.toList ++ '\n' :: rest) = ms ++ TokenStream.marks rest) :
    Leaves [l] ms := by
  intro rest
  have chars : (writeLines [l]).toList ++ rest = l.toList ++ '\n' :: rest := by simp [writeLines]
  rw [chars, h]

theorem writeLines_append (lines lines' : List String) :
    writeLines (lines ++ lines') = writeLines lines ++ writeLines lines' := by
  induction lines with
  | nil => simp [writeLines]
  | cons l lines ih => simp [writeLines, ih, String.append_assoc]

theorem Leaves.append (first : Leaves lines ms) (second : Leaves lines' ms') :
    Leaves (lines ++ lines') (ms ++ ms') := by
  intro rest
  rw [writeLines_append, String.toList_append, List.append_assoc, first, second,
    List.append_assoc]

theorem Leaves.flatMap {f : α → List String} {g : α → List Mark} (h : ∀ a, Leaves (f a) (g a))
    (xs : List α) : Leaves (xs.flatMap f) (xs.flatMap g) := by
  induction xs with
  | nil =>
    intro rest
    rfl
  | cons a xs ih => exact (h a).append ih

theorem Leaves.map {f : α → String} {g : α → List Mark} (h : ∀ a, Leaves [f a] (g a))
    (xs : List α) : Leaves (xs.map f) (xs.flatMap g) := by
  rw [List.map_eq_flatMap]
  exact Leaves.flatMap h xs

theorem leaves_ending (e : Ending) : Leaves e.lines e.marks := by
  have stop : Leaves ["@end"] [(.blockEnd, "@end")] := .line marks_end
  cases e with
  | stop => exact stop
  | jump link =>
    refine .line fun rest => ?_
    have chars : ("[" ++ link.text ++ "]").toList ++ '\n' :: rest =
        '[' :: (link.text.toList ++ ']' :: '\n' :: rest) := by simp
    rw [chars, marks_link, marks_blank rfl]
    rfl
  | choice prompt ways =>
    have start : Leaves ["@buttons"] [(.choiceBlockStart, "@buttons")] := .line marks_buttons
    have asked : Leaves [prompt.text] [(.text, prompt.text)] :=
      .line fun rest => marks_line rest prompt
    have ways : Leaves (ways.map Way.write) (ways.flatMap Way.marks) :=
      .map (fun w => .line fun rest => marks_way rest w) ways
    exact start.append (asked.append (ways.append stop))

theorem leaves_segment (s : Segment) : Leaves s.lines s.marks := by
  have label : Leaves ["*" ++ s.name.text] [(.label, "*" ++ s.name.text)] :=
    .line fun rest => marks_label rest s.name
  have body : Leaves (s.body.map Part.write) (s.body.flatMap Part.marks) :=
    .map (fun p => .line fun rest => marks_part rest p) s.body
  exact label.append (body.append (leaves_ending s.ending))

/-- The tokens of the script of a story are those of its segments. -/
theorem marks_script (story : Story) :
    TokenStream.marks story.script.toList = story.segments.flatMap Segment.marks := by
  have := Leaves.flatMap leaves_segment story.segments []
  simpa [script] using this

end Story
end Storypath
