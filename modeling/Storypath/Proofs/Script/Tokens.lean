import Storypath.Script.Segment

/-! The tokens of a text as a list that unfolds a token at a time, and those that are not white
space. Where the text stands moves its tokens and changes nothing else. -/
namespace Storypath

namespace Token

def shift (d : Nat) (t : Token) : Token := { t with offset := t.offset + d }

@[simp] theorem kind_shift (d : Nat) (t : Token) : (t.shift d).kind = t.kind := rfl

@[simp] theorem literal_shift (d : Nat) (t : Token) : (t.shift d).literal = t.literal := rfl

@[simp] theorem targetName_shift (d : Nat) (t : Token) :
    (t.shift d).targetName = t.targetName := rfl

@[simp] theorem isWhitespace_shift (d : Nat) (t : Token) :
    (t.shift d).isWhitespace = t.isWhitespace := rfl

theorem starting_add (c : Char) (rest : List Char) (offset d : Nat) :
    starting c rest (offset + d) = (starting c rest offset).shift d := rfl

end Token

def counting (ts : List Token) : List Token := ts.filter fun t => !t.isWhitespace

namespace TokenStream

def listFrom (cs : List Char) (offset : Nat) : List Token :=
  match cs with
  | [] => []
  | c :: rest =>
    Token.starting c rest offset ::
      listFrom (Token.after c rest) (offset + (Token.extent c rest).utf8ByteSize)
termination_by cs.length
decreasing_by
  have := Token.length_after_le c rest
  simp only [List.length_cons]
  omega

@[simp] theorem listFrom_nil (offset : Nat) : listFrom [] offset = [] := by
  rw [listFrom]

theorem listFrom_cons (c : Char) (rest : List Char) (offset : Nat) :
    listFrom (c :: rest) offset = Token.starting c rest offset ::
      listFrom (Token.after c rest) (offset + (Token.extent c rest).utf8ByteSize) := by
  rw [listFrom]

theorem toList_collect (cs : List Char) (offset : Nat) (before : Array Token) :
    (collect cs offset before).toList = before.toList ++ listFrom cs offset := by
  fun_induction collect cs offset before with
  | case1 offset before => simp
  | case2 offset before c rest t ih =>
    rw [ih, listFrom_cons]
    simp [t, Token.starting]

theorem tokens_eq_listFrom (source : String) : tokens source = listFrom source.toList 0 := by
  rw [tokens, toList_collect]
  rfl

/-- Where a text stands moves its tokens and does nothing else to them. -/
theorem listFrom_add (cs : List Char) (offset d : Nat) :
    listFrom cs (offset + d) = (listFrom cs offset).map (Token.shift d) := by
  fun_induction listFrom cs offset with
  | case1 offset => simp
  | case2 offset c rest ih =>
    rw [listFrom_cons, List.map_cons, ← ih, Token.starting_add, Nat.add_right_comm]

def significant (cs : List Char) (offset : Nat) : List Token :=
  (listFrom cs offset).filter fun t => !t.isWhitespace

@[simp] theorem significant_nil (offset : Nat) : significant [] offset = [] := by
  simp [significant]

theorem significant_cons (c : Char) (rest : List Char) (offset : Nat) :
    significant (c :: rest) offset =
      if (Token.starting c rest offset).isWhitespace then
        significant (Token.after c rest) (offset + (Token.extent c rest).utf8ByteSize)
      else Token.starting c rest offset ::
        significant (Token.after c rest) (offset + (Token.extent c rest).utf8ByteSize) := by
  rw [significant, listFrom_cons, List.filter_cons]
  by_cases h : (Token.starting c rest offset).isWhitespace <;> simp [h, significant]

theorem significant_add (cs : List Char) (offset d : Nat) :
    significant cs (offset + d) = (significant cs offset).map (Token.shift d) := by
  rw [significant, listFrom_add, List.filter_map]
  rfl

end TokenStream
end Storypath
