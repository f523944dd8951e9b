import Storypath.Proofs.Script.Tokens

/-! The outline of a script: its constructs in order, read from the tokens that are not white
space, each construct looking ahead as far as it reaches and nothing put back. What a reader
looks for plays no part in it. -/
namespace Storypath

/-- An entry of an outline: a construct, or what strict reading stops at. -/
inductive Entry where
  | item (item : Item)
  | flaw (flaw : Flaw)
  deriving DecidableEq

namespace Outline

def name : List Token → String × List Token
  | [] => ("", [])
  | t :: ts => (t.literal, ts)

def target (bracket : Token) (ts : List Token) : String × List Token :=
  if bracket.targetName = "" then name ts else (bracket.targetName, ts)

def button : List Token → String × List Token
  | [] => ("", [])
  | t :: ts => if t.kind = .text then (t.literal, ts) else ("", t :: ts)

def branch : List Token → Option Branch × List Token
  | [] => (none, [])
  | t :: ts =>
    if t.kind = .jumpBracket then
      let named := target t ts
      let text := button named.2
      (some ⟨named.1, text.1⟩, text.2)
    else (none, t :: ts)

theorem length_name_le (ts : List Token) : (name ts).2.length ≤ ts.length := by
  cases ts <;> simp [name]

theorem length_target_le (bracket : Token) (ts : List Token) :
    (target bracket ts).2.length ≤ ts.length := by
  unfold target
  split
  · exact length_name_le ts
  · exact Nat.le_refl _

theorem length_button_le (ts : List Token) : (button ts).2.length ≤ ts.length := by
  cases ts with
  | nil => simp [button]
  | cons t ts => by_cases h : t.kind = .text <;> simp [button, h]

theorem length_branch_le (ts : List Token) : (branch ts).2.length ≤ ts.length := by
  cases ts with
  | nil => simp [branch]
  | cons t ts =>
    by_cases h : t.kind = .jumpBracket
    · have hb := length_button_le (target t ts).2
      have ht := length_target_le t ts
      simp only [branch, h, if_true, List.length_cons]
      omega
    · simp [branch, h]

/-- The branches of a block, whether none lacked a target, and the tokens after them. -/
structure Row where
  branches : List Branch
  whole : Bool
  rest : List Token

def Row.after (before : List Branch) (r : Row) : Row := { r with branches := before ++ r.branches }

def row : List Token → Row
  | [] => ⟨[], true, []⟩
  | t :: ts =>
    if t.kind = .branchMarker then
      match (branch ts).1 with
      | some b => (row (branch ts).2).after [b]
      | none => ⟨[], false, (branch ts).2⟩
    else ⟨[], true, t :: ts⟩
termination_by ts => ts.length
decreasing_by
  have := length_branch_le ts
  simp only [List.length_cons]
  omega

def markedRow (ts : List Token) : Row :=
  match (branch ts).1 with
  | some b => (row (branch ts).2).after [b]
  | none => ⟨[], false, (branch ts).2⟩

@[simp] theorem row_nil : row [] = ⟨[], true, []⟩ := by rw [row]

theorem row_cons (t : Token) (ts : List Token) :
    row (t :: ts) = if t.kind = .branchMarker then markedRow ts else ⟨[], true, t :: ts⟩ := by
  rw [row]
  rfl

theorem length_row_le (ts : List Token) : (row ts).rest.length ≤ ts.length := by
  fun_induction row ts with
  | case1 => simp
  | case2 t ts _ b _ ih =>
    have := length_branch_le ts
    simp only [Row.after, List.length_cons]
    omega
  | case3 t ts _ _ =>
    have := length_branch_le ts
    simp only [List.length_cons]
    omega
  | case4 => simp

def close (prompt : String) (r : Row) :
    Except ChoiceFlaw (String × List Branch) × List Token :=
  if r.whole then
    match r.rest with
    | [] => (.error .notClosed, [])
    | t :: ts =>
      if t.kind = .blockEnd then (.ok (prompt, r.branches), ts) else (.error .notClosed, t :: ts)
  else (.error .branchWithoutTarget, r.rest)

def block : List Token → Except ChoiceFlaw (String × List Branch) × List Token
  | [] => (.error .noPrompt, [])
  | t :: ts => close t.literal (row ts)

def choiceEntry (options : ScriptOptions) (start : Nat)
    (b : Except ChoiceFlaw (String × List Branch) × List Token) : Option Entry × List Token :=
  match b.1 with
  | .ok (prompt, branches) =>
    (some (.item (.choice prompt (branches.take options.maxBranches))), b.2)
  | .error flaw =>
    if options.strict then (some (.flaw (.choice start flaw)), [])
    else (some (.item .brokenChoice), b.2)

/-- The entry that a wait makes: strict reading wants a text after it, any other reading takes
whatever comes. -/
def waitEntry (options : ScriptOptions) (start : Nat) :
    List Token → Option Entry × List Token
  | [] => if options.strict then (some (.flaw (.wait start "")), []) else (none, [])
  | t :: ts =>
    if t.kind = .text then (some (.item (.pause t.literal)), ts)
    else if options.strict then (some (.flaw (.wait start t.literal)), [])
    else (some (.item (.pause t.literal)), ts)

/-- The construct that a token begins, if it begins one, and the tokens after it; nothing is
read after a flaw. -/
def construct (options : ScriptOptions) (t : Token) (ts : List Token) :
    Option Entry × List Token :=
  match t.kind with
  | .text => (some (.item (.text t.literal)), ts)
  | .label => (some (.item (.label t.literal)), ts)
  | .jumpBracket => (some (.item (.jump (target t ts).1)), (target t ts).2)
  | .choiceBlockStart => choiceEntry options t.offset (block ts)
  | .wait => waitEntry options t.offset ts
  | .blockEnd => (some (.item .blockEnd), ts)
  | .endOfInput | .whitespace | .branchMarker | .illegal => (none, ts)

theorem length_close_le (prompt : String) (r : Row) :
    (close prompt r).2.length ≤ r.rest.length := by
  unfold close
  split
  · split
    · simp
    · split <;> simp [*]
  · exact Nat.le_refl _

theorem length_block_le (ts : List Token) : (block ts).2.length ≤ ts.length := by
  cases ts with
  | nil => simp [block]
  | cons t ts =>
    calc
      (block (t :: ts)).2.length ≤ (row ts).rest.length := length_close_le t.literal (row ts)
      _ ≤ ts.length := length_row_le ts
      _ ≤ (t :: ts).length := by simp

theorem length_choiceEntry_le (options : ScriptOptions) (start : Nat)
    (b : Except ChoiceFlaw (String × List Branch) × List Token) :
    (choiceEntry options start b).2.length ≤ b.2.length := by
  unfold choiceEntry
  split
  · exact Nat.le_refl _
  · split <;> simp

theorem length_waitEntry_le (options : ScriptOptions) (start : Nat) (ts : List Token) :
    (waitEntry options start ts).2.length ≤ ts.length := by
  cases ts with
  | nil => by_cases strict : options.strict <;> simp [waitEntry, strict]
  | cons t ts =>
    by_cases h : t.kind = .text <;> by_cases strict : options.strict <;>
      simp [waitEntry, h, strict]

theorem length_construct_le (options : ScriptOptions) (t : Token) (ts : List Token) :
    (construct options t ts).2.length ≤ ts.length := by
  unfold construct
  split
  case h_3 => exact length_target_le t ts
  case h_4 => exact Nat.le_trans (length_choiceEntry_le _ _ _) (length_block_le ts)
  case h_5 => exact length_waitEntry_le options t.offset ts
  all_goals exact Nat.le_refl _

def entries (options : ScriptOptions) : List Token → List Entry
  | [] => []
  | t :: ts =>
    (construct options t ts).1.toList ++ entries options (construct options t ts).2
termination_by ts => ts.length
decreasing_by
  have := length_construct_le options t ts
  simp only [List.length_cons]
  omega

@[simp] theorem entries_nil (options : ScriptOptions) : entries options [] = [] := by
  rw [entries]

theorem entries_cons (options : ScriptOptions) (t : Token) (ts : List Token) :
    entries options (t :: ts) =
      (construct options t ts).1.toList ++ entries options (construct options t ts).2 := by
  rw [entries]

def ofSource (options : ScriptOptions) (source : String) : List Entry :=
  entries options ((TokenStream.tokens source).filter fun t => !t.isWhitespace)

theorem ofSource_eq (options : ScriptOptions) (source : String) :
    ofSource options source = entries options (TokenStream.significant source.toList 0) := by
  rw [ofSource, TokenStream.tokens_eq_listFrom]
  rfl

end Outline

def Flaw.shift (d : Nat) : Flaw → Flaw
  | .wait start found => .wait (start + d) found
  | .choice start flaw => .choice (start + d) flaw

def Entry.shift (d : Nat) : Entry → Entry
  | .item i => .item i
  | .flaw f => .flaw (f.shift d)

namespace Outline

def shiftRest {α : Type} (d : Nat) (p : α × List Token) : α × List Token :=
  (p.1, p.2.map (Token.shift d))

variable {options : ScriptOptions} (d : Nat)

theorem name_shift (ts : List Token) : name (ts.map (Token.shift d)) = shiftRest d (name ts) := by
  cases ts <;> rfl

theorem target_shift (t : Token) (ts : List Token) :
    target (t.shift d) (ts.map (Token.shift d)) = shiftRest d (target t ts) := by
  unfold target
  rw [Token.targetName_shift, name_shift]
  split <;> rfl

theorem button_shift (ts : List Token) :
    button (ts.map (Token.shift d)) = shiftRest d (button ts) := by
  cases ts with
  | nil => rfl
  | cons t ts => by_cases h : t.kind = .text <;> simp [button, h, shiftRest]

theorem branch_shift (ts : List Token) :
    branch (ts.map (Token.shift d)) = shiftRest d (branch ts) := by
  cases ts with
  | nil => rfl
  | cons t ts =>
    by_cases h : t.kind = .jumpBracket
    · have named := target_shift d t ts
      have texted := button_shift d (target t ts).2
      simp only [shiftRest] at named texted
      simp [branch, h, named, texted, shiftRest]
    · simp [branch, h, shiftRest]

def Row.shift (r : Row) : Row := { r with rest := r.rest.map (Token.shift d) }

theorem row_shift (ts : List Token) : row (ts.map (Token.shift d)) = (row ts).shift d := by
  fun_induction row ts with
  | case1 => simp [Row.shift]
  | case2 t ts marked b found ih =>
    rw [List.map_cons, row_cons, Token.kind_shift, if_pos marked, markedRow, branch_shift]
    simp [shiftRest, found, ih, Row.shift, Row.after]
  | case3 t ts marked none =>
    rw [List.map_cons, row_cons, Token.kind_shift, if_pos marked, markedRow, branch_shift]
    simp [shiftRest, none, Row.shift]
  | case4 t ts unmarked =>
    rw [List.map_cons, row_cons, Token.kind_shift, if_neg unmarked]
    rfl

theorem close_shift (prompt : String) (r : Row) :
    close prompt (r.shift d) = shiftRest d (close prompt r) := by
  by_cases whole : r.whole
  · cases hr : r.rest with
    | nil => simp [close, Row.shift, whole, hr, shiftRest]
    | cons t ts =>
      by_cases h : t.kind = .blockEnd <;> simp [close, Row.shift, whole, hr, h, shiftRest]
  · simp [close, Row.shift, whole, shiftRest]

theorem block_shift (ts : List Token) :
    block (ts.map (Token.shift d)) = shiftRest d (block ts) := by
  cases ts with
  | nil => rfl
  | cons t ts => rw [List.map_cons, block, row_shift, close_shift]; rfl

def shiftEntry (p : Option Entry × List Token) : Option Entry × List Token :=
  (p.1.map (Entry.shift d), p.2.map (Token.shift d))

theorem choiceEntry_shift (start : Nat)
    (b : Except ChoiceFlaw (String × List Branch) × List Token) :
    choiceEntry options (start + d) (shiftRest d b) =
      shiftEntry d (choiceEntry options start b) := by
  obtain ⟨flaw | block, rest⟩ := b
  · by_cases strict : options.strict <;>
      simp [choiceEntry, shiftRest, shiftEntry, strict, Entry.shift, Flaw.shift]
  · rfl

theorem waitEntry_shift (start : Nat) (ts : List Token) :
    waitEntry options (start + d) (ts.map (Token.shift d)) =
      shiftEntry d (waitEntry options start ts) := by
  cases ts with
  | nil =>
    by_cases strict : options.strict <;>
      simp [waitEntry, shiftEntry, strict, Entry.shift, Flaw.shift]
  | cons t ts =>
    by_cases h : t.kind = .text <;> by_cases strict : options.strict <;>
      simp [waitEntry, shiftEntry, h, strict, Entry.shift, Flaw.shift]

theorem construct_shift (t : Token) (ts : List Token) :
    construct options (t.shift d) (ts.map (Token.shift d)) =
      shiftEntry d (construct options t ts) := by
  unfold construct
  rw [Token.kind_shift]
  cases t.kind with
  | jumpBracket => simp only [target_shift]; rfl
  | choiceBlockStart =>
    rw [block_shift]
    exact choiceEntry_shift d t.offset (block ts)
  | wait => exact waitEntry_shift d t.offset ts
  | _ => rfl

/-- Where a script stands moves its flaws and changes no construct. -/
theorem entries_shift (ts : List Token) :
    entries options (ts.map (Token.shift d)) = (entries options ts).map (Entry.shift d) := by
  fun_induction entries options ts with
  | case1 => simp
  | case2 t ts ih =>
    rw [List.map_cons, entries_cons, construct_shift]
    simp only [shiftEntry, ih, List.map_append]
    cases (construct options t ts).1 <;> rfl

end Outline
end Storypath
