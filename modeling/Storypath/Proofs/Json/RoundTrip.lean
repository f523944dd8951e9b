import Storypath.Json.Value

/-! What is written as JSON is read back. A text that is written token by token is cut into these
tokens, and the tokens of a value make up that value. -/
namespace Storypath.Json

/-- Cutting some characters completes some tokens and goes over from one mode to another. -/
def Cuts (mode : Mode) (cs : List Char) (tokens : List Token) (mode' : Mode) : Prop :=
  ∀ before rest,
    tokensFrom mode before (cs ++ rest) = tokensFrom mode' (before.appendList tokens) rest

namespace Cuts

variable {mode mode' mode'' : Mode} {cs cs' : List Char} {tokens tokens' : List Token}

theorem nil (mode : Mode) : Cuts mode [] [] mode := by
  intro before rest
  simp

theorem char {c : Char} (step : mode.step c = some (tokens, mode')) :
    Cuts mode [c] tokens mode' := by
  intro before rest
  simp [tokensFrom, step]

theorem trans (first : Cuts mode cs tokens mode') (second : Cuts mode' cs' tokens' mode'') :
    Cuts mode (cs ++ cs') (tokens ++ tokens') mode'' := by
  intro before rest
  rw [List.append_assoc, first, second]
  exact congrArg (fun before => tokensFrom mode'' before rest) (Array.ext' (by simp))

theorem skip {c : Char} (mode' : Mode) (step : mode.step c = some ([], mode'))
    (later : Cuts mode' cs tokens mode'') : Cuts mode (c :: cs) tokens mode'' :=
  trans (char step) later

end Cuts

theorem pushCode_toNat (d : Draft) (c : Char) : d.pushCode c.toNat = d.push c := by
  have apart : c.toNat < 0xD800 ∨ 0xDFFF < c.toNat := by
    rcases c.valid with low | ⟨high, -⟩
    · exact .inl low
    · exact .inr high
  have low : Draft.isLow c.toNat = false := by
    simp only [Draft.isLow, Bool.and_eq_false_imp, decide_eq_true_eq, decide_eq_false_iff_not]
    omega
  have high : Draft.isHigh c.toNat = false := by
    simp only [Draft.isHigh, Bool.and_eq_false_imp, decide_eq_true_eq, decide_eq_false_iff_not]
    omega
  simp [Draft.pushCode, low, high]

theorem hexValue?_digitChar {n : Nat} (h : n < 16) : hexValue? (Nat.digitChar n) = some n := by
  have all : ∀ n < 16, hexValue? (Nat.digitChar n) = some n := by decide
  exact all n h

theorem cuts_escapedChar (d : Draft) (c : Char) :
    Cuts (.string d) (escapedChar c) [] (.string (d.push c)) := by
  have escape {name : Char} (known : Mode.afterBackslash d name = some (.string (d.push c))) :
      Cuts (.string d) ['\\', name] [] (.string (d.push c)) := by
    refine .skip (.escape d) rfl (.char ?_)
    simp [Mode.step, known]
  unfold escapedChar
  split
  · next special =>
    refine escape ?_
    simp only [Bool.or_eq_true, beq_iff_eq] at special
    rcases special with rfl | rfl <;> rfl
  split
  · next same => exact escape (by rw [eq_of_beq same]; rfl)
  split
  · next same => exact escape (by rw [eq_of_beq same]; rfl)
  split
  · next same => exact escape (by rw [eq_of_beq same]; rfl)
  split
  · next same => exact escape (by rw [eq_of_beq same]; rfl)
  split
  · next same => exact escape (by rw [eq_of_beq same]; rfl)
  split
  · next control =>
    have small : c.toNat < 32 := control
    have first : hexValue? (Nat.digitChar (c.toNat / 16)) = some (c.toNat / 16) :=
      hexValue?_digitChar (by omega)
    have second : hexValue? (Nat.digitChar (c.toNat % 16)) = some (c.toNat % 16) :=
      hexValue?_digitChar (by omega)
    refine .skip (.escape d) rfl ?_
    refine .skip (.hex d 4 0) rfl ?_
    refine .skip (.hex d 3 0) rfl ?_
    refine .skip (.hex d 2 0) rfl ?_
    refine .skip (.hex d 1 (c.toNat / 16)) (by simp [Mode.step, first]) ?_
    refine .char ?_
    rw [← pushCode_toNat]
    simp [Mode.step, second, Nat.div_add_mod]
  · next quote _ _ _ _ _ control =>
    simp only [Bool.or_eq_true, not_or, Bool.not_eq_true] at quote
    exact .char (by simp [Mode.step, quote.1, quote.2, control])

theorem cuts_escaped (d : Draft) (cs : List Char) :
    Cuts (.string d) (cs.flatMap escapedChar) [] (.string (cs.foldl Draft.push d)) := by
  induction cs generalizing d with
  | nil => exact .nil _
  | cons c cs ih =>
    rw [List.flatMap_cons]
    exact (cuts_escapedChar d c).trans (ih (d.push c))

theorem foldl_push (cs before : List Char) :
    cs.foldl Draft.push ⟨before, false, none⟩ = ⟨cs.reverse ++ before, false, none⟩ := by
  induction cs generalizing before with
  | nil => rfl
  | cons c cs ih =>
    rw [List.foldl_cons, List.reverse_cons, List.append_assoc]
    exact ih (c :: before)

theorem cuts_string (s : String) :
    Cuts .gap (Token.string (some s)).written [.string (some s)] .gap := by
  refine .skip (.string .empty) rfl ?_
  refine (cuts_escaped .empty s.toList).trans (.char ?_)
  have read : (s.toList.foldl Draft.push .empty).text? = some s := by
    rw [Draft.empty, foldl_push]
    simp [Draft.text?]
  simp [Mode.step, read]

/-- A token whose writing is told apart from what comes after it by itself. -/
def Token.closed : Token → Bool
  | .number _ => false
  | .string none => false
  | _ => true

theorem cuts_written {t : Token} (closed : t.closed = true) : Cuts .gap t.written [t] .gap := by
  cases t with
  | number n => simp [Token.closed] at closed
  | string s =>
    cases s with
    | none => simp [Token.closed] at closed
    | some s => exact cuts_string s
  | bool b =>
    cases b with
    | true =>
      exact fun before rest => rfl
    | false => exact fun before rest => rfl
  | null => exact fun before rest => rfl
  | _ => exact .char rfl

theorem tokens?_of_cuts {cs : List Char} {tokens : List Token} (cuts : Cuts .gap cs tokens .gap) :
    tokens? (String.ofList cs) = some tokens := by
  have whole := cuts #[] []
  rw [List.append_nil] at whole
  simp [tokens?, whole, tokensFrom, Mode.finish]

theorem tokens?_written {tokens : List Token} (closed : ∀ t ∈ tokens, t.closed = true) :
    tokens? (String.ofList (tokens.flatMap Token.written)) = some tokens := by
  refine tokens?_of_cuts ?_
  induction tokens with
  | nil => exact .nil _
  | cons t tokens ih =>
    exact (cuts_written (closed t (by simp))).trans (ih fun t h => closed t (by simp [h]))

namespace Build

/-- An item may come first in an array: no value begins with the end of one. -/
theorem run_firstItem (v : Value) (frames : List Frame) (rest : List Token) :
    (firstItem frames).run (v.tokens ++ rest) =
      (value (.array [] :: frames)).run (v.tokens ++ rest) := by
  cases v <;> simp [Value.tokens, run, step]

mutual

theorem run_tokens (frames : List Frame) (rest : List Token) : ∀ v : Value,
    (value frames).run (v.tokens ++ rest) = (complete v frames).run rest
  | .null => rfl
  | .bool _ => rfl
  | .number _ => rfl
  | .string _ => rfl
  | .array [] => rfl
  | .object [] => rfl
  | .array (v :: vs) => by
    have items := run_itemTokens [] frames rest (v :: vs) (by simp)
    obtain ⟨tokens, split⟩ : ∃ tokens, Value.itemTokens (v :: vs) = v.tokens ++ tokens := by
      cases vs <;> exact ⟨_, rfl⟩
    rw [split, List.append_assoc, ← run_firstItem, ← List.append_assoc, ← split] at items
    exact items
  | .object (m :: ms) => by
    have members := run_memberTokens [] frames rest (m :: ms) (by simp)
    obtain ⟨k, tokens, split⟩ : ∃ k tokens, Value.memberTokens (m :: ms) = .string k :: tokens := by
      cases ms <;> exact ⟨_, _, rfl⟩
    rw [split] at members
    rw [Value.tokens, split]
    exact members

theorem run_itemTokens (before : List Value) (frames : List Frame) (rest : List Token) :
    ∀ items : List Value, items ≠ [] →
      (value (.array before :: frames)).run (Value.itemTokens items ++ rest) =
        (complete (.array (before.reverse ++ items)) frames).run rest
  | [], empty => absurd rfl empty
  | [v], _ => by
    rw [Value.itemTokens, List.append_assoc, run_tokens _ _ v]
    simp [complete, run, step]
  | v :: v' :: vs, _ => by
    have later := run_itemTokens (v :: before) frames rest (v' :: vs) (by simp)
    rw [Value.itemTokens.eq_3 _ _ (by simp), List.append_assoc, run_tokens _ _ v, List.cons_append]
    simp only [complete, run, step, Option.bind_some, later]
    simp

theorem run_memberTokens (before : List (Option String × Value)) (frames : List Frame)
    (rest : List Token) : ∀ members : List (Option String × Value), members ≠ [] →
      (key before frames).run (Value.memberTokens members ++ rest) =
        (complete (.object (before.reverse ++ members)) frames).run rest
  | [], empty => absurd rfl empty
  | [(k, v)], _ => by
    simp only [Value.memberTokens, List.cons_append, List.append_assoc, run, step,
      Option.bind_some]
    rw [run_tokens _ _ v]
    simp [complete, run, step]
  | (k, v) :: m :: ms, _ => by
    have later := run_memberTokens ((k, v) :: before) frames rest (m :: ms) (by simp)
    rw [Value.memberTokens.eq_3 _ _ _ (by simp)]
    simp only [List.cons_append, List.append_assoc, run, step, Option.bind_some]
    rw [run_tokens _ _ v]
    simp only [complete, run, step, Option.bind_some, later]
    simp

end

end Build

theorem ofTokens?_tokens (v : Value) : Value.ofTokens? v.tokens = some v := by
  have built := Build.run_tokens [] [] v
  rw [List.append_nil] at built
  rw [Value.ofTokens?, built]
  rfl

/-- A value all of whose tokens are closed: it holds no numbers, and its strings have texts. -/
def Value.Closed (v : Value) : Prop := ∀ t ∈ v.tokens, t.closed = true

namespace Value

@[simp] theorem closed_ofString (s : String) : (ofString s).Closed := by
  simp [Closed, ofString, tokens, Token.closed]

@[simp] theorem closed_bool (b : Bool) : (Value.bool b).Closed := by
  simp [Closed, tokens, Token.closed]

@[simp] theorem closed_array {items : List Value} :
    (array items).Closed ↔ ∀ v ∈ items, v.Closed := by
  have inside : (∀ t ∈ itemTokens items, t.closed = true) ↔ ∀ v ∈ items, v.Closed := by
    induction items with
    | nil => simp [itemTokens, Token.closed]
    | cons v vs ih =>
      cases vs with
      | nil => simp [itemTokens, Closed, or_imp, forall_and, Token.closed]
      | cons v' vs =>
        rw [itemTokens.eq_3 _ _ (by simp), List.forall_mem_cons, ← ih]
        simp [Closed, or_imp, forall_and, Token.closed]
  simpa [Closed, tokens, Token.closed] using inside

@[simp] theorem closed_ofMembers {members : List (String × Value)} :
    (ofMembers members).Closed ↔ ∀ m ∈ members, m.2.Closed := by
  have inside : (∀ t ∈ memberTokens (members.map fun m => (some m.1, m.2)), t.closed = true) ↔
      ∀ m ∈ members, m.2.Closed := by
    induction members with
    | nil => simp [memberTokens, Token.closed]
    | cons m ms ih =>
      cases ms with
      | nil => simp [memberTokens, Closed, or_imp, forall_and, Token.closed]
      | cons m' ms =>
        rw [List.forall_mem_cons, ← ih, List.map_cons, List.map_cons, memberTokens.eq_3 _ _ _ (by simp)]
        simp [Closed, or_imp, forall_and, Token.closed]
  simpa [Closed, ofMembers, tokens, Token.closed] using inside

end Value

/-- A value is read back from what is written of it, if each of its tokens is closed. -/
theorem parse?_render {v : Value} (closed : v.Closed) : Value.parse? v.render = some v := by
  rw [Value.parse?, Value.render, tokens?_written closed, Option.bind_some, ofTokens?_tokens]

theorem cuts_newLine (level : Nat) : Cuts .gap (Value.newLine level) [] .gap := by
  refine .skip .gap rfl ?_
  induction 2 * level with
  | zero => exact .nil _
  | succ n ih => exact .skip .gap rfl ih

namespace Value

theorem cuts_closing (level : Nat) {c : Char} {t : Token}
    (step : Mode.gap.step c = some ([t], .gap)) :
    Cuts .gap (newLine level ++ [c]) [t] .gap :=
  (cuts_newLine level).trans (.char step)

theorem cuts_key (level : Nat) {k : Option String} (closed : (Token.string k).closed = true) :
    Cuts .gap (newLine level ++ (Token.string k).written ++ [':', ' ']) [.string k, .colon] .gap :=
  have colon : Cuts .gap [':', ' '] [.colon] .gap := fun _ _ => rfl
  ((cuts_newLine level).trans (cuts_written closed)).trans colon

mutual

theorem cuts_indented (level : Nat) : ∀ v : Value, v.Closed →
    Cuts .gap (indented level v) v.tokens .gap
  | .null, _ => by
    rw [indented, tokens]
    exact cuts_written rfl
  | .bool _, _ => by
    rw [indented, tokens]
    exact cuts_written rfl
  | .number n, closed => by simp [Closed, tokens, Token.closed] at closed
  | .string s, closed => by
    rw [indented, tokens]
    exact cuts_written (closed (.string s) (by simp [tokens]))
  | .array [], _ => by
    rw [indented, tokens, itemTokens]
    exact fun _ _ => rfl
  | .object [], _ => by
    rw [indented, tokens, memberTokens]
    exact fun _ _ => rfl
  | .array (v :: vs), closed => by
    have opening : Cuts .gap ['['] [.openArray] .gap := .char rfl
    have items := cuts_indentedItems (level + 1) level (v :: vs) (by simp) fun t mem =>
      closed t (by simp [tokens, mem])
    rw [indented.eq_2 _ _ (by simp), tokens]
    simpa using opening.trans items
  | .object (m :: ms), closed => by
    have opening : Cuts .gap ['{'] [.openObject] .gap := .char rfl
    have members := cuts_indentedMembers (level + 1) level (m :: ms) (by simp) fun t mem =>
      closed t (by simp [tokens, mem])
    rw [indented.eq_4 _ _ (by simp), tokens]
    simpa using opening.trans members

theorem cuts_indentedItems (level outer : Nat) : ∀ items : List Value, items ≠ [] →
    (∀ t ∈ itemTokens items, t.closed = true) →
      Cuts .gap (indentedItems level items ++ newLine outer ++ [']']) (itemTokens items) .gap
  | [], empty, _ => absurd rfl empty
  | [v], _, closed => by
    have item := (cuts_newLine level).trans
      (cuts_indented level v fun t mem => closed t (by simp [itemTokens, mem]))
    have closing : Cuts .gap (newLine outer ++ [']']) [.closeArray] .gap := cuts_closing outer rfl
    rw [indentedItems, itemTokens]
    simpa using item.trans closing
  | v :: v' :: vs, _, closed => by
    rw [itemTokens.eq_3 _ _ (by simp)] at closed ⊢
    have item := (cuts_newLine level).trans
      (cuts_indented level v fun t mem => closed t (by simp [mem]))
    have comma : Cuts .gap [','] [.comma] .gap := .char rfl
    have later := cuts_indentedItems level outer (v' :: vs) (by simp) fun t mem =>
      closed t (by simp [mem])
    rw [indentedItems.eq_3 _ _ _ (by simp)]
    simpa using item.trans (comma.trans later)

theorem cuts_indentedMembers (level outer : Nat) : ∀ members : List (Option String × Value),
    members ≠ [] → (∀ t ∈ memberTokens members, t.closed = true) →
      Cuts .gap (indentedMembers level members ++ newLine outer ++ ['}']) (memberTokens members)
        .gap
  | [], empty, _ => absurd rfl empty
  | [(k, v)], _, closed => by
    rw [memberTokens] at closed ⊢
    have key := cuts_key level (closed (.string k) (by simp))
    have member := key.trans (cuts_indented level v fun t mem => closed t (by simp [mem]))
    have closing : Cuts .gap (newLine outer ++ ['}']) [.closeObject] .gap :=
      cuts_closing outer rfl
    rw [indentedMembers]
    simpa using member.trans closing
  | (k, v) :: m :: ms, _, closed => by
    rw [memberTokens.eq_3 _ _ _ (by simp)] at closed ⊢
    have key := cuts_key level (closed (.string k) (by simp))
    have member := key.trans (cuts_indented level v fun t mem => closed t (by simp [mem]))
    have comma : Cuts .gap [','] [.comma] .gap := .char rfl
    have later := cuts_indentedMembers level outer (m :: ms) (by simp) fun t mem =>
      closed t (by simp [mem])
    rw [indentedMembers.eq_3 _ _ _ _ (by simp)]
    simpa using member.trans (comma.trans later)

end

end Value

theorem parse?_renderIndented {v : Value} (closed : v.Closed) :
    Value.parse? v.renderIndented = some v := by
  rw [Value.parse?, Value.renderIndented, tokens?_of_cuts (Value.cuts_indented 0 v closed),
    Option.bind_some, ofTokens?_tokens]

end Storypath.Json
