import Mathlib
import Storypath.Proofs.Script.Reading

/-! Line endings. A carriage return before a line feed is one more blank at the end of a line. It
changes neither the class nor the literal of a token that counts, and neither the line nor the column
of any. Main statement: a script is resolved alike with line feeds and with both characters. -/
namespace Storypath

def crlf (cs : List Char) : List Char :=
  cs.flatMap fun c => if c = '\n' then ['\r', '\n'] else [c]

@[simp] theorem crlf_nil : crlf [] = [] := rfl

@[simp] theorem crlf_lineFeed (cs : List Char) : crlf ('\n' :: cs) = '\r' :: '\n' :: crlf cs := rfl

theorem crlf_cons {c : Char} (other : c ≠ '\n') (cs : List Char) : crlf (c :: cs) = c :: crlf cs := by
  simp [crlf, other]

theorem crlf_append (cs cs' : List Char) : crlf (cs ++ cs') = crlf cs ++ crlf cs' :=
  List.flatMap_append

theorem crlf_of_no_lineFeed {cs : List Char} (none : '\n' ∉ cs) : crlf cs = cs := by
  induction cs with
  | nil => rfl
  | cons c cs ih =>
    rw [List.mem_cons, not_or] at none
    rw [crlf_cons (Ne.symm none.1), ih none.2]

section

variable {p : Char → Bool} (alike : p '\r' = p '\n')
include alike

theorem takeWhile_crlf (cs : List Char) : (crlf cs).takeWhile p = crlf (cs.takeWhile p) := by
  induction cs with
  | nil => rfl
  | cons c cs ih =>
    by_cases feed : c = '\n'
    · subst feed
      cases fits : p '\n' <;> simp [alike, fits, ih]
    · cases fits : p c <;> simp [crlf_cons feed, fits, ih]

theorem dropWhile_crlf (cs : List Char) : (crlf cs).dropWhile p = crlf (cs.dropWhile p) := by
  induction cs with
  | nil => rfl
  | cons c cs ih =>
    by_cases feed : c = '\n'
    · subst feed
      cases fits : p '\n' <;> simp [alike, fits, ih]
    · cases fits : p c <;> simp [crlf_cons feed, fits, ih]

end

/-- How many bytes lie before the character at an offset once the carriage returns are there. -/
def crlfOffset : List Char → Nat → Nat
  | [], _ => 0
  | c :: cs, offset =>
    if offset = 0 then 0 else String.utf8Len (crlf [c]) + crlfOffset cs (offset - c.utf8Size)

theorem crlfOffset_append (before rest : List Char) :
    crlfOffset (before ++ rest) (String.utf8Len before) = String.utf8Len (crlf before) := by
  induction before with
  | nil => cases rest <;> simp [crlfOffset]
  | cons c before ih =>
    have some_ : c.utf8Size ≠ 0 := Nat.ne_of_gt c.utf8Size_pos
    have whole : crlf (c :: before) = crlf [c] ++ crlf before := crlf_append [c] before
    rw [List.cons_append, crlfOffset, String.utf8Len_cons, if_neg (by omega), Nat.add_sub_cancel, ih,
      whole, String.utf8Len_append]

theorem crlfOffset_add (before part rest : List Char) :
    crlfOffset (before ++ (part ++ rest)) (String.utf8Len before + String.utf8Len part) =
      crlfOffset (before ++ (part ++ rest)) (String.utf8Len before) +
        String.utf8Len (crlf part) := by
  rw [crlfOffset_append, ← String.utf8Len_append, ← List.append_assoc, crlfOffset_append, crlf_append,
    String.utf8Len_append]

namespace Location

/-- The column of a carriage return is lost again with the line feed that follows it. -/
theorem walk_crlf (cs : List Char) (l : Location) (offset : Nat) :
    l.walk (crlfOffset cs offset) (crlf cs) = l.walk offset cs := by
  induction cs generalizing l offset with
  | nil => rfl
  | cons c cs ih =>
    by_cases here : offset = 0
    · subst here
      rw [crlfOffset, if_pos rfl, walk_zero, walk_zero]
    rw [crlfOffset, if_neg here, walk_cons here, ← ih]
    by_cases feed : c = '\n'
    · subst feed
      have size : String.utf8Len (crlf ['\n']) = 2 := rfl
      have back : '\r'.utf8Size = 1 := rfl
      have line : '\n'.utf8Size = 1 := rfl
      rw [size, crlf_lineFeed, walk_cons (by omega), walk_cons (by omega), back, line,
        show 2 + crlfOffset cs (offset - 1) - 1 - 1 = crlfOffset cs (offset - 1) by omega]
      rfl
    · have some_ : c.utf8Size ≠ 0 := Nat.ne_of_gt c.utf8Size_pos
      have size : String.utf8Len (crlf [c]) = c.utf8Size := by
        simp [crlf_cons feed, String.utf8Len_cons]
      rw [size, crlf_cons feed, walk_cons (by omega), Nat.add_sub_cancel_left]

end Location

def crlfSource (source : String) : String := String.ofList (crlf source.toList)

theorem ofOffset_crlf (source : String) (offset : Nat) :
    Location.ofOffset (crlfSource source) (crlfOffset source.toList offset) =
      Location.ofOffset source offset := by
  rw [Location.ofOffset, crlfSource, String.toList_ofList, Location.walk_crlf]
  rfl

namespace Token

theorem continues_return (first : Char) : continues first '\r' = continues first '\n' := by
  unfold continues
  split
  · rfl
  split
  · rfl
  split <;> rfl

def crlf (place : Nat → Nat) (t : Token) : Token :=
  ⟨t.kind, if t.isWhitespace then crlfSource t.literal else t.literal, place t.offset⟩

theorem extent_crlf (c : Char) (rest : List Char) :
    ∃ c' rest', Storypath.crlf (c :: rest) = c' :: rest' ∧
      extent c' rest' = crlfSource (extent c rest) ∧
      after c' rest' = Storypath.crlf (after c rest) ∧
      ∀ literal, kindOf c' literal = kindOf c literal := by
  have alike := continues_return c
  by_cases feed : c = '\n'
  · subst feed
    have blank : (continues '\r' : Char → Bool) = continues '\n' := rfl
    refine ⟨'\r', '\n' :: Storypath.crlf rest, rfl, ?_, ?_, fun _ => rfl⟩
    · simp [extent, crlfSource, blank, takeWhile_crlf alike, show continues '\n' '\n' = true from rfl]
    · simp [after, blank, dropWhile_crlf alike, show continues '\n' '\n' = true from rfl]
  · refine ⟨c, Storypath.crlf rest, crlf_cons feed rest, ?_, dropWhile_crlf alike rest, fun _ => rfl⟩
    rw [extent, takeWhile_crlf alike, ← crlf_cons feed, crlfSource, extent, String.toList_ofList]

theorem continues_lineFeed {c : Char} (plain : (isBlank c || c == ']') = false) :
    continues c '\n' = false := by
  unfold continues
  simp [plain, isLineEnd]

theorem lineFeed_notMem_extent {c : Char} (plain : (isBlank c || c == ']') = false)
    (rest : List Char) : '\n' ∉ (extent c rest).toList := by
  have first : '\n' ≠ c := by
    rintro rfl
    simp [isBlank] at plain
  rw [extent, String.toList_ofList, List.mem_cons, not_or]
  refine ⟨first, fun mem => ?_⟩
  simpa [continues_lineFeed plain] using List.mem_takeWhile_imp mem

theorem crlfSource_extent {c : Char} (plain : (isBlank c || c == ']') = false)
    (rest : List Char) : crlfSource (extent c rest) = extent c rest := by
  rw [crlfSource, crlf_of_no_lineFeed (lineFeed_notMem_extent plain rest), String.ofList_toList]

/-- The first token of a text, and the text after it, with the carriage returns. -/
theorem starting_crlf (place : Nat → Nat) (c : Char) (rest : List Char) (offset : Nat) :
    ∃ c' rest', Storypath.crlf (c :: rest) = c' :: rest' ∧
      starting c' rest' (place offset) = (starting c rest offset).crlf place ∧
      after c' rest' = Storypath.crlf (after c rest) ∧
      (starting c' rest' (place offset)).literal = crlfSource (starting c rest offset).literal := by
  obtain ⟨c', rest', split, literal, left, kind⟩ := extent_crlf c rest
  refine ⟨c', rest', split, ?_, left, literal⟩
  rw [starting, literal, kind, starting, crlf, isWhitespace]
  cases plain : isBlank c || c == ']' with
  | true => simp [kindOf, plain]
  | false => simp [crlfSource_extent plain]

end Token

namespace TokenStream

def Stands (source : String) (s : TokenStream) : Prop :=
  ∃ before, source.toList = before ++ s.rest ∧ s.offset = String.utf8Len before

variable {source : String} {s : TokenStream}

theorem stands_ofSource (source : String) : (ofSource source).Stands source := ⟨[], rfl, rfl⟩

theorem token_cons (c : Char) (cs : List Char) (offset : Nat) (ended : Bool) :
    token ⟨c :: cs, offset, ended⟩ = (Token.starting c cs offset,
      ⟨Token.after c cs, offset + (Token.extent c cs).utf8ByteSize, ended⟩) := rfl

theorem stands_token (stands : s.Stands source) : s.token.2.Stands source := by
  obtain ⟨rest, offset, ended⟩ := s
  obtain ⟨before, whole, rfl⟩ := stands
  cases rest with
  | nil => exact ⟨before, whole, rfl⟩
  | cons c cs =>
    refine ⟨before ++ c :: cs.takeWhile (Token.continues c), ?_, ?_⟩
    · simp [whole, token, Token.after]
    · simp only [token, Token.starting, Token.extent, String.utf8ByteSize_ofList,
        String.utf8Len_append]

def crlf (source : String) (s : TokenStream) : TokenStream :=
  ⟨Storypath.crlf s.rest, crlfOffset source.toList s.offset, s.ended⟩

theorem token_crlf (stands : s.Stands source) :
    (s.crlf source).token =
      (s.token.1.crlf (crlfOffset source.toList), s.token.2.crlf source) := by
  obtain ⟨rest, offset, ended⟩ := s
  obtain ⟨before, whole, rfl⟩ := stands
  cases rest with
  | nil => rfl
  | cons c cs =>
    obtain ⟨c', cs', split, first, left, literal⟩ :=
      Token.starting_crlf (crlfOffset source.toList) c cs (String.utf8Len before)
    have further := crlfOffset_add before (c :: cs.takeWhile (Token.continues c)) (Token.after c cs)
    rw [Token.after, List.cons_append, List.takeWhile_append_dropWhile, ← whole] at further
    have size : (Token.extent c' cs').utf8ByteSize =
        String.utf8Len (Storypath.crlf (c :: cs.takeWhile (Token.continues c))) := by
      rw [show Token.extent c' cs' = crlfSource (Token.extent c cs) from literal, crlfSource,
        String.utf8ByteSize_ofList, Token.extent, String.toList_ofList]
    rw [crlf, split, token_cons, token_cons, first, left, size, ← further]
    simp only [crlf, Token.extent, String.utf8ByteSize_ofList]

end TokenStream

namespace Feed

def crlf (source : String) (f : Feed) : Feed :=
  ⟨f.stream.crlf source, f.held.map (Token.crlf (crlfOffset source.toList)), f.taken⟩

variable {source : String} {f f' : Feed} {t : Token} {limit : Nat}

theorem take_crlf (stands : f.stream.Stands source) (limit : Nat) :
    (f.crlf source).take limit =
      (f.take limit).map fun (t, f') =>
        (t.crlf (crlfOffset source.toList), f'.crlf source) := by
  unfold take
  cases held : f.held with
  | some t => simp [crlf, held]
  | none =>
    by_cases room : f.taken < limit <;>
      simp [crlf, held, room, TokenStream.token_crlf stands]

theorem stands_take (stands : f.stream.Stands source) (given : f.take limit = some (t, f')) :
    f'.stream.Stands source := by
  unfold take at given
  cases held : f.held with
  | some t' =>
    simp only [held, Option.some.injEq, Prod.mk.injEq] at given
    rwa [← given.2]
  | none =>
    by_cases room : f.taken < limit
    · simp only [held, room, if_true, Option.some.injEq, Prod.mk.injEq] at given
      rw [← given.2]
      exact TokenStream.stands_token stands
    · simp [held, room] at given

end Feed

def Flaw.move (place : Nat → Nat) : Flaw → Flaw
  | .wait start found => .wait (place start) found
  | .choice start flaw => .choice (place start) flaw

def Block.move (place : Nat → Nat) (b : Block) : Block := { b with start := place b.start }

def Phase.move (place : Nat → Nat) : Phase → Phase
  | .between => .between
  | .jumpName => .jumpName
  | .duration start => .duration (place start)
  | .prompt start => .prompt (place start)
  | .marker b => .marker (b.move place)
  | .bracket b => .bracket (b.move place)
  | .branchName b => .branchName (b.move place)
  | .button b target => .button (b.move place) target
  | .closing b => .closing (b.move place)

def Reply.move (place : Nat → Nat) : Reply → Reply
  | .take item? phase => .take item? (phase.move place)
  | .putBack item? phase => .putBack item? (phase.move place)
  | .flaw f => .flaw (f.move place)
  | .refuse f => .refuse f
  | .finish => .finish

theorem Flaw.fault_crlf (source : String) (flaw : Flaw) :
    (flaw.move (crlfOffset source.toList)).fault (crlfSource source) = flaw.fault source := by
  cases flaw <;> simp [move, fault, ofOffset_crlf]

theorem Block.add_move (place : Nat → Nat) (b : Block) (limit : Nat) (branch : Branch) :
    (b.move place).add limit branch = (b.add limit branch).move place := by
  by_cases room : b.branches.size < limit <;> simp [add, move, room]

theorem Phase.read_crlf (options : ScriptOptions) (place : Nat → Nat) (phase : Phase) {t : Token}
    (counts : t.isWhitespace = false) :
    (phase.move place).read options (t.crlf place) = (phase.read options t).move place := by
  have kind : (t.crlf place).kind = t.kind := rfl
  have literal : (t.crlf place).literal = t.literal := by simp [Token.crlf, counts]
  have name : (t.crlf place).targetName = t.targetName := by simp [Token.targetName, kind, literal]
  cases phase with
  | closing b =>
    have same : (b.move place).branches = b.branches ∧ (b.move place).prompt = b.prompt := ⟨rfl, rfl⟩
    simp only [move, read, brokenChoice, kind, same]
    repeat' split
    all_goals rfl
  | _ =>
    simp only [move, read, brokenChoice, kind, literal, name, Block.add_move]
    repeat' split
    all_goals rfl

namespace Reading

def crlf (source : String) (r : Reading) : Reading :=
  ⟨r.feed.crlf source, r.phase.move (crlfOffset source.toList), r.walk⟩

variable {source : String} {options : ScriptOptions} {r r' : Reading}

theorem after_crlf (source : String) (feed : Feed) (phase : Phase) (walk : Walk)
    (item? : Option Item) :
    after (feed.crlf source) (phase.move (crlfOffset source.toList)) walk item? =
      (after feed phase walk item?).map (crlf source) id := by
  cases item? with
  | none => rfl
  | some item =>
    simp only [after]
    cases walk.pass item <;> rfl

/-- A step in the script with the carriage returns is a step in the script. -/
theorem step_crlf (stands : r.feed.stream.Stands source) :
    (r.crlf source).step (crlfSource source) options =
      (r.step source options).map (crlf source) id := by
  simp only [step, crlf, Feed.take_crlf stands]
  cases r.feed.take options.maxTokens with
  | none => rfl
  | some taken =>
    obtain ⟨t, feed⟩ := taken
    have same : (t.crlf (crlfOffset source.toList)).isWhitespace = t.isWhitespace := rfl
    cases counts : t.isWhitespace with
    | true => simp [same, counts, crlf]
    | false =>
      simp only [Option.map_some, same, counts, Phase.read_crlf options _ r.phase counts]
      cases r.phase.read options t with
      | take item? phase => exact after_crlf ..
      | putBack item? phase => exact after_crlf source (feed.putBack t) phase r.walk item?
      | flaw flaw => simp [Reply.move, Flaw.fault_crlf]
      | refuse fault | finish => rfl

theorem stands_step (stands : r.feed.stream.Stands source)
    (step : r.step source options = .inl r') : r'.feed.stream.Stands source := by
  cases stepsTo_of_step step with
  | skip taken | take taken | putBack taken =>
    have stands' := Feed.stands_take stands taken
    exact stands'

theorem run_crlf (stands : r.feed.stream.Stands source) :
    (r.crlf source).run (crlfSource source) options = r.run source options :=
  (run_map (crlf source) id (fun r => r.feed.stream.Stands source)
    (fun _ _ stands step => stands_step stands step) (fun _ stands => step_crlf stands) stands).2

theorem start_crlf (source : String) (target : Target) :
    (start source target).crlf source = start (crlfSource source) target := by
  have first : crlfOffset source.toList 0 = 0 := by cases source.toList <;> rfl
  simp [start, crlf, Feed.ofSource, Feed.crlf, TokenStream.ofSource, TokenStream.crlf, first,
    crlfSource, Phase.move]

end Reading

/-- A script is resolved alike with line feeds and with carriage returns before them. -/
theorem resolveTarget_crlfSource (source : String) (target : Target) (options : ScriptOptions) :
    resolveTarget (crlfSource source) target options = resolveTarget source target options := by
  rw [resolveTarget, ← Reading.start_crlf, Reading.run_crlf (TokenStream.stands_ofSource source)]
  rfl

end Storypath
