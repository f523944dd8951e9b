import Storypath.Proofs.Script.LineEndings

/-! What follows a segment. Only white space goes on past the end of a line, so that a script has
the same tokens at the same places when more lines follow it, up to its own end. Main statement: a
run that never takes the token at the end of its script gives the same whatever lines follow. -/
namespace Storypath

namespace Location

theorem walk_append (l : Location) (cs more : List Char) {offset : Nat}
    (within : offset ≤ String.utf8Len cs) : l.walk offset (cs ++ more) = l.walk offset cs := by
  induction cs generalizing l offset with
  | nil =>
    obtain rfl : offset = 0 := Nat.le_zero.mp within
    rw [walk_zero, walk_zero]
  | cons c cs ih =>
    by_cases here : offset = 0
    · rw [here, walk_zero, walk_zero]
    · rw [String.utf8Len_cons] at within
      rw [List.cons_append, walk_cons here, walk_cons here, ih _ (by omega)]

theorem ofOffset_append {source : String} {offset : Nat}
    (within : offset ≤ String.utf8Len source.toList) (more : String) :
    ofOffset (source ++ more) offset = ofOffset source offset := by
  rw [ofOffset, String.toList_append, walk_append _ _ _ within, ofOffset]

end Location

namespace Token

/-- Lines that follow leave the first token of a text as it is, unless it is white space that goes
on to the end of the text. -/
theorem starting_append (c : Char) (cs more : List Char) (offset : Nat) :
    (starting c (cs ++ '\n' :: more) offset = starting c cs offset ∧
        after c (cs ++ '\n' :: more) = after c cs ++ '\n' :: more) ∨
      ((starting c (cs ++ '\n' :: more) offset).isWhitespace = true ∧
        (starting c cs offset).isWhitespace = true ∧ after c cs = []) := by
  by_cases whole : ∀ c' ∈ cs, continues c c' = true
  · have used : after c cs = [] := List.dropWhile_eq_nil_iff.mpr whole
    cases plain : isBlank c || c == ']' with
    | true => exact .inr ⟨by simp [starting, isWhitespace, kindOf, plain],
        by simp [starting, isWhitespace, kindOf, plain], used⟩
    | false =>
      have stops := continues_lineFeed plain
      refine .inl ⟨?_, ?_⟩
      · have same : extent c (cs ++ '\n' :: more) = extent c cs := by
          rw [extent, List.takeWhile_append_of_pos whole, extent,
            List.takeWhile_eq_self_iff.mpr whole, List.takeWhile_cons_of_neg (by simp [stops]),
            List.append_nil]
        rw [starting, same, starting]
      · rw [used, after, List.dropWhile_append_of_pos whole,
          List.dropWhile_cons_of_neg (by simp [stops]), List.nil_append]
  · have goesOn : (cs.dropWhile (continues c)).isEmpty = false := by
      simpa [List.isEmpty_eq_false_iff] using whole
    have shorter : (cs.takeWhile (continues c)).length ≠ cs.length := fun same =>
      whole (List.takeWhile_eq_self_iff.mp
        ((List.takeWhile_prefix (continues c)).eq_of_length same))
    refine .inl ⟨?_, ?_⟩
    · rw [starting, extent, List.takeWhile_append, if_neg shorter]
      rfl
    · rw [after, List.dropWhile_append, goesOn, if_neg Bool.false_ne_true]
      rfl

end Token

namespace TokenStream

/-- The same place in a script that goes on with more lines; where the first script is used up
nothing is asked of the other. -/
def GoesOn (more : List Char) (s s' : TokenStream) : Prop :=
  s.rest = [] ∨ s'.rest = s.rest ++ '\n' :: more ∧ s'.offset = s.offset

variable {more : List Char} {s s' : TokenStream}

theorem token_goesOn (goes : GoesOn more s s') (unended : s.token.1.kind ≠ .endOfInput) :
    (s'.token.1 = s.token.1 ∨
        s'.token.1.isWhitespace = true ∧ s.token.1.isWhitespace = true) ∧
      GoesOn more s.token.2 s'.token.2 := by
  obtain ⟨rest, offset, ended⟩ := s
  obtain ⟨rest', offset', ended'⟩ := s'
  cases rest with
  | nil => exact absurd rfl unended
  | cons c cs =>
    obtain ⟨rfl, rfl⟩ : rest' = c :: (cs ++ '\n' :: more) ∧ offset' = offset := by
      simpa [GoesOn] using goes
    rw [token_cons, token_cons]
    rcases Token.starting_append c cs more offset' with ⟨same, left⟩ | ⟨blank', blank, used⟩
    · have extent : Token.extent c (cs ++ '\n' :: more) = Token.extent c cs :=
        congrArg Token.literal same
      exact ⟨.inl same, .inr ⟨left, by simp [extent]⟩⟩
    · exact ⟨.inr ⟨blank', blank⟩, .inl used⟩

theorem offset_le_of_stands {source : String} (stands : s.Stands source) :
    s.token.1.offset ≤ String.utf8Len source.toList := by
  obtain ⟨before, whole, offset⟩ := stands
  have here : s.token.1.offset = s.offset := by
    unfold token
    split <;> rfl
  rw [here, offset, whole, String.utf8Len_append]
  exact Nat.le_add_right _ _

end TokenStream

namespace Feed

structure GoesOn (more : List Char) (f f' : Feed) : Prop where
  stream : f.stream.GoesOn more f'.stream
  held : f'.held = f.held
  taken : f'.taken = f.taken

variable {more : List Char} {f f' g : Feed} {t : Token} {limit : Nat}

theorem take_none_goesOn (goes : GoesOn more f f') (stops : f.take limit = none) :
    f'.take limit = none := by
  unfold take at *
  rw [goes.held, goes.taken]
  cases held : f.held with
  | some t => simp [held] at stops
  | none =>
    by_cases room : f.taken < limit
    · simp [held, room] at stops
    · simp [room]

theorem take_goesOn (goes : GoesOn more f f') (given : f.take limit = some (t, g))
    (unended : t.kind ≠ .endOfInput) :
    ∃ t' g', f'.take limit = some (t', g') ∧ GoesOn more g g' ∧
      (t' = t ∨ t'.isWhitespace = true ∧ t.isWhitespace = true) := by
  unfold take at *
  rw [goes.held, goes.taken]
  cases held : f.held with
  | some t₀ =>
    -- A token that was put back is in hand, and is the same in both.
    obtain ⟨rfl, rfl⟩ : t₀ = t ∧ { f with held := none } = g := by simpa [held] using given
    exact ⟨t₀, _, rfl, ⟨goes.stream, rfl, rfl⟩, .inl rfl⟩
  | none =>
    by_cases room : f.taken < limit
    · obtain ⟨rfl, rfl⟩ : f.stream.token.1 = t ∧
          { f with stream := f.stream.token.2, taken := f.taken + 1 } = g := by
        simpa [held, room] using given
      obtain ⟨same, stream⟩ := TokenStream.token_goesOn goes.stream unended
      refine ⟨f'.stream.token.1, ⟨f'.stream.token.2, none, f.taken + 1⟩, by simp [room], ?_, same⟩
      exact ⟨stream, held.symm, rfl⟩
    · simp [held, room] at given

theorem GoesOn.putBack (goes : GoesOn more f f') (t : Token) :
    GoesOn more (f.putBack t) (f'.putBack t) :=
  ⟨goes.stream, rfl, goes.taken⟩

structure Placed (source : String) (f : Feed) : Prop where
  stream : f.stream.Stands source
  held : ∀ t ∈ f.held, t.offset ≤ String.utf8Len source.toList

theorem placed_take {source : String} (placed : f.Placed source)
    (given : f.take limit = some (t, g)) :
    t.offset ≤ String.utf8Len source.toList ∧ g.Placed source := by
  have stream := stands_take placed.stream given
  have held' : g.held = none := (weight_take given).1
  refine ⟨?_, stream, by simp [held']⟩
  unfold take at given
  cases held : f.held with
  | some t₀ =>
    obtain ⟨rfl, -⟩ : t₀ = t ∧ { f with held := none } = g := by simpa [held] using given
    exact placed.held t₀ (by simp [held])
  | none =>
    by_cases room : f.taken < limit
    · obtain ⟨rfl, -⟩ : f.stream.token.1 = t ∧
          { f with stream := f.stream.token.2, taken := f.taken + 1 } = g := by
        simpa [held, room] using given
      exact TokenStream.offset_le_of_stands placed.stream
    · simp [held, room] at given

theorem placed_putBack {source : String} (placed : f.Placed source)
    (here : t.offset ≤ String.utf8Len source.toList) : (f.putBack t).Placed source :=
  ⟨placed.stream, by simpa [putBack] using here⟩

end Feed

def Flaw.start : Flaw → Nat
  | .wait start _ | .choice start _ => start

def Phase.StartsWithin (size : Nat) : Phase → Prop
  | .between | .jumpName => True
  | .duration start | .prompt start => start ≤ size
  | .marker b | .bracket b | .branchName b | .button b _ | .closing b => b.start ≤ size

def Reply.StartsWithin (size : Nat) : Reply → Prop
  | .take _ phase | .putBack _ phase => phase.StartsWithin size
  | .flaw f => f.start ≤ size
  | .refuse _ | .finish => True

@[simp] theorem Block.start_add (b : Block) (limit : Nat) (branch : Branch) :
    (b.add limit branch).start = b.start := by
  unfold add
  split <;> rfl

theorem Phase.startsWithin_read {phase : Phase} {size : Nat} {t : Token} (options : ScriptOptions)
    (starts : phase.StartsWithin size) (here : t.offset ≤ size) :
    (phase.read options t).StartsWithin size := by
  cases phase <;> simp only [read, brokenChoice] <;> (repeat' split) <;>
    first | trivial | exact here | simpa [Reply.StartsWithin, StartsWithin] using starts

theorem Flaw.fault_append {source : String} {flaw : Flaw}
    (within : flaw.start ≤ String.utf8Len source.toList) (more : String) :
    flaw.fault (source ++ more) = flaw.fault source := by
  cases flaw with
  | wait start found => exact congrArg _ (Location.ofOffset_append within more)
  | choice start flaw => exact congrArg _ (Location.ofOffset_append within more)

namespace Reading

variable {source : String} {more : List Char} {options : ScriptOptions} {r r' s s' : Reading}

def reads (source : String) (options : ScriptOptions) (r : Reading) : List Token :=
  ((r.feed.take options.maxTokens).map Prod.fst).toList ++
    match _h : r.step source options with
    | .inl r' => r'.reads source options
    | .inr _ => []
termination_by r.measure
decreasing_by exact measure_step _h

theorem reads_of_inl (h : r.step source options = .inl r') :
    r.reads source options =
      ((r.feed.take options.maxTokens).map Prod.fst).toList ++ r'.reads source options := by
  rw [reads]
  split
  · next r'' h' => rw [h, Sum.inl.injEq] at h'; rw [h']
  · next result h' => simp [h] at h'

theorem mem_reads {t : Token} {feed : Feed} (source : String)
    (given : r.feed.take options.maxTokens = some (t, feed)) : t ∈ r.reads source options := by
  rw [reads, given]
  simp

/-- The same reading of a script that goes on with more lines. -/
structure GoesOn (more : List Char) (r s : Reading) : Prop where
  feed : r.feed.GoesOn more s.feed
  phase : s.phase = r.phase
  walk : s.walk = r.walk

structure Placed (source : String) (r : Reading) : Prop where
  feed : r.feed.Placed source
  phase : r.phase.StartsWithin (String.utf8Len source.toList)

theorem placed_start (source : String) (target : Target) : (start source target).Placed source :=
  ⟨⟨TokenStream.stands_ofSource source, by simp [start, Feed.ofSource]⟩, trivial⟩

theorem placed_step (placed : r.Placed source) (step : r.step source options = .inl r') :
    r'.Placed source := by
  cases stepsTo_of_step step with
  | skip taken => exact ⟨(Feed.placed_take placed.feed taken).2, placed.phase⟩
  | take taken counts read moves =>
    obtain ⟨here, feed⟩ := Feed.placed_take placed.feed taken
    have starts := Phase.startsWithin_read options placed.phase here
    rw [read] at starts
    exact ⟨feed, starts⟩
  | putBack taken counts read moves =>
    obtain ⟨here, feed⟩ := Feed.placed_take placed.feed taken
    have starts := Phase.startsWithin_read options placed.phase here
    rw [read] at starts
    exact ⟨Feed.placed_putBack feed here, starts⟩

theorem after_goesOn {feed feed' : Feed} (goes : feed.GoesOn more feed') (phase : Phase)
    (walk : Walk) (item? : Option Item) :
    Sum.LiftRel (GoesOn more) Eq (after feed phase walk item?) (after feed' phase walk item?) := by
  refine after_liftRel ⟨goes, rfl, rfl⟩ (fun item => ?_) item?
  cases walk.pass item with
  | inl walk' => exact .inl ⟨goes, rfl, rfl⟩
  | inr statements => exact .inr rfl

/-- A step that does not take the token at the end is the same step where more lines follow. -/
theorem step_goesOn (follow : String) (placed : r.Placed source)
    (goes : GoesOn more r s)
    (unended : ∀ t feed, r.feed.take options.maxTokens = some (t, feed) →
      t.kind ≠ .endOfInput) :
    Sum.LiftRel (GoesOn more) Eq (r.step source options) (s.step (source ++ follow) options) := by
  unfold step
  cases given : r.feed.take options.maxTokens with
  | none =>
    rw [Feed.take_none_goesOn goes.feed given]
    exact .inr rfl
  | some taken =>
    obtain ⟨t, feed⟩ := taken
    obtain ⟨t', feed', given', same, blank⟩ :=
      Feed.take_goesOn goes.feed given (unended t feed given)
    have on : GoesOn more ⟨feed, r.phase, r.walk⟩ ⟨feed', r.phase, r.walk⟩ := ⟨same, rfl, rfl⟩
    rw [given', goes.phase, goes.walk]
    rcases blank with rfl | ⟨blank', blank⟩
    · cases counts : t'.isWhitespace with
      | true => simpa [counts] using on
      | false =>
        have starts := Phase.startsWithin_read options placed.phase
          (Feed.placed_take placed.feed given).1
        simp only [counts, Bool.false_eq_true, if_false]
        cases read : r.phase.read options t' with
        | take item? phase => exact after_goesOn same phase r.walk item?
        | putBack item? phase => exact after_goesOn (same.putBack t') phase r.walk item?
        | flaw flaw =>
          rw [read] at starts
          exact .inr (by rw [Flaw.fault_append starts])
        | refuse fault | finish => exact .inr rfl
    · -- White space up to the end goes on into the lines that follow; it counts in neither script.
      simpa [blank, blank'] using on

theorem run_goesOn (follow : String) (placed : r.Placed source) (goes : GoesOn more r s)
    (unended : ∀ t ∈ r.reads source options, t.kind ≠ .endOfInput) :
    r.run source options = s.run (source ++ follow) options := by
  refine run_liftRel (R := fun r s => r.Placed source ∧ GoesOn more r s ∧
    ∀ t ∈ r.reads source options, t.kind ≠ .endOfInput) ?_ ⟨placed, goes, unended⟩
  rintro r s ⟨placed, goes, unended⟩
  have along := step_goesOn follow placed goes fun t feed given =>
    unended t (mem_reads source given)
  cases step : r.step source options <;> cases step' : s.step (source ++ follow) options <;>
    simp only [step, step', Sum.liftRel_inl_inl, Sum.liftRel_inr_inr, Sum.not_liftRel_inl_inr,
      Sum.not_liftRel_inr_inl] at along
  · refine .inl ⟨placed_step placed step, along, fun t mem => unended t ?_⟩
    rw [reads_of_inl step]
    exact List.mem_append_right _ mem
  · exact .inr along

end Reading

/-- A run that never takes the token at the end of its script gives the same whatever lines follow:
the same segment, or the same fault at the same place. -/
theorem resolveTarget_append (source more : String) (target : Target) (options : ScriptOptions)
    (unended : ∀ t ∈ (Reading.start source target).reads source options,
      t.kind ≠ .endOfInput) :
    resolveTarget (source ++ "\n" ++ more) target options =
      resolveTarget source target options := by
  have goes : Reading.GoesOn more.toList (.start source target)
      (.start (source ++ ("\n" ++ more)) target) := by
    refine ⟨⟨.inr ⟨?_, rfl⟩, rfl, rfl⟩, rfl, rfl⟩
    simp [Reading.start, Feed.ofSource, TokenStream.ofSource]
  rw [String.append_assoc]
  exact (Reading.run_goesOn ("\n" ++ more) (Reading.placed_start source target) goes unended).symm

def partedStory : String := "*a\nHi\n@end"

theorem resolveTarget_partedStory :
    (∀ t ∈ (Reading.start partedStory (.ofLabel "*a")).reads partedStory ⟨4, 9, true⟩,
        t.kind ≠ .endOfInput) ∧
      resolveTarget (partedStory ++ "\n" ++ "@buttons\n@wait") (.ofLabel "*a") ⟨4, 9, true⟩ =
        .ok [.text "Hi"] := by
  have unended : ∀ t ∈ (Reading.start partedStory (.ofLabel "*a")).reads partedStory ⟨4, 9, true⟩,
      t.kind ≠ .endOfInput := by
    have read : (Reading.start partedStory (.ofLabel "*a")).reads partedStory ⟨4, 9, true⟩ =
        [⟨.label, "*a", 0⟩, ⟨.whitespace, "\n", 2⟩, ⟨.text, "Hi", 3⟩, ⟨.whitespace, "\n", 5⟩,
          ⟨.blockEnd, "@end", 6⟩] := by cbv
    simp [read]
  exact ⟨unended, (resolveTarget_append _ "@buttons\n@wait" _ _ unended).trans (by cbv)⟩

end Storypath
