import Storypath.Proofs.Script.Phase
import Storypath.Proofs.Script.Walk

/-! What a reading still has before it, as entries of the outline. A step goes past at most
one entry, and a whole run goes past entries until one of them, the end of the script or the
limit on tokens ends it. -/
namespace Storypath

namespace Feed
open TokenStream Outline

def toCome (f : Feed) : List Token :=
  (f.held.toList.filter fun t => t.kind ≠ .endOfInput) ++ listFrom f.stream.rest f.stream.offset

def ahead (f : Feed) : List Token := f.toCome.filter fun t => !t.isWhitespace

/-- The token at the end is put back only when the stream is used up. -/
def Sound (f : Feed) : Prop :=
  ∀ t, f.held = some t → t.kind = .endOfInput → t.literal = "" ∧ f.stream.rest = []

/-- The limit leaves room for all tokens of the stream and for the one at its end. -/
def Room (limit : Nat) (f : Feed) : Prop :=
  f.taken + (listFrom f.stream.rest f.stream.offset).length < limit ∨
    ∃ t, f.held = some t ∧ t.kind = .endOfInput

variable {f f' : Feed} {t : Token} {limit : Nat}

theorem toCome_of_held_none (h : f.held = none) :
    f.toCome = listFrom f.stream.rest f.stream.offset := by
  simp [toCome, h]

theorem sound_of_held_none (held : f.held = none) : f.Sound := by
  intro t h
  simp [held] at h

theorem take_ne_none (room : f.Room limit) : f.take limit ≠ none := by
  unfold take
  rcases room with room | ⟨t, held, -⟩
  · split
    · simp
    · have : f.taken < limit := by omega
      simp [this]
  · simp [held]

theorem next_token (s : TokenStream) :
    Next (listFrom s.rest s.offset) s.token.1 (listFrom s.token.2.rest s.token.2.offset) := by
  obtain ⟨cs, offset, ended⟩ := s
  cases cs with
  | nil => simpa [token] using Next.atEnd (t := Token.atEnd offset) rfl rfl
  | cons c rest =>
    rw [listFrom_cons]
    exact .token (Token.kindOf_ne_endOfInput c _)

theorem rest_of_token_atEnd {s : TokenStream} (h : s.token.1.kind = .endOfInput) :
    s.token.1.literal = "" ∧ s.token.2.rest = [] := by
  obtain ⟨cs, offset, ended⟩ := s
  cases cs with
  | nil => exact ⟨rfl, rfl⟩
  | cons c rest => exact absurd h (Token.kindOf_ne_endOfInput c _)

theorem take_next (sound : f.Sound) (h : f.take limit = some (t, f')) :
    f'.held = none ∧ Next f.toCome t f'.toCome ∧ (f'.putBack t).Sound := by
  unfold take at h
  split at h
  · next t₀ held =>
    obtain ⟨rfl, rfl⟩ : t₀ = t ∧ { f with held := none } = f' := by simpa using h
    have again : ({ f with held := none }.putBack t₀ : Feed) = f := by
      simp [putBack, ← held]
    rw [again]
    refine ⟨rfl, ?_, sound⟩
    by_cases he : t₀.kind = .endOfInput
    · obtain ⟨blank, used⟩ := sound t₀ held he
      simpa [toCome, held, he, used] using Next.atEnd he blank
    · simpa [toCome, held, he] using Next.token he
  · next held =>
    split at h
    · obtain ⟨rfl, rfl⟩ : f.stream.token.1 = t ∧
          { f with stream := f.stream.token.2, taken := f.taken + 1 } = f' := by simpa using h
      rw [toCome_of_held_none held, toCome_of_held_none (by exact held)]
      refine ⟨held, next_token f.stream, ?_⟩
      intro t ht
      obtain rfl : f.stream.token.1 = t := by simpa [putBack] using ht
      exact rest_of_token_atEnd
    · simp at h

theorem toCome_putBack {ts : List Token} (held : f.held = none) (next : Next ts t f.toCome) :
    (f.putBack t).toCome = ts := by
  have here : (f.putBack t).toCome = [t].filter (fun t => t.kind ≠ .endOfInput) ++ f.toCome := by
    simp [toCome, putBack, held]
  rw [here]
  generalize f.toCome = after at next
  cases next with
  | token h => simp [h]
  | atEnd h blank => simp [h]

theorem next_ahead (next : Next f.toCome t f'.toCome) :
    if t.isWhitespace then f'.ahead = f.ahead else Next f.ahead t f'.ahead := by
  unfold ahead
  generalize f.toCome = ts at next
  generalize f'.toCome = rest at next
  cases next with
  | token h =>
    split
    · next blank => simp [blank]
    · next counts => simpa [counts] using Next.token h
  | atEnd h blank => simpa [Token.isWhitespace, h] using Next.atEnd h blank

theorem room_take (room : f.Room limit) (h : f.take limit = some (t, f')) :
    (t.kind ≠ .endOfInput → f'.Room limit) ∧ (f'.putBack t).Room limit := by
  by_cases he : t.kind = .endOfInput
  · exact ⟨fun h => absurd he h, .inr ⟨t, rfl, he⟩⟩
  suffices left : f'.taken + (listFrom f'.stream.rest f'.stream.offset).length < limit from
    ⟨fun _ => .inl left, .inl left⟩
  unfold take at h
  split at h
  · next t₀ held =>
    obtain ⟨rfl, rfl⟩ : t₀ = t ∧ { f with held := none } = f' := by simpa using h
    rcases room with room | ⟨t, ht, hk⟩
    · exact room
    · rw [held, Option.some.injEq] at ht
      exact absurd (ht ▸ hk) he
  · next held =>
    have room : f.taken + (listFrom f.stream.rest f.stream.offset).length < limit := by
      simpa [Room, held] using room
    split at h
    · obtain ⟨rfl, rfl⟩ : f.stream.token.1 = t ∧
          { f with stream := f.stream.token.2, taken := f.taken + 1 } = f' := by simpa using h
      obtain ⟨⟨cs, offset, ended⟩, _, taken⟩ := f
      cases cs with
      | nil => exact absurd rfl he
      | cons c rest =>
        rw [listFrom_cons, List.length_cons] at room
        dsimp only at room
        change taken + 1 + (listFrom (Token.after c rest)
          (offset + (Token.extent c rest).utf8ByteSize)).length < limit
        omega
    · simp at h

end Feed

namespace Reading

variable {source : String} {options : ScriptOptions} {r r' : Reading}

def entries (options : ScriptOptions) (r : Reading) : List Entry :=
  r.phase.entries options r.feed.ahead

structure Sound (options : ScriptOptions) (r : Reading) : Prop where
  feed : r.feed.Sound
  fits : r.phase.Fits options

/-- What a step that goes on does: it skips white space, or takes a token or puts it back, and
the walk moves past what the token completed. -/
inductive StepsTo (options : ScriptOptions) (r : Reading) : Reading → Prop
  | skip {t : Token} {feed : Feed} (taken : r.feed.take options.maxTokens = some (t, feed))
      (blank : t.isWhitespace = true) : StepsTo options r ⟨feed, r.phase, r.walk⟩
  | take {t : Token} {feed : Feed} {item? : Option Item} {phase : Phase} {walk : Walk}
      (taken : r.feed.take options.maxTokens = some (t, feed)) (counts : t.isWhitespace = false)
      (read : r.phase.read options t = .take item? phase) (moves : r.walk.Moves item? walk) :
      StepsTo options r ⟨feed, phase, walk⟩
  | putBack {t : Token} {feed : Feed} {item? : Option Item} {phase : Phase} {walk : Walk}
      (taken : r.feed.take options.maxTokens = some (t, feed)) (counts : t.isWhitespace = false)
      (read : r.phase.read options t = .putBack item? phase) (moves : r.walk.Moves item? walk) :
      StepsTo options r ⟨feed.putBack t, phase, walk⟩

theorem after_inl {feed : Feed} {phase : Phase} {walk : Walk} {item? : Option Item}
    (h : after feed phase walk item? = .inl r) :
    ∃ walk', r = ⟨feed, phase, walk'⟩ ∧ walk.Moves item? walk' := by
  cases item? with
  | none =>
    obtain rfl : ⟨feed, phase, walk⟩ = r := by simpa [after] using h
    exact ⟨walk, rfl, .stay⟩
  | some item =>
    cases hp : walk.pass item with
    | inl walk' =>
      obtain rfl : ⟨feed, phase, walk'⟩ = r := by simpa [after, hp] using h
      exact ⟨walk', rfl, .pass hp⟩
    | inr statements => simp [after, hp] at h

theorem stepsTo_of_step (h : r.step source options = .inl r') : r.StepsTo options r' := by
  unfold step at h
  split at h
  · simp at h
  next t feed taken =>
  split at h
  · next blank =>
    obtain rfl : { r with feed := feed } = r' := by simpa using h
    exact .skip taken blank
  · next counts =>
    rw [Bool.not_eq_true] at counts
    split at h
    · next read =>
      obtain ⟨walk, rfl, moves⟩ := after_inl h
      exact .take taken counts read moves
    · next read =>
      obtain ⟨walk, rfl, moves⟩ := after_inl h
      exact .putBack taken counts read moves
    · simp at h
    · simp at h
    · simp at h

theorem after_inr {feed : Feed} {phase : Phase} {walk : Walk} {item? : Option Item}
    {es : List Entry} {result : Except ScriptFault (List Statement)} {strict : Bool}
    (h : after feed phase walk item? = .inr result) :
    Walk.Ends source strict walk ((item?.map Entry.item).toList ++ es) result := by
  cases item? with
  | none => simp [after] at h
  | some item =>
    cases hp : walk.pass item with
    | inl walk' => simp [after, hp] at h
    | inr statements =>
      obtain rfl : .ok statements = result := by simpa [after, hp] using h
      exact .closed hp

/-- A step that goes on passes at most one entry. -/
theorem passes_step (sound : r.Sound options) (steps : r.StepsTo options r') :
    Walk.Passes r.walk (r.entries options) r'.walk (r'.entries options) ∧ r'.Sound options := by
  cases steps with
  | skip taken blank =>
    obtain ⟨held, toCome, -⟩ := Feed.take_next sound.feed taken
    have same := Feed.next_ahead toCome
    rw [if_pos blank] at same
    refine ⟨?_, Feed.sound_of_held_none held, sound.fits⟩
    simpa [entries, same] using Walk.Passes.none r.walk (r.phase.entries options r.feed.ahead)
  | @take t _ _ _ _ taken counts read moves =>
    obtain ⟨held, toCome, -⟩ := Feed.take_next sound.feed taken
    have next := Feed.next_ahead toCome
    rw [counts, if_neg Bool.false_ne_true] at next
    have fits := Phase.fits_read sound.fits t
    rw [read] at fits
    rw [entries, Phase.entries_read sound.fits next, read]
    exact ⟨moves.passes _, Feed.sound_of_held_none held, fits⟩
  | @putBack t feed _ _ _ taken counts read moves =>
    obtain ⟨held, toCome, soundBack⟩ := Feed.take_next sound.feed taken
    have next := Feed.next_ahead toCome
    rw [counts, if_neg Bool.false_ne_true] at next
    have back : (feed.putBack t).ahead = r.feed.ahead := by
      rw [Feed.ahead, Feed.toCome_putBack held toCome, Feed.ahead]
    have fits := Phase.fits_read sound.fits t
    rw [read] at fits
    rw [entries, Phase.entries_read sound.fits next, read]
    refine ⟨?_, soundBack, fits⟩
    rw [entries, back]
    exact moves.passes _

theorem step_inr {result : Except ScriptFault (List Statement)} (sound : r.Sound options)
    (h : r.step source options = .inr result) :
    (r.feed.take options.maxTokens = none ∧ result = .error (.tokenLimit options.maxTokens)) ∨
      Walk.Ends source options.strict r.walk (r.entries options) result := by
  unfold step at h
  split at h
  · next ht => exact .inl ⟨ht, by simpa using h.symm⟩
  next t feed ht =>
  have next := Feed.next_ahead (Feed.take_next sound.feed ht).2.1
  refine .inr ?_
  split at h
  · simp at h
  · next counts =>
    rw [if_neg counts] at next
    rw [entries, Phase.entries_read sound.fits next]
    split at h
    · next item? phase hr => rw [hr]; exact after_inr h
    · next item? phase hr => rw [hr]; exact after_inr h
    · next flaw hr =>
      obtain rfl : .error (flaw.fault source) = result := by simpa using h
      rw [hr]
      exact .refused r.walk flaw []
    · next fault hr =>
      have fits := Phase.fits_read sound.fits t
      rw [hr] at fits
      exact absurd fits not_false
    · next hr =>
      obtain rfl : r.walk.finish options.strict = result := by simpa using h
      rw [hr]
      exact .finished r.walk

theorem room_step (room : r.feed.Room options.maxTokens) (steps : r.StepsTo options r') :
    r'.feed.Room options.maxTokens := by
  cases steps with
  | skip taken blank =>
    refine (Feed.room_take room taken).1 fun atEnd => ?_
    simp [Token.isWhitespace, atEnd] at blank
  | take taken counts read moves =>
    exact (Feed.room_take room taken).1 (Phase.kind_ne_of_take read)
  | putBack taken counts read moves => exact (Feed.room_take room taken).2

def last (source : String) (options : ScriptOptions) (r : Reading) : Reading :=
  match _h : r.step source options with
  | .inl r' => r'.last source options
  | .inr _ => r
termination_by r.measure
decreasing_by exact measure_step _h

theorem run_of_inl (h : r.step source options = .inl r') :
    r.run source options = r'.run source options := by
  rw [run]
  split
  · next r'' h' => rw [h, Sum.inl.injEq] at h'; rw [h']
  · next result h' => simp [h] at h'

theorem run_of_inr {result : Except ScriptFault (List Statement)}
    (h : r.step source options = .inr result) : r.run source options = result := by
  rw [run]
  split
  · next r'' h' => simp [h] at h'
  · next result' h' => rw [h, Sum.inr.injEq] at h'; exact h'.symm

theorem last_of_inl (h : r.step source options = .inl r') :
    r.last source options = r'.last source options := by
  rw [last]
  split
  · next r'' h' => rw [h, Sum.inl.injEq] at h'; rw [h']
  · next result h' => simp [h] at h'

theorem last_of_inr {result : Except ScriptFault (List Statement)}
    (h : r.step source options = .inr result) : r.last source options = r := by
  rw [last]
  split
  · next r'' h' => simp [h] at h'
  · rfl

theorem step_last (source : String) (options : ScriptOptions) (r : Reading) :
    (r.last source options).step source options = .inr (r.run source options) := by
  fun_induction last source options r with
  | case1 r r' h ih => rw [ih, run_of_inl h]
  | case2 r result h => rw [h, run_of_inr h]

/-- What is changed alike before and after each step is changed alike before and after a run. `inv`
is what the steps keep. -/
theorem run_map {source' : String} {options' : ScriptOptions} (f : Reading → Reading)
    (g : Except ScriptFault (List Statement) → Except ScriptFault (List Statement))
    (inv : Reading → Prop)
    (keeps : ∀ r r', inv r → r.step source options = .inl r' → inv r')
    (step_map : ∀ r, inv r → (f r).step source' options' = (r.step source options).map f g)
    (holds : inv r) :
    (f r).last source' options' = f (r.last source options) ∧
      (f r).run source' options' = g (r.run source options) := by
  fun_induction last source options r with
  | case1 r r' step ih =>
    have step' : (f r).step source' options' = .inl (f r') := by
      rw [step_map r holds, step]
      rfl
    rw [last_of_inl step', run_of_inl step', run_of_inl step]
    exact ih (keeps r r' holds step)
  | case2 r result step =>
    have step' : (f r).step source' options' = .inr (g result) := by
      rw [step_map r holds, step]
      rfl
    exact ⟨last_of_inr step', by rw [run_of_inr step', run_of_inr step]⟩

theorem after_liftRel {R : Reading → Reading → Prop}
    {Q : Except ScriptFault (List Statement) → Except ScriptFault (List Statement) → Prop}
    {feed feed' : Feed} {phase phase' : Phase} {walk walk' : Walk}
    (stays : R ⟨feed, phase, walk⟩ ⟨feed', phase', walk'⟩)
    (passes : ∀ item, Sum.LiftRel (fun w w' => R ⟨feed, phase, w⟩ ⟨feed', phase', w'⟩)
      (fun told told' => Q (.ok told) (.ok told')) (walk.pass item) (walk'.pass item))
    (item? : Option Item) :
    Sum.LiftRel R Q (after feed phase walk item?) (after feed' phase' walk' item?) := by
  cases item? with
  | none => exact .inl stays
  | some item =>
    have along := passes item
    simp only [after]
    generalize walk.pass item = here at along
    generalize walk'.pass item = there at along
    cases along with
    | inl related => exact .inl related
    | inr related => exact .inr related

/-- Two runs that are related by each step, up to their results, have related results. -/
theorem run_liftRel {source' : String} {options' : ScriptOptions} {s : Reading}
    {R : Reading → Reading → Prop}
    {Q : Except ScriptFault (List Statement) → Except ScriptFault (List Statement) → Prop}
    (step_liftRel : ∀ r s, R r s → Sum.LiftRel R Q (r.step source options) (s.step source' options'))
    (related : R r s) : Q (r.run source options) (s.run source' options') := by
  fun_induction last source options r generalizing s with
  | case1 r r' step ih =>
    have along := step_liftRel r s related
    rw [step] at along
    cases step' : s.step source' options' with
    | inr result => simp [step'] at along
    | inl s' =>
      rw [step', Sum.liftRel_inl_inl] at along
      rw [run_of_inl step, run_of_inl step']
      exact ih along
  | case2 r result step =>
    have along := step_liftRel r s related
    rw [step] at along
    cases step' : s.step source' options' with
    | inl s' => simp [step'] at along
    | inr result' =>
      rw [step', Sum.liftRel_inr_inr] at along
      rw [run_of_inr step, run_of_inr step']
      exact along

theorem passes_last (source : String) (r : Reading) (sound : r.Sound options) :
    Walk.Passes r.walk (r.entries options) (r.last source options).walk
      ((r.last source options).entries options) ∧ (r.last source options).Sound options := by
  fun_induction last source options r with
  | case1 r r' h ih =>
    obtain ⟨passes, sound'⟩ := passes_step sound (stepsTo_of_step h)
    exact ⟨passes.trans (ih sound').1, (ih sound').2⟩
  | case2 r result h => exact ⟨.none _ _, sound⟩

theorem room_last (source : String) (r : Reading) (room : r.feed.Room options.maxTokens) :
    (r.last source options).feed.Room options.maxTokens := by
  fun_induction last source options r with
  | case1 r r' h ih => exact ih (room_step room (stepsTo_of_step h))
  | case2 r result h => exact room

/-- A run with room for all tokens goes past entries until one of them, or the end, ends it. -/
theorem ends_last (source : String) (r : Reading) (sound : r.Sound options)
    (room : r.feed.Room options.maxTokens) :
    Walk.Ends source options.strict (r.last source options).walk
      ((r.last source options).entries options) (r.run source options) := by
  have step := step_last source options r
  rcases step_inr (passes_last source r sound).2 step with ⟨limit, -⟩ | ends
  · exact absurd limit (Feed.take_ne_none (room_last source r room))
  · exact ends

theorem ends_last_of_ok {statements : List Statement} (sound : r.Sound options)
    (h : r.run source options = .ok statements) :
    Walk.Ends source options.strict (r.last source options).walk
      ((r.last source options).entries options) (.ok statements) := by
  have step := step_last source options r
  rw [h] at step
  rcases step_inr (passes_last source r sound).2 step with ⟨-, limit⟩ | ends
  · simp at limit
  · exact ends

theorem sound_start (options : ScriptOptions) (source : String) (target : Target) :
    (start source target).Sound options :=
  ⟨Feed.sound_of_held_none rfl, trivial⟩

theorem entries_start (source : String) (target : Target) :
    (start source target).entries options = Outline.ofSource options source := by
  rw [Outline.ofSource_eq, entries, Feed.ahead, Feed.toCome_of_held_none rfl]
  rfl

theorem room_start (source : String) (target : Target)
    (room : (TokenStream.tokens source).length + 1 ≤ options.maxTokens) :
    (start source target).feed.Room options.maxTokens := by
  rw [TokenStream.tokens_eq_listFrom] at room
  refine .inl ?_
  change 0 + (TokenStream.listFrom source.toList 0).length < options.maxTokens
  omega

end Reading
end Storypath
