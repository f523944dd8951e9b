import Mathlib
import Storypath.Proofs.Script.Calls
import Storypath.Proofs.Script.Lookahead

/-! The room for one token. A run takes tokens and puts some of them back, where one that is put back
takes the room of any that is there. Main statement: none is ever there, so that what a run has used up
and what it has put back are at each moment the tokens that the stream has given, in their order. -/
namespace Storypath

namespace Feed
open TokenStream

inductive Use where
  | take (t : Token)
  | putBack (t : Token)
  deriving DecidableEq

def use? (limit : Nat) (f : Feed) : Use → Option Feed
  | .take t =>
    match f.take limit with
    | some (t', f') => if t' = t then some f' else none
    | none => none
  | .putBack t => some (f.putBack t)

def uses? (limit : Nat) (f : Feed) (us : List Use) : Option Feed := us.foldlM (use? limit) f

def usedUp (us : List Use) : List Token :=
  us.foldl (fun ts u => match u with | .take t => ts ++ [t] | .putBack _ => ts.dropLast) []

variable {source : String} {limit : Nat} {f f' : Feed} {t : Token} {before us : List Use}

@[simp] theorem usedUp_nil : usedUp [] = [] := rfl

@[simp] theorem usedUp_take : usedUp (us ++ [.take t]) = usedUp us ++ [t] := by
  simp [usedUp]

@[simp] theorem usedUp_putBack : usedUp (us ++ [.take t, .putBack t]) = usedUp us := by
  simp [usedUp]

theorem uses?_append (reached : f.uses? limit before = some f') :
    f.uses? limit (before ++ us) = f'.uses? limit us := by
  rw [uses?, List.foldlM_append, ← uses?, reached]
  rfl

theorem uses?_take (taken : f.take limit = some (t, f')) : f.uses? limit [.take t] = some f' := by
  simp [uses?, use?, taken]

theorem uses?_putBack (taken : f.take limit = some (t, f')) :
    f.uses? limit [.take t, .putBack t] = some (f'.putBack t) := by
  simp [uses?, use?, taken]

/-- The uses of a feed account for the tokens that the stream has given: they are used up, but for one
that was put back. The token at the end is asked for once at most. -/
structure Booked (source : String) (us : List Use) (f : Feed) : Prop where
  stream : Before ((tokens source).drop f.taken) source.utf8ByteSize f.stream
  given : usedUp us ++ f.held.toList =
    (tokens source ++ [Token.atEnd source.utf8ByteSize]).take f.taken
  within : f.taken ≤ (tokens source).length + 1

def Open (source : String) (f : Feed) : Prop := f.held = none → f.taken ≤ (tokens source).length

theorem booked_ofSource (source : String) : Booked source [] (ofSource source) where
  stream := before_ofSource source
  given := by simp [ofSource]
  within := Nat.zero_le _

theorem Booked.take (booked : Booked source us f) (unended : f.Open source)
    (taken : f.take limit = some (t, f')) : Booked source (us ++ [.take t]) f' := by
  unfold Feed.take at taken
  cases held : f.held with
  | some t' =>
    simp only [held, Option.some.injEq, Prod.mk.injEq] at taken
    obtain ⟨rfl, rfl⟩ := taken
    refine ⟨booked.stream, ?_, booked.within⟩
    simpa [held] using booked.given
  | none =>
    by_cases room : f.taken < limit
    · simp only [held, room, if_true, Option.some.injEq, Prod.mk.injEq] at taken
      obtain ⟨rfl, rfl⟩ := taken
      have within := unended held
      obtain ⟨first, later⟩ := booked.stream.token
      rw [List.tail_drop] at later
      rw [due_drop, Nat.add_zero, due_token _ within] at first
      refine ⟨later, ?_, Nat.succ_le_succ within⟩
      rw [usedUp_take, List.take_add_one, ← booked.given, held, ← first]
      simp
    · simp [held, room] at taken

theorem Booked.putBack (booked : Booked source (us ++ [.take t]) f) (held : f.held = none) :
    Booked source (us ++ [.take t, .putBack t]) (f.putBack t) := by
  refine ⟨booked.stream, ?_, booked.within⟩
  rw [usedUp_putBack]
  simpa [Feed.putBack, held] using booked.given

theorem Booked.unended (booked : Booked source (us ++ [.take t]) f) (held : f.held = none)
    (notEnd : t.kind ≠ .endOfInput) : f.Open source := by
  intro _
  by_contra beyond
  have within := booked.within
  have all : f.taken = (tokens source).length + 1 := by omega
  have given := booked.given
  rw [usedUp_take, held, Option.toList_none, List.append_nil, all,
    List.take_of_length_le (by simp)] at given
  obtain rfl : t = Token.atEnd source.utf8ByteSize := by
    simpa using (List.append_inj' given rfl).2
  exact notEnd rfl

/-- Uses of a feed in good order. A token is put back as soon as it has been taken, and the token at
the end is used up by the last use only. -/
inductive Orderly (limit : Nat) : Feed → List Use → Prop
  | done (f : Feed) : Orderly limit f []
  | last {f f' : Feed} {t : Token} (taken : f.take limit = some (t, f')) :
      Orderly limit f [.take t]
  | take {f f' : Feed} {t : Token} {us : List Use} (taken : f.take limit = some (t, f'))
      (notEnd : t.kind ≠ .endOfInput) (later : Orderly limit f' us) :
      Orderly limit f (.take t :: us)
  | putBack {f f' : Feed} {t : Token} {us : List Use} (taken : f.take limit = some (t, f'))
      (later : Orderly limit (f'.putBack t) us) :
      Orderly limit f (.take t :: .putBack t :: us)

/-- A moment among uses: what they have led to, and that a token which comes to be put back has just
been taken and meets no other. -/
structure Moment (source : String) (limit : Nat) (before later : List Use) (f : Feed) : Prop where
  reached : (ofSource source).uses? limit before = some f
  booked : Booked source before f
  putBack : ∀ t, later.head? = some (.putBack t) →
    f.held = none ∧ before.getLast? = some (.take t)

theorem Orderly.moment (orderly : Orderly limit f us)
    (reached : (ofSource source).uses? limit before = some f) (booked : Booked source before f) :
    Moment source limit before us f := by
  refine ⟨reached, booked, fun t next => ?_⟩
  cases orderly <;> simp at next

/-- Where uses in good order begin with no token used up at the end, each of them is made at a moment
at which the tokens are accounted for. -/
theorem exists_moment (orderly : Orderly limit f us)
    (reached : (ofSource source).uses? limit before = some f) (booked : Booked source before f)
    (unended : f.Open source) (n : Nat) :
    ∃ g, Moment source limit (before ++ us.take n) (us.drop n) g := by
  induction orderly generalizing before n with
  | done f => exact ⟨f, by simpa using (Orderly.done f).moment reached booked⟩
  | @last f f' t taken =>
    have reached' := (uses?_append reached).trans (uses?_take taken)
    have booked' := booked.take unended taken
    match n with
    | 0 => exact ⟨f, by simpa using (Orderly.last taken).moment reached booked⟩
    | n + 1 => exact ⟨f', by simpa using (Orderly.done f').moment reached' booked'⟩
  | @take f f' t us taken notEnd later ih =>
    have reached' := (uses?_append reached).trans (uses?_take taken)
    have booked' := booked.take unended taken
    have unended' := booked'.unended (weight_take taken).1 notEnd
    match n with
    | 0 => exact ⟨f, by simpa using (Orderly.take taken notEnd later).moment reached booked⟩
    | n + 1 => simpa using ih reached' booked' unended' n
  | @putBack f f' t us taken later ih =>
    have held := (weight_take taken).1
    have booked' := booked.take unended taken
    match n with
    | 0 => exact ⟨f, by simpa using (Orderly.putBack taken later).moment reached booked⟩
    | 1 =>
      -- Only here a token comes to be put back: the one that has just been taken.
      have reached' := (uses?_append reached).trans (uses?_take taken)
      exact ⟨f', by simpa using reached', by simpa using booked', by simpa using held⟩
    | n + 2 =>
      have reached' := (uses?_append reached).trans (uses?_putBack taken)
      have unended' : (f'.putBack t).Open source := by
        intro none
        simp [Feed.putBack] at none
      simpa using ih reached' (booked'.putBack held) unended' n

end Feed

namespace Reply

/-- Whether the token is put back. It is before a broken choice is refused, too. -/
def returns : Reply → Bool
  | .putBack _ _ | .flaw (.choice _ _) => true
  | .take _ _ | .flaw (.wait _ _) | .refuse _ | .finish => false

end Reply

namespace Reading
open Feed

variable {source : String} {target : Target} {options : ScriptOptions} {r r' : Reading}

def uses (options : ScriptOptions) (r : Reading) : List Use :=
  match r.feed.take options.maxTokens with
  | none => []
  | some (t, _) =>
    if t.isWhitespace then [.take t]
    else if (r.phase.read options t).returns then [.take t, .putBack t]
    else [.take t]

def history (source : String) (options : ScriptOptions) (r : Reading) : List Use :=
  match _h : r.step source options with
  | .inl r' => r.uses options ++ r'.history source options
  | .inr _ => r.uses options
termination_by r.measure
decreasing_by exact measure_step _h

theorem history_of_inl (step : r.step source options = .inl r') :
    r.history source options = r.uses options ++ r'.history source options := by
  rw [history]
  split
  · next r'' step' =>
    rw [step, Sum.inl.injEq] at step'
    rw [step']
  · next result step' => simp [step] at step'

/-- A step that goes on takes a token that is not the one at the end, or it takes a token and puts it
back. -/
theorem uses_of_step (step : r.step source options = .inl r') :
    (∃ t, r.feed.take options.maxTokens = some (t, r'.feed) ∧ t.kind ≠ .endOfInput ∧
      r.uses options = [.take t]) ∨
    ∃ t f, r.feed.take options.maxTokens = some (t, f) ∧ r'.feed = f.putBack t ∧
      r.uses options = [.take t, .putBack t] := by
  cases stepsTo_of_step step with
  | @skip t f taken blank =>
    refine .inl ⟨t, taken, ?_, by simp [uses, taken, blank]⟩
    intro atEnd
    simp [Token.isWhitespace, atEnd] at blank
  | @take t f _ _ _ taken counts read moves =>
    exact .inl ⟨t, taken, Phase.kind_ne_of_take read, by
      simp [uses, taken, counts, read, Reply.returns]⟩
  | @putBack t f _ _ _ taken counts read moves =>
    exact .inr ⟨t, f, taken, rfl, by simp [uses, taken, counts, read, Reply.returns]⟩

theorem uses?_of_step (step : r.step source options = .inl r') :
    r.feed.uses? options.maxTokens (r.uses options) = some r'.feed := by
  rcases uses_of_step step with ⟨t, taken, -, uses⟩ | ⟨t, f, taken, back, uses⟩
  · rw [uses, uses?_take taken]
  · rw [uses, uses?_putBack taken, back]

theorem orderly_history (source : String) (options : ScriptOptions) (r : Reading) :
    Orderly options.maxTokens r.feed (r.history source options) := by
  fun_induction history source options r with
  | case1 r r' step ih =>
    rcases uses_of_step step with ⟨t, taken, notEnd, uses⟩ | ⟨t, f, taken, back, uses⟩
    · rw [uses]
      exact .take taken notEnd ih
    · rw [uses]
      rw [back] at ih
      exact .putBack taken ih
  | case2 r result step =>
    unfold uses
    split
    · exact .done r.feed
    next t f taken =>
    split
    · exact .last taken
    · split
      · exact .putBack taken (.done _)
      · exact .last taken

theorem Reached.exists_uses (reached : Reached source options target r) :
    ∃ before, (Reading.start source target).history source options =
        before ++ r.history source options ∧
      (Feed.ofSource source).uses? options.maxTokens before = some r.feed := by
  induction reached with
  | start => exact ⟨[], rfl, rfl⟩
  | @step r r' _ step ih =>
    obtain ⟨before, split, uses⟩ := ih
    refine ⟨before ++ r.uses options, ?_, ?_⟩
    · rw [split, history_of_inl step, List.append_assoc]
    · rw [uses?_append uses, uses?_of_step step]

/-- A run that is resolving a target has room for one token, and that is enough. Its uses of the feed
can all be made and lead to each of its readings. Where one of them puts a token back, no other is there
and the token has just been taken. At each moment the tokens used up and the one that was put back, if
any, are what the stream answers to so many calls, the first tokens of the script in their order. -/
theorem history_booked (source : String) (target : Target) (options : ScriptOptions) :
    let history := (start source target).history source options
    (∀ r, Reached source options target r → ∃ n,
      (Feed.ofSource source).uses? options.maxTokens (history.take n) = some r.feed) ∧
    ∀ n, ∃ f, (Feed.ofSource source).uses? options.maxTokens (history.take n) = some f ∧
      (∀ t, history[n]? = some (.putBack t) →
        f.held = none ∧ (history.take n).getLast? = some (.take t)) ∧
      (usedUp (history.take n) ++ f.held.toList).map some =
        (TokenStream.ofSource source).answers (List.replicate f.taken .token) ∧
      usedUp (history.take n) ++ f.held.toList <+:
        TokenStream.tokens source ++ [Token.atEnd source.utf8ByteSize] := by
  intro history
  refine ⟨fun r reached => ?_, fun n => ?_⟩
  · obtain ⟨before, split, uses⟩ := reached.exists_uses
    have front : history.take before.length = before := by simp [history, split]
    exact ⟨before.length, by rw [front, uses]⟩
  · obtain ⟨f, moment⟩ := @exists_moment source options.maxTokens _ [] _
      (orderly_history source options (start source target)) rfl (booked_ofSource source)
      (fun _ => Nat.zero_le _) n
    rw [List.nil_append] at moment
    have given := moment.booked.given
    refine ⟨f, moment.reached, ?_, ?_, ?_⟩
    · intro t next
      exact moment.putBack t (by rw [List.head?_drop]; exact next)
    · rw [TokenStream.answers_token moment.booked.within, given]
    · rw [given]
      exact List.take_prefix _ _

/-- A bracket at the end of a script. The name, the button, the marker and the closing of the block
find the end in its place one after the other, and each puts it back. -/
example : ((start "@buttons
Go?
-[" (.ofLabel "*a")).history "@buttons
Go?
-[" {}).drop 5 =
    .take ⟨.jumpBracket, "[", 14⟩ ::
      (List.replicate 4 [.take (.atEnd 15), .putBack (.atEnd 15)]).flatten ++
      [.take (.atEnd 15)] := by
  cbv

end Reading
end Storypath
