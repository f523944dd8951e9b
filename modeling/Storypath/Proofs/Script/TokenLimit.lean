import Storypath.Proofs.Script.BranchLimit
import Storypath.Proofs.Script.Strictness

/-! The limit on tokens. A limit decides how far a run gets and nothing else: as long as it is not
met, every step is the one that is taken without it. Main statement: a script and a target ask for
a number of tokens of their own; a lower limit is met, and from that number on no limit is. -/
namespace Storypath

namespace Feed

variable {f f' : Feed} {t : Token} {limit limit' : Nat}

theorem take_of_limit (given : f.take limit ≠ none) (given' : f.take limit' ≠ none) :
    f.take limit' = f.take limit := by
  unfold take at *
  cases held : f.held with
  | some t => rfl
  | none =>
    simp only [held] at given given'
    by_cases room : f.taken < limit <;> by_cases room' : f.taken < limit' <;> simp_all

theorem taken_of_take_none (stops : f.take limit = none) :
    f.held = none ∧ limit ≤ f.taken := by
  unfold take at stops
  cases held : f.held with
  | some t => simp [held] at stops
  | none =>
    refine ⟨rfl, ?_⟩
    by_cases room : f.taken < limit
    · simp [held, room] at stops
    · omega

theorem taken_take (given : f.take limit = some (t, f')) :
    f'.taken = f.taken ∧ f.held ≠ none ∨ f'.taken = f.taken + 1 ∧ f.taken < limit := by
  unfold take at given
  cases held : f.held with
  | some t' =>
    simp only [held, Option.some.injEq, Prod.mk.injEq] at given
    obtain ⟨-, rfl⟩ := given
    exact .inl ⟨rfl, by simp⟩
  | none =>
    by_cases room : f.taken < limit
    · simp only [held, room, if_true, Option.some.injEq, Prod.mk.injEq] at given
      obtain ⟨-, rfl⟩ := given
      exact .inr ⟨rfl, room⟩
    · simp [held, room] at given

end Feed

namespace Reading

variable {source : String} {options : ScriptOptions} {r r' : Reading}
  {maxBranches limit limit' : Nat} {strict : Bool}

/-- How many tokens the stream has given when the next token has been taken. -/
def given (options : ScriptOptions) (r : Reading) : Nat :=
  match r.feed.take options.maxTokens with
  | some (_, feed) => feed.taken
  | none => r.feed.taken

def asked (source : String) (options : ScriptOptions) (r : Reading) : Nat :=
  (r.last source options).given options

theorem taken_of_step (step : r.step source options = .inl r') :
    r'.feed.taken = r.given options := by
  cases stepsTo_of_step step with
  | skip taken | take taken | putBack taken => simp [given, taken, Feed.putBack]

theorem taken_le_given (options : ScriptOptions) (r : Reading) :
    r.feed.taken ≤ r.given options := by
  unfold given
  split
  · next taken =>
    have := Feed.taken_take taken
    omega
  · exact Nat.le_refl _

theorem given_le_asked (source : String) (options : ScriptOptions) (r : Reading) :
    r.given options ≤ r.asked source options := by
  fun_induction last source options r with
  | case1 r r' step ih =>
    rw [asked, last_of_inl step, ← taken_of_step step]
    exact Nat.le_trans (r'.taken_le_given options) ih
  | case2 r result step => rw [asked, last_of_inr step]

/-- Where the limit is not met it has no part in a step. -/
theorem step_of_limit (given : r.feed.take limit ≠ none) (given' : r.feed.take limit' ≠ none) :
    r.step source ⟨maxBranches, limit', strict⟩ = r.step source ⟨maxBranches, limit, strict⟩ := by
  have same : r.feed.take limit' = r.feed.take limit := Feed.take_of_limit given given'
  simp only [step, same]
  cases taken : r.feed.take limit with
  | none => exact absurd taken given
  | some _ => rfl

theorem step_of_take_none (stops : r.feed.take limit = none) :
    r.step source ⟨maxBranches, limit, strict⟩ = .inr (.error (.tokenLimit limit)) := by
  simp [step, stops]

theorem given_of_limit (given : r.feed.take limit ≠ none) (given' : r.feed.take limit' ≠ none) :
    r.given ⟨maxBranches, limit', strict⟩ = r.given ⟨maxBranches, limit, strict⟩ := by
  have same : r.feed.take limit' = r.feed.take limit := Feed.take_of_limit given given'
  simp only [Reading.given, same]

theorem run_of_take_none (source : String) (maxBranches : Nat) (strict : Bool)
    (within : r.feed.taken ≤ limit) (stops : r.feed.take limit = none) :
    r.run source ⟨maxBranches, limit, strict⟩ = .error (.tokenLimit limit) ∧
      r.asked source ⟨maxBranches, limit, strict⟩ = limit := by
  have step : r.step source ⟨maxBranches, limit, strict⟩ = .inr (.error (.tokenLimit limit)) :=
    step_of_take_none stops
  have full : r.feed.taken = limit := Nat.le_antisymm within (Feed.taken_of_take_none stops).2
  refine ⟨run_of_inr step, ?_⟩
  rw [asked, last_of_inr step, given, stops, full]

theorem given_le (given : r.feed.take limit ≠ none) (within : r.feed.taken ≤ limit) :
    r.given ⟨maxBranches, limit, strict⟩ ≤ limit := by
  cases taken : r.feed.take limit with
  | none => exact absurd taken given
  | some next =>
    simp only [Reading.given, taken]
    have := Feed.taken_take taken
    omega

theorem lt_given (given : r.feed.take limit ≠ none) (within : r.feed.taken ≤ limit')
    (stops : r.feed.take limit' = none) : limit' < r.given ⟨maxBranches, limit, strict⟩ := by
  obtain ⟨held, full⟩ := Feed.taken_of_take_none stops
  cases taken : r.feed.take limit with
  | none => exact absurd taken given
  | some next =>
    simp only [Reading.given, taken]
    rcases Feed.taken_take taken with ⟨-, back⟩ | ⟨more, -⟩
    · exact absurd held back
    · omega

theorem run_of_stops (given : r.feed.take limit ≠ none) (within : r.feed.taken ≤ limit')
    (stops : r.feed.take limit' = none) :
    r.run source ⟨maxBranches, limit', strict⟩ =
        (if r.asked source ⟨maxBranches, limit, strict⟩ ≤ limit'
          then r.run source ⟨maxBranches, limit, strict⟩ else .error (.tokenLimit limit')) ∧
      r.asked source ⟨maxBranches, limit', strict⟩ =
        min (r.asked source ⟨maxBranches, limit, strict⟩) limit' := by
  have more : limit' < r.asked source ⟨maxBranches, limit, strict⟩ :=
    Nat.lt_of_lt_of_le (lt_given given within stops) (given_le_asked ..)
  obtain ⟨run, asked⟩ := run_of_take_none source maxBranches strict within stops
  rw [run, asked, if_neg (by omega)]
  exact ⟨rfl, by omega⟩

/-- A run that does not end at its limit tells what a run with another limit comes to: it ends at
that limit if it would ask for more tokens, and else it is the same. -/
theorem run_of_limit (free : r.run source ⟨maxBranches, limit, strict⟩ ≠ .error (.tokenLimit limit))
    (within : r.feed.taken ≤ limit') :
    r.run source ⟨maxBranches, limit', strict⟩ =
        (if r.asked source ⟨maxBranches, limit, strict⟩ ≤ limit'
          then r.run source ⟨maxBranches, limit, strict⟩ else .error (.tokenLimit limit')) ∧
      r.asked source ⟨maxBranches, limit', strict⟩ =
        min (r.asked source ⟨maxBranches, limit, strict⟩) limit' := by
  fun_induction last source ⟨maxBranches, limit, strict⟩ r with
  | case1 r r' step ih =>
    have given : r.feed.take limit ≠ none := by
      intro stops
      simp [step_of_take_none stops] at step
    -- The other limit stops the run here, or lets it take the same step.
    by_cases stops : r.feed.take limit' = none
    · exact run_of_stops given within stops
    · have step' : r.step source ⟨maxBranches, limit', strict⟩ = .inl r' := by
        rw [step_of_limit given stops, step]
      have within' : r'.feed.taken ≤ limit' := by
        rw [taken_of_step step']
        exact given_le stops within
      rw [run_of_inl step] at free
      rw [run_of_inl step, run_of_inl step', asked, asked, last_of_inl step, last_of_inl step']
      exact ih free within'
  | case2 r result step =>
    have given : r.feed.take limit ≠ none := by
      intro stops
      exact free (run_of_inr (step_of_take_none stops))
    by_cases stops : r.feed.take limit' = none
    · exact run_of_stops given within stops
    · have ended : r.asked source ⟨maxBranches, limit, strict⟩ =
          r.given ⟨maxBranches, limit, strict⟩ := by
        rw [asked, last_of_inr step]
      have step' : r.step source ⟨maxBranches, limit', strict⟩ = .inr result := by
        rw [step_of_limit given stops, step]
      have enough : r.given ⟨maxBranches, limit, strict⟩ ≤ limit' := by
        rw [← given_of_limit given stops]
        exact given_le stops within
      rw [run_of_inr step, run_of_inr step', ended, if_pos enough, asked, last_of_inr step',
        given_of_limit given stops]
      exact ⟨rfl, by omega⟩

theorem asked_cut (source : String) (sound : r.Sound ⟨maxBranches, limit, strict⟩) :
    (r.cut 0).asked source ⟨0, limit, strict⟩ = r.asked source ⟨maxBranches, limit, strict⟩ := by
  rw [asked, (run_cut (Nat.zero_le maxBranches) source sound).1]
  rfl

theorem run_code_ne (source : String) (target : Target)
    (room : (TokenStream.tokens source).length + 1 ≤ limit) {fault : ScriptFault}
    (fails : (start source target).run source ⟨maxBranches, limit, strict⟩ = .error fault) :
    fault.code ≠ "PARSE_GUARD_EXCEEDED" := by
  have ends := ends_last source (start source target)
    (sound_start ⟨maxBranches, limit, strict⟩ source target) (room_start source target room)
  rw [fails] at ends
  intro met
  simpa [met] using ends.code_mem

end Reading

/-- A script and a target have a number of tokens that it takes to resolve them, the same for all
limits on branches and at most one more than the script has tokens. A lower limit is met, and from
that number on all limits give one result, which is not that a limit was met. No run asks for more
tokens than that. -/
theorem resolveTarget_threshold (source : String) (target : Target) (strict : Bool) :
    ∃ k, 1 ≤ k ∧ k ≤ (TokenStream.tokens source).length + 1 ∧
      ∀ maxBranches,
        (∀ maxTokens < k, resolveTarget source target ⟨maxBranches, maxTokens, strict⟩ =
          .error (.tokenLimit maxTokens)) ∧
        (∃ result, (∀ fault, result = .error fault → fault.code ≠ "PARSE_GUARD_EXCEEDED") ∧
          ∀ maxTokens ≥ k,
            resolveTarget source target ⟨maxBranches, maxTokens, strict⟩ = result) ∧
        ∀ maxTokens, (Reading.start source target).asked source
          ⟨maxBranches, maxTokens, strict⟩ = min k maxTokens := by
  let enough := (TokenStream.tokens source).length + 1
  let start := Reading.start source target
  have code_ne (maxBranches : Nat) {fault : ScriptFault}
      (fails : start.run source ⟨maxBranches, enough, strict⟩ = .error fault) :
      fault.code ≠ "PARSE_GUARD_EXCEEDED" :=
    Reading.run_code_ne source target (Nat.le_refl enough) fails
  have other (maxBranches maxTokens : Nat) :=
    @Reading.run_of_limit source start maxBranches enough maxTokens strict
      (fun fails => code_ne maxBranches fails rfl) (Nat.zero_le maxTokens)
  have same (maxBranches : Nat) : start.asked source ⟨0, enough, strict⟩ =
      start.asked source ⟨maxBranches, enough, strict⟩ :=
    Reading.asked_cut source (Reading.sound_start _ source target)
  -- The threshold is what a run with room for all tokens asks for.
  refine ⟨start.asked source ⟨0, enough, strict⟩, ?_, ?_, fun maxBranches => ⟨?_, ?_, ?_⟩⟩
  · have first : start.feed.take enough ≠ none :=
      Feed.take_ne_none (@Reading.room_start ⟨0, enough, strict⟩ source target (Nat.le_refl enough))
    exact Nat.lt_of_lt_of_le (Reading.lt_given first (Nat.zero_le 0) rfl)
      (Reading.given_le_asked source ⟨0, enough, strict⟩ start)
  · have := (other 0 enough).2
    omega
  · intro maxTokens less
    rw [same maxBranches] at less
    rw [resolveTarget, (other maxBranches maxTokens).1, if_neg (by omega)]
  · refine ⟨start.run source ⟨maxBranches, enough, strict⟩, fun _ => code_ne maxBranches, ?_⟩
    intro maxTokens least
    rw [ge_iff_le, same maxBranches] at least
    rw [resolveTarget, (other maxBranches maxTokens).1, if_pos least]
  · intro maxTokens
    rw [same maxBranches]
    exact (other maxBranches maxTokens).2

end Storypath
