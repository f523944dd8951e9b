import Storypath.Proofs.Script.TokenLimit

/-! How many statements a segment can have. A token completes one statement at most, and one that is
put back completes none, so that a walk never holds more statements than tokens were taken. Main
statement: a segment has no more statements than the limit on tokens allows. -/
namespace Storypath

def Item.count : Item → Nat
  | .text _ | .pause _ | .choice .. => 1
  | .brokenChoice | .label _ | .jump _ | .blockEnd => 0

theorem Phase.count_of_putBack {options : ScriptOptions} {phase phase' : Phase} {t : Token}
    {item : Item} (read : phase.read options t = .putBack (some item) phase') : item.count = 0 := by
  cases phase <;> simp only [Phase.read, brokenChoice] at read <;> (repeat' split at read) <;>
    simp_all only [Reply.putBack.injEq, Option.some.injEq, reduceCtorEq, false_and] <;>
    simp [← read.1, Item.count]

namespace Walk

variable {w w' : Walk} {item : Item} {n : Nat}

structure Holds (w : Walk) (n : Nat) : Prop where
  gathered : w.gathered.length ≤ n
  kept : w.kept.length ≤ n

theorem Holds.mono {n' : Nat} (holds : w.Holds n) (le : n ≤ n') : w.Holds n' :=
  ⟨Nat.le_trans holds.gathered le, Nat.le_trans holds.kept le⟩

theorem Holds.gather {s : Statement} (holds : w.Holds n) : (w.gather s).Holds (n + 1) :=
  ⟨Nat.succ_le_succ holds.gathered, Nat.le_succ_of_le holds.kept⟩

theorem Holds.pass (holds : w.Holds n) (pass : w.pass item = .inl w') :
    w'.Holds (n + item.count) := by
  cases item with
  | text t | pause d =>
    obtain rfl := Sum.inl.inj pass
    exact holds.gather
  | choice prompt branches =>
    simp only [Walk.pass, close] at pass
    split at pass
    · cases pass
    · obtain rfl := Sum.inl.inj pass
      exact holds.gather
  | brokenChoice | blockEnd =>
    simp only [Walk.pass, close] at pass
    split at pass
    · cases pass
    · obtain rfl := Sum.inl.inj pass
      exact holds
  | label l =>
    simp only [Walk.pass] at pass
    split at pass
    · obtain rfl := Sum.inl.inj pass
      exact ⟨holds.kept, holds.kept⟩
    · obtain rfl := Sum.inl.inj pass
      exact holds
  | jump reference =>
    simp only [Walk.pass] at pass
    split at pass
    · obtain rfl := Sum.inl.inj pass
      exact ⟨holds.gathered, holds.gathered⟩
    · obtain rfl := Sum.inl.inj pass
      exact holds

theorem Holds.length_of_inr {result : List Statement} (holds : w.Holds n)
    (pass : w.pass item = .inr result) : result.length ≤ n + 1 := by
  have gathered := holds.gathered
  obtain ⟨-, ⟨prompt, branches, -, rfl⟩ | ⟨-, rfl⟩⟩ := pass_inr pass <;>
    simp only [statements, List.length_append, List.length_reverse, List.length_singleton] <;> omega

theorem Holds.moves {item? : Option Item} (holds : w.Holds n) (moves : w.Moves item? w') :
    w'.Holds (n + 1) := by
  cases moves with
  | stay => exact holds.mono (Nat.le_succ n)
  | @pass item _ pass =>
    refine (holds.pass pass).mono ?_
    cases item <;> simp [Item.count]

end Walk

namespace Reading

variable {source : String} {options : ScriptOptions} {r r' : Reading}

/-- A reading whose walk holds no more statements than tokens have been used up. -/
structure Accounted (options : ScriptOptions) (r : Reading) : Prop where
  holds : ∃ n, r.walk.Holds n ∧ n + r.feed.held.toList.length ≤ r.feed.taken
  within : r.feed.taken ≤ options.maxTokens

theorem Accounted.take {t : Token} {feed : Feed} (accounted : r.Accounted options)
    (taken : r.feed.take options.maxTokens = some (t, feed)) :
    ∃ n, r.walk.Holds n ∧ n + 1 ≤ feed.taken ∧ feed.taken ≤ options.maxTokens := by
  obtain ⟨⟨n, holds, less⟩, within⟩ := accounted
  refine ⟨n, holds, ?_⟩
  rcases Feed.taken_take taken with ⟨same, back⟩ | ⟨more, room⟩
  · obtain ⟨t', held⟩ := Option.ne_none_iff_exists'.mp back
    rw [held] at less
    exact ⟨by rw [same]; exact less, by omega⟩
  · exact ⟨by omega, by omega⟩

theorem accounted_step (accounted : r.Accounted options) (steps : r.StepsTo options r') :
    r'.Accounted options := by
  cases steps with
  | skip taken blank =>
    obtain ⟨n, holds, room, within⟩ := accounted.take taken
    have held := (Feed.weight_take taken).1
    exact ⟨⟨n, holds, by simp only [held]; exact Nat.le_of_succ_le room⟩, within⟩
  | take taken counts read moves =>
    obtain ⟨n, holds, room, within⟩ := accounted.take taken
    have held := (Feed.weight_take taken).1
    exact ⟨⟨n + 1, holds.moves moves, by simp only [held]; exact room⟩, within⟩
  | putBack taken counts read moves =>
    obtain ⟨n, holds, room, within⟩ := accounted.take taken
    refine ⟨⟨n, ?_, room⟩, within⟩
    cases moves with
    | stay => exact holds
    | pass pass =>
      have held := holds.pass pass
      rwa [Phase.count_of_putBack read] at held

theorem accounted_last (source : String) (r : Reading) (accounted : r.Accounted options) :
    (r.last source options).Accounted options := by
  fun_induction last source options r with
  | case1 r r' step ih => exact ih (accounted_step accounted (stepsTo_of_step step))
  | case2 r result step => exact accounted

theorem accounted_start (source : String) (target : Target) :
    (start source target).Accounted options :=
  ⟨⟨0, ⟨Nat.le_refl 0, Nat.le_refl 0⟩, Nat.le_refl 0⟩, Nat.zero_le _⟩

theorem length_after_inr {feed : Feed} {phase : Phase} {walk : Walk} {item? : Option Item}
    {statements : List Statement} {n : Nat} (holds : walk.Holds n)
    (ended : after feed phase walk item? = .inr (.ok statements)) : statements.length ≤ n + 1 := by
  cases item? with
  | none => cases ended
  | some item =>
    simp only [after] at ended
    split at ended
    · cases ended
    · next pass =>
      obtain rfl := Except.ok.inj (Sum.inr.inj ended)
      exact holds.length_of_inr pass

theorem length_step {statements : List Statement} (accounted : r.Accounted options)
    (ended : r.step source options = .inr (.ok statements)) :
    statements.length ≤ options.maxTokens := by
  unfold step at ended
  split at ended
  · cases ended
  next t feed taken =>
  obtain ⟨n, holds, room, within⟩ := accounted.take taken
  suffices few : statements.length ≤ n + 1 by omega
  split at ended
  · cases ended
  · split at ended
    · exact length_after_inr holds ended
    · exact length_after_inr holds ended
    · cases ended
    · cases ended
    · have finished := Sum.inr.inj ended
      have gathered := holds.gathered
      unfold Walk.finish at finished
      repeat' split at finished
      all_goals cases finished
      rw [Walk.statements, List.length_reverse]
      omega

end Reading

theorem length_resolveTarget_le {source : String} {target : Target} {options : ScriptOptions}
    {statements : List Statement}
    (resolved : resolveTarget source target options = .ok statements) :
    statements.length ≤ options.maxTokens := by
  have ended := Reading.step_last source options (.start source target)
  rw [resolveTarget] at resolved
  rw [resolved] at ended
  refine Reading.length_step (Reading.accounted_last source _ ?_) ended
  exact Reading.accounted_start source target

end Storypath
