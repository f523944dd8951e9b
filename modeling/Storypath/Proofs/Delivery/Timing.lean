import Mathlib
import Storypath.Proofs.Delivery.Planning

/-! When the messages of a plan are due. A message waits for all that is typed up to it and for all
pauses before it, and what comes later is planned as if it stood alone, and put off. Main statement:
the plan of any list of statements, or the pause for which there is none. -/
namespace Storypath

def timeToType (count : Nat) : Nat :=
  if count < 5 then 2000000000
  else if count < 10 then 2500000000
  else if count < 15 then 3000000000
  else 4000000000

theorem typingDelay_eq (count : Nat) : typingDelay count = timeToType count := by
  unfold typingDelay typingMilliseconds timeToType
  split_ifs <;> omega

namespace Statement

def shows : Statement → Bool
  | .text _ | .choice _ _ => true
  | .pause _ => false

def typing : Statement → Nat
  | .text t => timeToType t.length
  | .choice prompt _ => timeToType prompt.length
  | .pause _ => 0

def pausing : Statement → Nat
  | .pause literal => (Duration.parse literal).toOption.getD 0
  | _ => 0

/-- The message that tells what a statement tells. Of the branches those are offered that stand
before the first without a text. -/
inductive Tells : Statement → Message → Prop
  | text (t : String) : Tells (.text t) (.text t)
  | choice (prompt : String) {offered rest : List Branch}
      (named : ∀ b ∈ offered, b.buttonText ≠ "")
      (stops : ∀ b ∈ rest.head?, b.buttonText = "") :
      Tells (.choice prompt (offered ++ rest))
        (.buttons prompt prompt
          (offered.map fun b => ⟨b.buttonText, b.targetLabel, b.buttonText⟩))

theorem tells_choice (prompt : String) (branches : List Branch) :
    Tells (.choice prompt branches) (.buttons prompt prompt (Button.ofBranches branches)) := by
  let offers : Branch → Bool := fun b => b.buttonText != ""
  have named : ∀ b ∈ branches.takeWhile offers, b.buttonText ≠ "" := fun b mem => by
    simpa [offers] using List.mem_takeWhile_imp mem
  have stops : ∀ b ∈ (branches.dropWhile offers).head?, b.buttonText = "" := fun b first => by
    have ended := List.head?_dropWhile_not offers branches
    rw [Option.mem_def.mp first] at ended
    simpa [offers] using ended
  have whole := Tells.choice prompt named stops
  rwa [List.takeWhile_append_dropWhile] at whole

theorem tells_of_effect {s : Statement} {message : Message} (shown : s.effect = .inr message) :
    s.Tells message := by
  cases s with
  | text t =>
    obtain rfl := Sum.inr.inj shown
    exact .text t
  | choice prompt branches =>
    obtain rfl := Sum.inr.inj shown
    exact tells_choice prompt branches
  | pause literal => simp [effect] at shown

theorem shows_iff {s : Statement} : s.shows = true ↔ ∃ message, s.effect = .inr message := by
  cases s <;> simp [shows, effect]

theorem eq_pause_of_effect {s : Statement} {literal : String} (waits : s.effect = .inl literal) :
    s = .pause literal := by
  cases s with
  | pause literal' => rw [Sum.inl.inj waits]
  | text t | choice prompt branches => cases waits

theorem typing_of_effect {s : Statement} {message : Message} (shown : s.effect = .inr message) :
    s.typing = typingDelay s.displayText.length := by
  cases s with
  | pause literal => simp [effect] at shown
  | text t | choice prompt branches => exact (typingDelay_eq _).symm

end Statement

def Scheduled.later (time : Nat) (s : Scheduled) : Scheduled := { s with delay := s.delay + time }

namespace Scheduled

@[simp] theorem later_mk (time delay : Nat) (message : Message) :
    later time ⟨delay, message⟩ = ⟨delay + time, message⟩ := rfl

@[simp] theorem later_zero : later 0 = id := rfl

@[simp] theorem later_comp_later (first second : Nat) :
    later second ∘ later first = later (first + second) := by
  funext s
  simp [later, Nat.add_assoc]

end Scheduled

namespace Delivery

def elapsed (statements : List Statement) : Nat :=
  (statements.map Statement.typing).sum + (statements.map Statement.pausing).sum

/-- A plan from an offset on is the plan from the start, put off. -/
theorem planFrom_eq (statements : List Statement) (offset : Nat) (before : Array Scheduled) :
    planFrom offset before statements =
      (plan statements).map fun p => before.toList ++ p.map (Scheduled.later offset) := by
  unfold plan
  -- The offset and what is planned before move along, so the plan of the rest is put off twice.
  induction statements generalizing offset before with
  | nil => simp [planFrom, Except.map]
  | cons s rest ih =>
    cases shown : s.effect with
    | inl literal =>
      cases read : Duration.parse literal with
      | error fault => simp [planFrom, shown, read, Except.map]
      | ok pause =>
        simp only [planFrom, shown, read]
        rw [ih (offset + pause), ih (0 + pause)]
        cases planFrom 0 #[] rest with
        | error fault => rfl
        | ok p => simp [Except.map, Nat.add_comm]
    | inr message =>
      simp only [planFrom, shown]
      rw [ih _ (before.push _), ih _ (#[].push _)]
      cases planFrom 0 #[] rest with
      | error fault => simp only [Except.map]
      | ok p => simp [Except.map, Nat.add_comm]

def followed (time : Nat) (first second : Except DurationFault (List Scheduled)) :
    Except DurationFault (List Scheduled) :=
  first.bind fun p => second.map fun q => p ++ q.map (Scheduled.later time)

theorem followed_assoc (time time' : Nat) (a b c : Except DurationFault (List Scheduled)) :
    followed time a (followed time' b c) = followed (time + time') (followed time a b) c := by
  cases a with
  | error fault => rfl
  | ok p =>
    cases b with
    | error fault => rfl
    | ok q =>
      cases c with
      | error fault => rfl
      | ok r => simp [followed, Except.bind, Except.map, Nat.add_comm]

theorem elapsed_append (first second : List Statement) :
    elapsed (first ++ second) = elapsed first + elapsed second := by
  simp only [elapsed, List.map_append, List.sum_append]
  omega

theorem elapsed_cons (s : Statement) (rest : List Statement) :
    elapsed (s :: rest) = elapsed [s] + elapsed rest :=
  elapsed_append [s] rest

theorem elapsed_message {s : Statement} {message : Message} (shown : s.effect = .inr message) :
    elapsed [s] = s.typing := by
  cases s with
  | pause literal => simp [Statement.effect] at shown
  | text t | choice prompt branches => simp [elapsed, Statement.pausing]

theorem plan_message {s : Statement} {message : Message} (shown : s.effect = .inr message) :
    plan [s] = .ok [⟨s.typing, message⟩] := by
  rw [Statement.typing_of_effect shown, plan, planFrom]
  simp [shown, planFrom]

theorem elapsed_pause {literal : String} {pause : Nat} (read : Duration.parse literal = .ok pause) :
    elapsed [.pause literal] = pause := by
  simp [elapsed, Statement.typing, Statement.pausing, read, Except.toOption]

theorem plan_pause (literal : String) :
    plan [.pause literal] = (Duration.parse literal).map fun _ => [] := by
  cases read : Duration.parse literal <;> simp [plan, planFrom, Statement.effect, read, Except.map]

theorem plan_cons (s : Statement) (rest : List Statement) :
    plan (s :: rest) = followed (elapsed [s]) (plan [s]) (plan rest) := by
  cases shown : s.effect with
  | inl literal =>
    obtain rfl := Statement.eq_pause_of_effect shown
    rw [plan_pause]
    cases read : Duration.parse literal with
    | error fault => simp [followed, plan, planFrom, shown, read, Except.bind, Except.map]
    | ok pause =>
      rw [elapsed_pause read, plan, planFrom]
      simp [shown, read, planFrom_eq rest, followed, Except.bind, Except.map]
  | inr message =>
    rw [plan_message shown, elapsed_message shown, Statement.typing_of_effect shown, plan, planFrom]
    simp [shown, planFrom_eq rest, followed, Except.bind, Except.map]

/-- Two lists of statements are planned one after the other, the second when the time for the
first has gone by. -/
theorem plan_append (first second : List Statement) :
    plan (first ++ second) = followed (elapsed first) (plan first) (plan second) := by
  induction first with
  | nil =>
    cases h : plan second with
    | error fault => simp [followed, plan, planFrom, Except.bind, Except.map, ← h]
    | ok q => simp [followed, plan, planFrom, elapsed, Except.bind, Except.map, ← h]
  | cons s rest ih =>
    rw [List.cons_append, plan_cons, ih, followed_assoc, ← plan_cons, elapsed_cons s rest]

theorem plan_eq_error_iff {statements : List Statement} {fault : DurationFault} :
    plan statements = .error fault ↔
      ∃ before literal after, statements = before ++ .pause literal :: after ∧
        (∀ s ∈ before, s.CanWait) ∧ Duration.parse literal = .error fault := by
  constructor
  · intro failed
    induction statements with
    | nil => simp [plan, planFrom] at failed
    | cons s rest ih =>
      rw [plan_cons] at failed
      cases alone : plan [s] with
      | error fault' =>
        obtain rfl : fault' = fault := by simpa [followed, alone, Except.bind] using failed
        cases shown : s.effect with
        | inl literal =>
          obtain rfl := Statement.eq_pause_of_effect shown
          refine ⟨[], literal, rest, rfl, by simp, ?_⟩
          rw [plan_pause] at alone
          cases read : Duration.parse literal <;> simp_all [Except.map]
        | inr message => simp [plan_message shown] at alone
      | ok p =>
        have failed : plan rest = .error fault := by
          cases later : plan rest <;> simp_all [followed, Except.bind, Except.map]
        obtain ⟨before, literal, after, rfl, readable, read⟩ := ih failed
        have first : s.CanWait := plan_ok_iff.mp ⟨p, alone⟩ s (List.mem_singleton_self s)
        exact ⟨s :: before, literal, after, rfl, List.forall_mem_cons.mpr ⟨first, readable⟩, read⟩
  · rintro ⟨before, literal, after, rfl, readable, read⟩
    obtain ⟨p, planned⟩ := plan_ok_iff.mpr readable
    rw [plan_append, planned, plan_cons, plan_pause, read]
    rfl

variable {statements before after : List Statement} {s : Statement} {plan : List Scheduled}

theorem length_plan (planned : Delivery.plan statements = .ok plan) :
    plan.length = statements.countP Statement.shows := by
  have sent : Statement.shows = fun s => s.message?.isSome := by
    funext s
    cases s <;> rfl
  rw [← List.length_map Scheduled.message, map_message_plan planned, sent,
    List.length_filterMap_eq_countP]

theorem getElem?_plan {message : Message} (shown : s.effect = .inr message)
    (planned : Delivery.plan (before ++ s :: after) = .ok plan) :
    plan[before.countP Statement.shows]? = some
      ⟨((before ++ [s]).map Statement.typing).sum + (before.map Statement.pausing).sum,
        message⟩ := by
  rw [plan_append, plan_cons, plan_message shown, elapsed_message shown] at planned
  cases first : Delivery.plan before with
  | error fault => simp [followed, first, Except.bind] at planned
  | ok p =>
    cases rest : Delivery.plan after with
    | error fault => simp [followed, first, rest, Except.bind, Except.map] at planned
    | ok q =>
      rw [first, rest] at planned
      obtain rfl := Except.ok.inj planned
      rw [← length_plan first, List.getElem?_append_right (Nat.le_refl _), Nat.sub_self]
      simp [elapsed]
      omega

end Delivery

open Delivery (followed elapsed)

/-- There is no plan just if a pause cannot be read, and then the first such pause is the reason.
Else each statement that shows something sends one message, in their order, which is due when all
that is typed up to it has been typed and the pauses before it are over. What comes later is planned
as if it stood alone, and put off by the time that has gone by until then. -/
theorem plan_due (statements : List Statement) :
    (∀ fault, Delivery.plan statements = .error fault ↔
      ∃ before literal after, statements = before ++ .pause literal :: after ∧
        (∀ s ∈ before, s.CanWait) ∧ Duration.parse literal = .error fault) ∧
    ((∀ s ∈ statements, s.CanWait) → ∃ plan, Delivery.plan statements = .ok plan ∧
      plan.length = statements.countP Statement.shows ∧
      ∀ before s after, statements = before ++ s :: after → s.shows = true →
        ∃ message, s.Tells message ∧ plan[before.countP Statement.shows]? = some
          ⟨((before ++ [s]).map Statement.typing).sum + (before.map Statement.pausing).sum,
            message⟩) ∧
    ∀ later, Delivery.plan (statements ++ later) =
      followed (elapsed statements) (Delivery.plan statements) (Delivery.plan later) := by
  refine ⟨fun fault => Delivery.plan_eq_error_iff, fun readable => ?_, Delivery.plan_append _⟩
  obtain ⟨plan, planned⟩ := Delivery.plan_ok_iff.mpr readable
  refine ⟨plan, planned, Delivery.length_plan planned, ?_⟩
  rintro before s after rfl shown
  obtain ⟨message, effect⟩ := Statement.shows_iff.mp shown
  exact ⟨message, Statement.tells_of_effect effect, Delivery.getElem?_plan effect planned⟩

end Storypath
