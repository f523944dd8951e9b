import Storypath.Delivery.Plan

/-! What a plan sends. There is a plan if every pause can be read, and it has one message for each
statement that shows something, in their order. -/
namespace Storypath

namespace Statement

def message? (s : Statement) : Option Message := s.effect.getRight?

def CanWait (s : Statement) : Prop := ∀ literal, s = .pause literal →
  ∃ pause, Duration.parse literal = .ok pause

end Statement

namespace Delivery

variable {statements : List Statement} {plan : List Scheduled}

theorem map_message_planFrom {offset : Nat} {before : Array Scheduled}
    (planned : planFrom offset before statements = .ok plan) :
    plan.map Scheduled.message =
      before.toList.map Scheduled.message ++ statements.filterMap Statement.message? := by
  induction statements generalizing offset before with
  | nil =>
    obtain rfl := Except.ok.inj planned
    simp
  | cons s rest ih =>
    cases s with
    | pause literal =>
      cases read : Duration.parse literal with
      | error fault => simp [planFrom, Statement.effect, read] at planned
      | ok pause =>
        simp only [planFrom, Statement.effect, read] at planned
        rw [ih planned]
        rfl
    | text t => simpa [Statement.message?, Statement.effect] using ih planned
    | choice prompt branches => simpa [Statement.message?, Statement.effect] using ih planned

/-- A plan sends the messages of the statements, and nothing else. -/
theorem map_message_plan (planned : Delivery.plan statements = .ok plan) :
    plan.map Scheduled.message = statements.filterMap Statement.message? :=
  map_message_planFrom planned

theorem planFrom_ok_iff {offset : Nat} {before : Array Scheduled} :
    (∃ plan, planFrom offset before statements = .ok plan) ↔ ∀ s ∈ statements, s.CanWait := by
  induction statements generalizing offset before with
  | nil => simp [planFrom]
  | cons s rest ih =>
    rw [List.forall_mem_cons]
    cases s with
    | pause literal =>
      cases read : Duration.parse literal with
      | error fault => simp [planFrom, Statement.effect, Statement.CanWait, read]
      | ok pause => simp [planFrom, Statement.effect, Statement.CanWait, read, ih]
    | text t => simp [planFrom, Statement.effect, Statement.CanWait, ih]
    | choice prompt branches => simp [planFrom, Statement.effect, Statement.CanWait, ih]

theorem plan_ok_iff :
    (∃ plan, Delivery.plan statements = .ok plan) ↔ ∀ s ∈ statements, s.CanWait :=
  planFrom_ok_iff

end Delivery
end Storypath
