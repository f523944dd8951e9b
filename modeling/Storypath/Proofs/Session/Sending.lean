import Storypath.Session.Dispatch

/-! Sending the messages of a plan. All of them are taken and what the last offer among them
offers is kept, or one of them is refused and those before it were taken. -/
namespace Storypath

def lastOffers? (messages : List Scheduled) : Option (List String) :=
  (messages.filterMap fun s => s.message.offers?).getLast?

theorem lastOffers?_cons (s : Scheduled) (rest : List Scheduled) :
    lastOffers? (s :: rest) = (lastOffers? rest).or s.message.offers? := by
  unfold lastOffers?
  cases h : s.message.offers? with
  | none => simp [h]
  | some offers =>
    simp only [List.filterMap_cons, h, List.getLast?_cons]
    cases (rest.filterMap fun s => s.message.offers?).getLast? <;> rfl

theorem lastOffers?_concat {messages : List Scheduled} {t : Scheduled} {offers : List String}
    (offering : t.message.offers? = some offers) :
    lastOffers? (messages ++ [t]) = some offers := by
  simp [lastOffers?, offering]

namespace Session

def TakesAll (client : Client) (user : String) (taken : List Push) (plan : List Scheduled) : Prop :=
  ∀ before s after, plan = before ++ s :: after →
    client.refuse? ((before.map (Push.mk user)).reverse ++ taken) ⟨user, s⟩ = none

structure Refuses (client : Client) (user : String) (taken : List Push)
    (plan before : List Scheduled) (fault : Fault) : Prop where
  takes : TakesAll client user taken before
  refused : ∃ s after, plan = before ++ s :: after ∧
    client.refuse? ((before.map (Push.mk user)).reverse ++ taken) ⟨user, s⟩ = some fault

variable {client : Client} {user : String}

theorem takesAll_cons {taken : List Push} {s : Scheduled} {rest : List Scheduled}
    (first : client.refuse? taken ⟨user, s⟩ = none)
    (takes : TakesAll client user (⟨user, s⟩ :: taken) rest) :
    TakesAll client user taken (s :: rest) := by
  intro before t after split
  rcases before with _ | ⟨b, before⟩
  · obtain ⟨rfl, -⟩ := List.cons.inj split
    exact first
  · obtain ⟨rfl, later⟩ := List.cons.inj split
    simpa using takes before t after later

theorem send_eq (client : Client) (user : String) (taken : List Push) (tappable : List String)
    (plan : List Scheduled) :
    (∃ before fault, Refuses client user taken plan before fault ∧
        send client user taken tappable plan =
          (taken.reverse ++ before.map (Push.mk user), .error fault)) ∨
      TakesAll client user taken plan ∧
        send client user taken tappable plan =
          (taken.reverse ++ plan.map (Push.mk user), .ok ((lastOffers? plan).getD tappable)) := by
  induction plan generalizing taken tappable with
  | nil => exact .inr ⟨fun before s after h => by simp at h, by simp [send, lastOffers?]⟩
  | cons s rest ih =>
    cases h : client.refuse? taken ⟨user, s⟩ with
    | some fault =>
      refine .inl ⟨[], fault, ⟨fun before s after h => by simp at h, s, rest, rfl, h⟩, ?_⟩
      simp [send, h]
    | none =>
      rcases ih (⟨user, s⟩ :: taken) (s.message.offers?.getD tappable) with
        ⟨before, fault, ⟨takes, t, after, split, refused⟩, sent⟩ | ⟨takes, sent⟩
      · refine .inl ⟨s :: before, fault, ⟨takesAll_cons h takes, t, after, by simp [split], ?_⟩,
          ?_⟩
        · simpa using refused
        · simp [send, h, sent]
      · refine .inr ⟨takesAll_cons h takes, ?_⟩
        simp only [send, h, sent, lastOffers?_cons]
        cases lastOffers? rest <;> simp

end Session
end Storypath
