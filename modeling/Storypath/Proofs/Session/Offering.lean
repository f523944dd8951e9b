import Storypath.Proofs.Delivery.Planning
import Storypath.Proofs.Script.Hops
import Storypath.Proofs.Session.Ledger

/-! What is offered to a reader, and what is kept of it. A segment that is resolved strictly offers
choices at its end only, so nothing comes after them that could be refused. Main statement: in
strict reading whatever has been offered can be tapped, unless the state could not be kept. -/
namespace Storypath

open HoldsDisk (disk faulty)

theorem kind_ne_of_strict {source : String} {target : Target} {options : ScriptOptions}
    {statements : List Statement} (strict : options.strict = true)
    (resolved : resolveTarget source target options = .ok statements) :
    ∀ s ∈ statements.dropLast, s.kind ≠ .choicePrompt :=
  kind_ne_of_stops resolved (.inl strict)

theorem mem_dropLast_of_filterMap {α β : Type} {f : α → Option β} {b : β} {as : List α}
    (h : b ∈ (as.filterMap f).dropLast) : ∃ a ∈ as.dropLast, f a = some b := by
  rcases as.eq_nil_or_concat with rfl | ⟨before, last, rfl⟩
  · simp at h
  · rw [List.concat_eq_append, List.dropLast_concat]
    rw [List.concat_eq_append, List.filterMap_append] at h
    cases shown : f last with
    | none =>
      have h : b ∈ (before.filterMap f).dropLast := by simpa [shown] using h
      exact List.mem_filterMap.mp (List.dropLast_subset _ h)
    | some c =>
      have h : b ∈ before.filterMap f := by simpa [shown] using h
      exact List.mem_filterMap.mp h

/-- Where only the last statement is a choice, only the last message offers something. -/
theorem offers_of_mem_dropLast {statements : List Statement} {plan : List Scheduled}
    (last : ∀ s ∈ statements.dropLast, s.kind ≠ .choicePrompt)
    (planned : Delivery.plan statements = .ok plan) {t : Scheduled} (h : t ∈ plan.dropLast) :
    t.message.offers? = none := by
  have h : t.message ∈ (statements.filterMap Statement.message?).dropLast := by
    rw [← Delivery.map_message_plan planned, ← List.map_dropLast]
    exact List.mem_map_of_mem h
  obtain ⟨s, mem, shown⟩ := mem_dropLast_of_filterMap h
  cases s with
  | text text =>
    rw [← show Message.text text = t.message from Option.some.inj shown]
    rfl
  | choice prompt branches => exact absurd rfl (last _ mem)
  | pause literal => simp [Statement.message?, Statement.effect] at shown

theorem eq_append_of_offers {plan : List Scheduled} {t : Scheduled} {offers : List String}
    (last : ∀ t ∈ plan.dropLast, t.message.offers? = none) (h : t ∈ plan)
    (offering : t.message.offers? = some offers) : plan = plan.dropLast ++ [t] := by
  have split := List.dropLast_concat_getLast (List.ne_nil_of_mem h)
  rw [← split] at h
  rcases List.mem_append.mp h with early | ended
  · simp [last t early] at offering
  · rw [List.mem_singleton.mp ended, split]

theorem Found.schema {faults : Prop} {player : Player} {user : String} {d : Disk}
    {state : ReaderState} (found : Found faults player user d state) :
    state.schemaVersion = ReaderState.schema := by
  rcases found with found | ⟨-, rfl⟩
  · exact Player.schema_of_stateOf found
  · rfl

section

variable {player : Player} {client : Client} {state : ReaderState} {statements : List Statement}
  {d d' : Disk} {attempt : Attempt} {push : Push} {offers : List String}

theorem Delivering.offered_last
    (delivering : Delivering player client state statements d attempt d')
    (current : state.schemaVersion = ReaderState.schema)
    (last : ∀ s ∈ statements.dropLast, s.kind ≠ .choicePrompt)
    (sent : push ∈ attempt.pushed) (offering : push.scheduled.message.offers? = some offers) :
    ∃ before, Delivery.plan statements = .ok (before ++ [push.scheduled]) ∧
      (∀ t ∈ before, t.message.offers? = none) ∧
      attempt.pushed = (before ++ [push.scheduled]).map (Push.mk push.user) ∧
      Session.TakesAll client push.user [] (before ++ [push.scheduled]) ∧
      ∀ n reported, attempt.result = .ok (.delivered n reported) → reported = offers ∧
        player.stateOf d' push.user = .ok ⟨ReaderState.schema, push.user, offers⟩ := by
  cases delivering with
  | unplanned planned => simp at sent
  | @refused plan before fault planned refuses =>
    obtain ⟨s, after, rfl, -⟩ := refuses.refused
    obtain ⟨t, taken, rfl⟩ := List.mem_map.mp sent
    have early : t ∈ (before ++ s :: after).dropLast := by
      rw [List.dropLast_append_of_ne_nil (List.cons_ne_nil s after)]
      exact List.mem_append_left _ taken
    simp [offers_of_mem_dropLast last planned early] at offering
  | @sent plan answer _ planned takes keeping =>
    obtain ⟨t, mem, rfl⟩ := List.mem_map.mp sent
    have last (t : Scheduled) := @offers_of_mem_dropLast statements plan last planned t
    have split : plan = plan.dropLast ++ [t] := eq_append_of_offers last mem offering
    have kept : (lastOffers? plan).getD state.tappable = offers := by
      rw [split, lastOffers?_concat offering]
      rfl
    refine ⟨plan.dropLast, split ▸ planned, last, by rw [← split], split ▸ takes, ?_⟩
    intro n reported result
    rw [kept] at keeping result
    obtain ⟨-, ⟨fault, rfl, -⟩ | ⟨rfl, valid, read, -⟩⟩ := Player.spares_of_keeping keeping
    · simp [Except.map] at result
    · obtain ⟨-, rfl⟩ := Outcome.delivered.inj (Except.ok.inj result)
      refine ⟨rfl, ?_⟩
      rw [← current]
      exact Player.stateOf_of_read valid current read

end

/-- With strict reading, buttons that have been sent are the last message of the plan and its only
buttons, and no message of the plan was refused. If the attempt delivers, the choices that it
reports and keeps are those of the buttons, in their order. -/
theorem dispatch_offered_last {σ : Type} [Files (StateM σ)] [HoldsDisk σ] {player : Player}
    {client : Client} {user : String} {event : ReaderEvent} {s s' : σ} {attempt : Attempt}
    (strict : player.options.strict = true)
    (dispatched : (Session.dispatch player client user event : StateM σ Attempt).run s =
      (attempt, s'))
    {push : Push} {altText prompt : String} {actions : List Button} (sent : push ∈ attempt.pushed)
    (buttons : push.scheduled.message = .buttons altText prompt actions) :
    ∃ target statements before, event.target? player = some target ∧
      player.segment (disk s) target = .ok statements ∧
      Delivery.plan statements = .ok (before ++ [push.scheduled]) ∧
      (∀ t ∈ before, t.message.offers? = none) ∧
      attempt.pushed = (before ++ [push.scheduled]).map (Push.mk push.user) ∧
      Session.TakesAll client push.user [] (before ++ [push.scheduled]) ∧
      ∀ n reported, attempt.result = .ok (.delivered n reported) →
        reported = actions.map Button.data ∧ player.stateOf (disk s') push.user =
          .ok ⟨ReaderState.schema, push.user, actions.map Button.data⟩ := by
  have happened := happened_of_dispatched dispatched
  generalize disk s = d, disk s' = d' at happened ⊢
  cases happened with
  | ignored reason => simp at sent
  | unread unread => simp at sent
  | @answered target statements state _ _ asked segment found tapped delivering =>
    have last : ∀ s ∈ statements.dropLast, s.kind ≠ .choicePrompt := by
      obtain ⟨source, resolved⟩ := Player.resolved_of_segment segment
      exact kind_ne_of_strict strict resolved
    have offering : push.scheduled.message.offers? = some (actions.map Button.data) := by
      rw [buttons]
      rfl
    obtain ⟨before, planned, rest⟩ := delivering.offered_last found.schema last sent offering
    exact ⟨target, statements, before, asked, segment, planned, rest⟩

def strictAskingPlayer : Player := { askingPlayer with options := { strict := true } }

theorem offered_last_askingDisk :
    strictAskingPlayer.options.strict = true ∧
      askingDisk.run (Session.dispatch strictAskingPlayer .accepting "u" .follow) =
        (⟨[question], .ok (.delivered 1 ["b"])⟩, askedDisk) ∧
      strictAskingPlayer.stateOf askedDisk "u" = .ok ⟨ReaderState.schema, "u", ["b"]⟩ := by
  have segment : strictAskingPlayer.segment askingDisk (.ofLabel "*a") =
      .ok [.choice "Go?" [⟨"b", "Yes"⟩]] := by cbv
  have state : strictAskingPlayer.stateOf askingDisk "u" = .ok (.empty "u") := rfl
  have dispatched : askingDisk.run (Session.dispatch strictAskingPlayer .accepting "u" .follow) =
      (⟨[question], .ok (.delivered 1 ["b"])⟩, askedDisk) := by
    rw [Session.dispatch, Disk.run_start, show strictAskingPlayer.startLabel = "*a" from rfl,
      segment, state]
    rfl
  obtain ⟨-, -, -, -, -, -, -, -, -, kept⟩ := dispatch_offered_last rfl dispatched
    (List.mem_singleton_self question) rfl
  exact ⟨rfl, dispatched, (kept 1 ["b"] rfl).2⟩

end Storypath
