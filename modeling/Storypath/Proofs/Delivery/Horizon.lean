import Storypath.CommandLine.Arguments
import Storypath.Proofs.Delivery.Literal
import Storypath.Proofs.Delivery.Timing
import Storypath.Proofs.Script.Counting
import Storypath.Proofs.Session.Dispatching

/-! The longest time that there is, and how far plans stay below it. A statement takes no longer
than the longest pause, and so as many of them as a script may have come to less than that time.
Main statement: planning never adds up times beyond it. -/
namespace Storypath

open HoldsDisk (disk)

theorem typingDelay_le_maximum (count : Nat) : typingDelay count ≤ Duration.maximum := by
  have most : typingMilliseconds count ≤ 4000 := by
    unfold typingMilliseconds
    repeat' split
    all_goals decide
  exact Nat.le_trans (Nat.mul_le_mul_right 1000000 most) (by decide)

namespace Delivery

/-- The nanoseconds of the longest time: the seconds are a number of 64 bits, and there is less
than one second more. -/
def horizon : Nat := 2 ^ 64 * 10 ^ 9 - 1

def sum? (time time' : Nat) : Option Nat :=
  if time + time' ≤ horizon then some (time + time') else none

/-- Plans statements as `planFrom` does; nothing if times are added up for which there is no sum. -/
def planWithin (offset : Nat) (before : Array Scheduled) :
    List Statement → Option (Except DurationFault (List Scheduled))
  | [] => some (.ok before.toList)
  | s :: rest =>
    match s.effect with
    | .inl literal =>
      match Duration.parse literal with
      | .ok pause => (sum? offset pause).bind fun offset => planWithin offset before rest
      | .error fault => some (.error fault)
    | .inr message =>
      (sum? (typingDelay s.displayText.length) offset).bind fun due =>
        planWithin due (before.push ⟨due, message⟩) rest

def Fits (offset : Nat) (statements : List Statement) : Prop :=
  ∀ front, front <+: statements → (∀ s ∈ front, s.CanWait) → offset + elapsed front ≤ horizon

variable {statements rest : List Statement} {offset : Nat} {before : Array Scheduled}

theorem fits_cons {s : Statement} (readable : s.CanWait) :
    Fits offset (s :: rest) ↔ Fits (offset + elapsed [s]) rest := by
  constructor
  · intro fits front here readable'
    have whole := fits (s :: front) (List.cons_prefix_cons.mpr ⟨rfl, here⟩)
      (List.forall_mem_cons.mpr ⟨readable, readable'⟩)
    rwa [elapsed_cons, ← Nat.add_assoc] at whole
  · intro fits front here readable'
    cases front with
    | nil => exact Nat.le_trans (by simp [elapsed]) (fits [] List.nil_prefix (by simp))
    | cons t front =>
      obtain ⟨rfl, there⟩ := List.cons_prefix_cons.mp here
      have later := fits front there (List.forall_mem_cons.mp readable').2
      rwa [elapsed_cons, ← Nat.add_assoc]

theorem eq_add_of_sum? {time time' due : Nat} (made : sum? time time' = some due) :
    due = time + time' := by
  unfold sum? at made
  split at made
  · exact (Option.some.inj made).symm
  · cases made

theorem isSome_sum?_bind {α : Type} {time time' : Nat} {next : Nat → Option α}
    (more : time + time' ≤ horizon →
      ((next (time + time')).isSome = true ↔ Fits (time + time') rest)) :
    ((sum? time time').bind next).isSome = true ↔ Fits (time + time') rest := by
  unfold sum?
  by_cases room : time + time' ≤ horizon
  · rw [if_pos room, Option.bind_some]
    exact more room
  · rw [if_neg room]
    exact iff_of_false (by simp) fun fits => room (fits [] List.nil_prefix (by simp))

theorem planWithin_isSome_iff (within : offset ≤ horizon) :
    (planWithin offset before statements).isSome = true ↔ Fits offset statements := by
  induction statements generalizing offset before with
  | nil =>
    refine iff_of_true rfl fun front here _ => ?_
    obtain rfl := List.prefix_nil.mp here
    exact within
  | cons s rest ih =>
    cases shown : s.effect with
    | inl literal =>
      obtain rfl := Statement.eq_pause_of_effect shown
      cases read : Duration.parse literal with
      | error fault =>
        simp only [planWithin, shown, read]
        refine iff_of_true rfl fun front here readable => ?_
        -- Planning ends at a pause that cannot be read, and adds nothing up.
        cases front with
        | nil => exact within
        | cons t front =>
          obtain ⟨rfl, -⟩ := List.cons_prefix_cons.mp here
          obtain ⟨pause, read'⟩ := (List.forall_mem_cons.mp readable).1 literal rfl
          simp [read] at read'
      | ok pause =>
        have readable : (Statement.pause literal).CanWait := fun literal' same => by
          obtain rfl := Statement.pause.inj same
          exact ⟨pause, read⟩
        rw [fits_cons readable, elapsed_pause read]
        simp only [planWithin, shown, read]
        exact isSome_sum?_bind ih
    | inr message =>
      have readable : s.CanWait := fun literal same => by simp [same, Statement.effect] at shown
      rw [fits_cons readable, elapsed_message shown, Statement.typing_of_effect shown, Nat.add_comm]
      simp only [planWithin, shown]
      exact isSome_sum?_bind ih

theorem eq_planFrom_of_planWithin {result : Except DurationFault (List Scheduled)}
    (planned : planWithin offset before statements = some result) :
    planFrom offset before statements = result := by
  induction statements generalizing offset before with
  | nil => exact Option.some.inj planned
  | cons s rest ih =>
    cases shown : s.effect with
    | inl literal =>
      cases read : Duration.parse literal with
      | error fault => simpa [planWithin, planFrom, shown, read] using planned
      | ok pause =>
        simp only [planWithin, shown, read] at planned
        obtain ⟨due, made, planned⟩ := Option.bind_eq_some_iff.mp planned
        obtain rfl := eq_add_of_sum? made
        simpa only [planFrom, shown, read] using ih planned
    | inr message =>
      simp only [planWithin, shown] at planned
      obtain ⟨due, made, planned⟩ := Option.bind_eq_some_iff.mp planned
      obtain rfl := eq_add_of_sum? made
      simpa only [planFrom, shown] using ih planned

theorem delay_le_elapsed_single {s : Statement} {plan : List Scheduled}
    (planned : Delivery.plan [s] = .ok plan) : ∀ m ∈ plan, m.delay ≤ elapsed [s] := by
  cases shown : s.effect with
  | inl literal =>
    obtain rfl := Statement.eq_pause_of_effect shown
    rw [plan_pause] at planned
    cases read : Duration.parse literal with
    | error fault => simp [read, Except.map] at planned
    | ok pause =>
      rw [read] at planned
      obtain rfl := Except.ok.inj planned
      simp
  | inr message =>
    obtain rfl := Except.ok.inj ((plan_message shown).symm.trans planned)
    simp [elapsed_message shown]

theorem delay_le_elapsed {plan : List Scheduled} (planned : Delivery.plan statements = .ok plan) :
    ∀ m ∈ plan, m.delay ≤ elapsed statements := by
  induction statements generalizing plan with
  | nil =>
    obtain rfl := Except.ok.inj planned
    simp
  | cons s rest ih =>
    rw [plan_cons] at planned
    cases alone : Delivery.plan [s] with
    | error fault => simp [followed, alone, Except.bind] at planned
    | ok first =>
      cases later : Delivery.plan rest with
      | error fault => simp [followed, alone, later, Except.bind, Except.map] at planned
      | ok second =>
        rw [alone, later] at planned
        obtain rfl := Except.ok.inj planned
        rw [elapsed_cons s rest]
        intro m mem
        rcases List.mem_append.mp mem with here | there
        · exact Nat.le_add_right_of_le (delay_le_elapsed_single alone m here)
        · obtain ⟨m', here, rfl⟩ := List.mem_map.mp there
          have due := ih later m' here
          simp only [Scheduled.later]
          omega

theorem elapsed_le (statements : List Statement) :
    elapsed statements ≤ statements.length * Duration.maximum := by
  induction statements with
  | nil => exact Nat.le_refl 0
  | cons s rest ih =>
    have first : elapsed [s] ≤ Duration.maximum := by
      cases shown : s.effect with
      | inl literal =>
        obtain rfl := Statement.eq_pause_of_effect shown
        cases read : Duration.parse literal with
        | ok pause =>
          rw [elapsed_pause read]
          exact Duration.parse_le_maximum read
        | error fault =>
          simp [elapsed, Statement.typing, Statement.pausing, read, Except.toOption]
      | inr message =>
        rw [elapsed_message shown, Statement.typing_of_effect shown]
        exact typingDelay_le_maximum _
    rw [elapsed_cons s rest, List.length_cons, Nat.succ_mul]
    omega

/-- Statements whose planning never adds up times beyond the longest time. -/
structure InRange (statements : List Statement) : Prop where
  sums : planWithin 0 #[] statements = some (plan statements)
  offsets : ∀ before, before <+: statements → elapsed before ≤ horizon
  delays : ∀ plan, Delivery.plan statements = .ok plan → ∀ m ∈ plan, m.delay ≤ horizon

theorem inRange_of_length (few : statements.length ≤ 10 ^ 9) : InRange statements := by
  have room : statements.length * Duration.maximum ≤ horizon :=
    Nat.le_trans (Nat.mul_le_mul_right _ few) (by decide)
  have offsets : ∀ front, front <+: statements → elapsed front ≤ horizon := fun front here => by
    have shorter : front.length * Duration.maximum ≤ statements.length * Duration.maximum :=
      Nat.mul_le_mul_right _ here.length_le
    exact Nat.le_trans (elapsed_le front) (Nat.le_trans shorter room)
  have fits : Fits 0 statements := fun front here _ => by
    rw [Nat.zero_add]
    exact offsets front here
  obtain ⟨result, planned⟩ := Option.isSome_iff_exists.mp
    ((planWithin_isSome_iff (Nat.zero_le horizon)).mpr fits)
  refine ⟨?_, offsets, fun plan made m mem => ?_⟩
  · rw [planned, plan, eq_planFrom_of_planWithin planned]
  · exact Nat.le_trans (delay_le_elapsed made m mem) (offsets statements List.prefix_rfl)

end Delivery

namespace CommandLine

theorem exists_of_bind {α β : Type} {first : Except Usage α} {next : α → Except Usage β} {b : β}
    (read : first >>= next = .ok b) : ∃ a, first = .ok a ∧ next a = .ok b := by
  cases first with
  | error usage => cases read
  | ok a => exact ⟨a, rfl, read⟩

theorem maxTokens_of_playerOf {env : Environment} {given : Given} {player : Player}
    (read : playerOf env given = .ok player) : player.options.maxTokens = 1000000 := by
  obtain ⟨path, -, made⟩ := exists_of_bind read
  cases made
  rfl

variable {env : Environment} {args : List String} {player : Player} {user : String}
  {event : ReaderEvent}

theorem maxTokens_of_readEvent {own : List String} {make : Given → Except Usage ReaderEvent}
    (read : readEvent env own make args = .ok (.agent player user event)) :
    player.options.maxTokens = 1000000 := by
  obtain ⟨given, -, read⟩ := exists_of_bind read
  obtain ⟨player', made, read⟩ := exists_of_bind read
  obtain ⟨user', -, read⟩ := exists_of_bind read
  obtain ⟨event', -, read⟩ := exists_of_bind read
  cases read
  exact maxTokens_of_playerOf made

theorem maxTokens_of_read
    (read : CommandLine.read env args = .ok (.agent player user event)) :
    player.options.maxTokens = 1000000 := by
  unfold CommandLine.read at read
  split at read
  · cases read
  · obtain ⟨given, -, read⟩ := exists_of_bind read
    obtain ⟨path, -, read⟩ := exists_of_bind read
    obtain ⟨label, -, read⟩ := exists_of_bind read
    cases read
  · unfold readAgent at read
    split at read
    · cases read
    · exact maxTokens_of_readEvent read
    · exact maxTokens_of_readEvent read
    · exact maxTokens_of_readEvent read
    · cases read
    · cases read
  · cases read
  · cases read

end CommandLine

namespace Delivery

theorem delay_le_of_delivering {player : Player} {client : Client} {state : ReaderState}
    {statements : List Statement} {d d' : Disk} {attempt : Attempt}
    (delivering : Delivering player client state statements d attempt d')
    (inRange : InRange statements) :
    ∀ push ∈ attempt.pushed, push.scheduled.delay ≤ horizon := by
  cases delivering with
  | unplanned => simp
  | @refused plan before fault planned refuses =>
    obtain ⟨s, after, rfl, -⟩ := refuses.refused
    intro push mem
    obtain ⟨m, taken, rfl⟩ := List.mem_map.mp mem
    exact inRange.delays _ planned m (List.mem_append_left _ taken)
  | @sent plan answer d' planned takes keeping =>
    intro push mem
    obtain ⟨m, taken, rfl⟩ := List.mem_map.mp mem
    exact inRange.delays plan planned m taken

theorem inRange_of_resolved {source : String} {target : Target} {options : ScriptOptions}
    (limit : options.maxTokens ≤ 10 ^ 9)
    (resolved : resolveTarget source target options = .ok statements) : InRange statements :=
  inRange_of_length (Nat.le_trans (length_resolveTarget_le resolved) limit)

end Delivery

/-- Planning a thousand million statements, or fewer, never adds up times beyond the longest time.
So it is with the segments of any script within a limit of a million tokens, with those that are
asked for on the command line, and with all messages that are pushed from there. -/
theorem planning_in_range :
    (∀ statements : List Statement, statements.length ≤ 10 ^ 9 → Delivery.InRange statements) ∧
    (∀ source target options statements, options.maxTokens ≤ 10 ^ 6 →
      resolveTarget source target options = .ok statements → Delivery.InRange statements) ∧
    ∀ env args player user event,
      CommandLine.read env args = .ok (.agent player user event) →
      ∀ (σ : Type) [Files (StateM σ)] [HoldsDisk σ] (s : σ) (client : Client),
        (∀ target statements, player.segment (disk s) target = .ok statements →
          Delivery.InRange statements) ∧
        ∀ attempt s',
          (Session.dispatch player client user event : StateM σ Attempt).run s = (attempt, s') →
          ∀ push ∈ attempt.pushed, push.scheduled.delay ≤ Delivery.horizon := by
  refine ⟨fun _ few => Delivery.inRange_of_length few, fun _ _ _ _ limit resolved =>
    Delivery.inRange_of_resolved (by omega) resolved, ?_⟩
  intro env args player user event given σ _ _ s client
  have limit : player.options.maxTokens ≤ 10 ^ 9 := by
    rw [CommandLine.maxTokens_of_read given]
    decide
  have segments : ∀ target statements, player.segment (disk s) target = .ok statements →
      Delivery.InRange statements := fun target statements segment => by
    obtain ⟨source, resolved⟩ := Player.resolved_of_segment segment
    exact Delivery.inRange_of_resolved limit resolved
  refine ⟨segments, fun attempt s' dispatched => ?_⟩
  have happened := happened_of_dispatched dispatched
  generalize disk s' = d' at happened
  cases happened with
  | ignored | unread => simp
  | answered asked segment found tapped delivering =>
    exact Delivery.delay_le_of_delivering delivering (segments _ _ segment)

end Storypath
