import Storypath.Proofs.CommandLine.Labels
import Storypath.Proofs.CommandLine.Payload

/-! Answers as texts. An answer is written a line at a time, and whatever a script, a reader or a
file name puts into it stays within its line, and within its field. Main statement: what a run had
to tell is read back from its output by splitting it into lines. -/
namespace Storypath

open Json (Value)
open HoldsDisk (disk faulty)

/-- What a run has to tell. A message is told with the whole milliseconds until it is due. -/
inductive RunReport where
  | resolved (statements : List Statement)
  | delivered (messages : List (Nat × Message)) (tappable : List String)
  | ignored (reason : String)
  | failed (code message : String)

namespace RunReport

def exitCode : RunReport → Nat
  | .failed .. => 1
  | .resolved _ | .delivered .. | .ignored _ => 0

def lines? (text : String) : Option (List String) :=
  match (text.toList.splitOn '\n').reverse with
  | [] :: before => some (before.reverse.map String.ofList)
  | _ => none

def after? (name line : String) : Option String := textAfter? name.toList line.toList

def cut? (sign : Char) (text : String) : Option (String × String) :=
  match text.toList.dropWhile (· != sign) with
  | [] => none
  | _ :: rest => some (String.ofList (text.toList.takeWhile (· != sign)), String.ofList rest)

def statement? (line : String) : Option Statement :=
  (after? "STATEMENT_JSON:" line).bind fun json => (Value.parse? json).bind Statement.ofJson?

def isTag : String → Message → Bool
  | "TEXT_JSON", .text _ | "BUTTONS_JSON", .buttons .. => true
  | _, _ => false

def message? (line : String) : Option (Nat × Message) := do
  let (time, tagged) ← (after? "PUSH:" line).bind (cut? '|')
  let (tag, json) ← cut? ':' tagged
  let message ← (Value.parse? json).bind Message.ofJson?
  let milliseconds ← time.toNat?
  if time.toList.all Char.isDigit && isTag tag message then some (milliseconds, message) else none

def delivered? (lines : List String) : Option RunReport := do
  let pushes (line : String) : Bool := (after? "PUSH:" line).isSome
  let messages ← (lines.takeWhile pushes).mapM message?
  let tappable ← (lines.dropWhile pushes).mapM (after? "TAPPABLE:")
  return .delivered messages tappable

def ofLines? : List String → Option RunReport
  | "RESULT:OK" :: "EVENT:RESOLVED" :: lines => (lines.mapM statement?).map .resolved
  | "RESULT:OK" :: "EVENT:DELIVERED" :: lines => delivered? lines
  | ["RESULT:OK", "EVENT:IGNORED", line] => (after? "REASON:" line).map .ignored
  | ["RESULT:ERROR", first, second] => do
    let code ← after? "ERROR_CODE:" first
    let message ← ((after? "ERROR_MSG_JSON:" second).bind Value.parse?).bind Value.text?
    return .failed code message
  | _ => none

def ofText? (text : String) : Option RunReport := (lines? text).bind ofLines?

def textOfLines (lines : List String) : String := String.join (lines.map (· ++ "\n"))

theorem textOfLines_cons (line : String) (lines : List String) :
    textOfLines (line :: lines) = line ++ "\n" ++ textOfLines lines := by
  simp [textOfLines, String.join_cons]

theorem splitOn_textOfLines {lines : List String} (each : ∀ line ∈ lines, OneLine line) :
    (textOfLines lines).toList.splitOn '\n' = lines.map String.toList ++ [[]] := by
  induction lines with
  | nil => rfl
  | cons line lines ih =>
    obtain ⟨first, later⟩ := List.forall_mem_cons.mp each
    have split : (textOfLines (line :: lines)).toList =
        line.toList ++ '\n' :: (textOfLines lines).toList := by
      simp [textOfLines_cons]
    rw [split, List.splitOn_append_cons_self_of_not_mem first, ih later]
    rfl

/-- Lines without line feeds of their own are told apart again. -/
theorem lines?_textOfLines {lines : List String} (each : ∀ line ∈ lines, OneLine line) :
    lines? (textOfLines lines) = some lines := by
  simp [lines?, splitOn_textOfLines each, Function.comp_def]

example : lines? (textOfLines ["a\nb"]) = some ["a", "b"] := by decide +kernel

theorem after?_append (name rest : String) : after? name (name ++ rest) = some rest := by
  simp [after?, textAfter?]

theorem cut?_append {sign : Char} {front between : String} (apart : sign ∉ front.toList)
    (alone : between.toList = [sign]) (rest : String) :
    cut? sign (front ++ (between ++ rest)) = some (front, rest) := by
  have before : ∀ c ∈ front.toList, (c != sign) = true := fun c mem => by
    have other : c ≠ sign := fun same => apart (same ▸ mem)
    simpa using other
  have split : (front ++ (between ++ rest)).toList = front.toList ++ sign :: rest.toList := by
    simp [alone]
  rw [cut?, split, List.dropWhile_append_of_pos before, List.takeWhile_append_of_pos before]
  simp

end RunReport

theorem OneLine.append {front rest : String} (first : OneLine front) (second : OneLine rest) :
    OneLine (front ++ rest) := by
  rw [OneLine, String.toList_append, List.mem_append, not_or]
  exact ⟨first, second⟩

theorem oneLine_render {v : Value} (closed : v.Closed) : OneLine v.render :=
  Json.lineFeed_notMem_render closed

namespace Statement

theorem line_eq (s : Statement) : s.line = "STATEMENT_JSON:" ++ s.toJson.render := rfl

theorem oneLine_line (s : Statement) : OneLine s.line :=
  .append (by decide +kernel) (oneLine_render s.closed_toJson)

theorem statement?_line (s : Statement) : RunReport.statement? s.line = some s := by
  rw [RunReport.statement?, line_eq, RunReport.after?_append, Option.bind_some,
    Json.parse?_render s.closed_toJson, Option.bind_some, ofJson?_toJson]

end Statement

theorem isDigit_of_mem_repr {n : Nat} {c : Char} (mem : c ∈ n.repr.toList) : c.isDigit = true := by
  rw [Nat.repr_eq_ofList_toDigits, String.toList_ofList] at mem
  exact Nat.isDigit_of_mem_toDigits (by decide) (by decide) mem

theorem Message.tag_eq (m : Message) : m.tag = "TEXT_JSON" ∨ m.tag = "BUTTONS_JSON" := by
  cases m
  · exact .inl rfl
  · exact .inr rfl

namespace Scheduled

theorem line_eq (s : Scheduled) :
    s.line = "PUSH:" ++ (s.milliseconds.repr ++ ("|" ++ (s.message.tag ++ (":" ++
      s.message.toJson.render)))) := by
  simp [line, String.append_assoc, toString]

theorem oneLine_line (s : Scheduled) : OneLine s.line := by
  have number : OneLine s.milliseconds.repr := fun mem => by
    simpa using isDigit_of_mem_repr mem
  have tag : OneLine s.message.tag := by
    rcases s.message.tag_eq with tag | tag <;> rw [tag] <;> decide +kernel
  rw [line_eq]
  exact .append (by decide +kernel) (.append number (.append (by decide +kernel)
    (.append tag (.append (by decide +kernel) (oneLine_render s.message.closed_toJson)))))

theorem message?_line (s : Scheduled) :
    RunReport.message? s.line = some (s.milliseconds, s.message) := by
  have number : '|' ∉ s.milliseconds.repr.toList := fun mem => by
    simpa using isDigit_of_mem_repr mem
  have digits : s.milliseconds.repr.toList.all Char.isDigit = true :=
    List.all_eq_true.mpr fun c mem => isDigit_of_mem_repr mem
  have colon : ':' ∉ s.message.tag.toList := by
    rcases s.message.tag_eq with tag | tag <;> rw [tag] <;> decide +kernel
  have tag : RunReport.isTag s.message.tag s.message = true := by cases s.message <;> rfl
  have bar : "|".toList = ['|'] := rfl
  have mark : ":".toList = [':'] := rfl
  -- The first bar stands after the digits, and the first colon after that is behind the tag.
  rw [RunReport.message?, line_eq, RunReport.after?_append]
  simp only [Option.bind_eq_bind, Option.bind_some, RunReport.cut?_append number bar,
    RunReport.cut?_append colon mark, Json.parse?_render s.message.closed_toJson,
    Message.ofJson?_toJson, Nat.toNat?_repr, digits, tag, Bool.and_self, if_true]

end Scheduled

namespace RunReport

theorem mapM_map {α β : Type} {read? : String → Option β} {write : α → String} {value : α → β}
    (back : ∀ a, read? (write a) = some (value a)) (items : List α) :
    (items.map write).mapM read? = some (items.map value) := by
  induction items with
  | nil => rfl
  | cons a items ih => simp [List.mapM_cons, back a, ih]

def labelLine (label : String) : String := "TAPPABLE:" ++ label

theorem oneLine_labelLine {label : String} (line : OneLine label) : OneLine (labelLine label) :=
  .append (by decide +kernel) line

theorem after?_labelLine (label : String) : after? "PUSH:" (labelLine label) = none := by
  simp [after?, textAfter?, labelLine]

theorem delivered?_lines (plan : List Scheduled) (tappable : List String) :
    delivered? (plan.map Scheduled.line ++ tappable.map labelLine) =
      some (.delivered (plan.map fun s => (s.milliseconds, s.message)) tappable) := by
  let pushes (line : String) : Bool := (after? "PUSH:" line).isSome
  have messages : ∀ line ∈ plan.map Scheduled.line, pushes line = true := by
    intro line mem
    obtain ⟨s, -, rfl⟩ := List.mem_map.mp mem
    simp [pushes, Scheduled.line_eq, after?_append]
  have front : (plan.map Scheduled.line ++ tappable.map labelLine).takeWhile pushes =
      plan.map Scheduled.line := by
    rw [List.takeWhile_append_of_pos messages]
    cases tappable <;> simp [pushes, after?_labelLine]
  have rest : (plan.map Scheduled.line ++ tappable.map labelLine).dropWhile pushes =
      tappable.map labelLine := by
    rw [List.dropWhile_append_of_pos messages]
    cases tappable <;> simp [pushes, after?_labelLine]
  have back (label : String) : after? "TAPPABLE:" (labelLine label) = some (id label) :=
    after?_append "TAPPABLE:" label
  rw [delivered?, front, rest, mapM_map Scheduled.message?_line, mapM_map back, List.map_id]
  rfl

/-- An answer whose lines are read back as a report. -/
structure ToldBy (report : RunReport) (answer : Answer) : Prop where
  lines : ∀ line ∈ answer.lines, OneLine line
  read : ofLines? answer.lines = some report
  exitCode : answer.exitCode = report.exitCode

theorem toldBy_resolved (statements : List Statement) :
    (resolved statements).ToldBy
      ⟨"RESULT:OK" :: "EVENT:RESOLVED" :: statements.map Statement.line, 0⟩ where
  lines := by
    have each : ∀ line ∈ statements.map Statement.line, OneLine line := by
      simpa using fun s _ => s.oneLine_line
    exact List.forall_mem_cons.mpr ⟨by decide +kernel,
      List.forall_mem_cons.mpr ⟨by decide +kernel, each⟩⟩
  read := by
    have back (s : Statement) : statement? s.line = some (id s) := s.statement?_line
    rw [ofLines?, mapM_map back, List.map_id]
    rfl
  exitCode := rfl

theorem toldBy_delivered (plan : List Scheduled) {tappable : List String}
    (each : ∀ label ∈ tappable, OneLine label) :
    (delivered (plan.map fun s => (s.milliseconds, s.message)) tappable).ToldBy
      ⟨"RESULT:OK" :: "EVENT:DELIVERED" :: (plan.map Scheduled.line ++ tappable.map labelLine),
        0⟩ where
  lines := by
    have messages : ∀ line ∈ plan.map Scheduled.line, OneLine line := by
      simpa using fun s _ => s.oneLine_line
    have labels : ∀ line ∈ tappable.map labelLine, OneLine line := by
      simpa using fun label mem => oneLine_labelLine (each label mem)
    exact List.forall_mem_cons.mpr ⟨by decide +kernel, List.forall_mem_cons.mpr
      ⟨by decide +kernel, List.forall_mem_append.mpr ⟨messages, labels⟩⟩⟩
  read := delivered?_lines plan tappable
  exitCode := rfl

theorem toldBy_ignored (reason : IgnoreReason) :
    (ignored reason.text).ToldBy
      ⟨["RESULT:OK", "EVENT:IGNORED", s!"REASON:{reason.text}"], 0⟩ where
  lines := by
    cases reason <;> decide +kernel
  read := by
    cases reason <;> rfl
  exitCode := rfl

theorem toldBy_failed {fault : Fault} (code : OneLine fault.code) :
    (failed fault.code fault.message).ToldBy (Answer.ofFault fault) where
  lines := by
    have first : OneLine ("ERROR_CODE:" ++ fault.code) := .append (by decide +kernel) code
    have second : OneLine ("ERROR_MSG_JSON:" ++ (Value.ofString fault.message).render) :=
      .append (by decide +kernel) (oneLine_render (Value.closed_ofString _))
    have all : ∀ line ∈ ["RESULT:ERROR", "ERROR_CODE:" ++ fault.code,
        "ERROR_MSG_JSON:" ++ (Value.ofString fault.message).render], OneLine line := by
      simp only [List.forall_mem_cons]
      exact ⟨by decide +kernel, first, second, by simp⟩
    exact all
  read := by
    have told : (Answer.ofFault fault).lines = ["RESULT:ERROR", "ERROR_CODE:" ++ fault.code,
        "ERROR_MSG_JSON:" ++ (Value.ofString fault.message).render] := rfl
    rw [told, ofLines?]
    simp [after?_append, Json.parse?_render (Value.closed_ofString _)]
  exitCode := rfl

end RunReport

theorem Answer.emit_unlimited (a : Answer) :
    a.emit .unlimited = (⟨none, (RunReport.textOfLines a.lines).toUTF8⟩, a.exitCode) := by
  have wrote (lines : List String) (written : ByteArray) :
      (⟨none, written⟩ : Outlet).writeLines lines =
        (⟨none, written ++ (RunReport.textOfLines lines).toUTF8⟩, true) := by
    induction lines generalizing written with
    | nil => simp [Outlet.writeLines, RunReport.textOfLines]
    | cons line lines ih =>
      rw [Outlet.writeLines, Outlet.writeLine]
      simp only [ih, RunReport.textOfLines_cons]
      simp [ByteArray.append_assoc]
  rw [emit, Outlet.unlimited, wrote]
  simp

/-- A fault that no client gave for its refusal; its code is one of a few. -/
def Fault.Own : Fault → Prop
  | .refused .. => False
  | _ => True

theorem Fault.Own.oneLine_code {fault : Fault} (own : fault.Own) : OneLine fault.code := by
  cases fault with
  | script fault => cases fault <;> (simp only [code, ScriptFault.code]; decide +kernel)
  | source path failure => cases failure <;> (simp only [code]; decide +kernel)
  | refused => exact own.elim
  | _ => simp only [code, DurationFault.code]; decide +kernel

theorem ReaderState.own_of_ofText {text : String} {fault : Fault}
    (fails : ofText text = .error fault) : fault.Own := by
  rw [ofText] at fails
  split at fails
  · obtain rfl := Except.error.inj fails
    trivial
  · split at fails
    · simp at fails
    · obtain rfl := Except.error.inj fails
      trivial

namespace Player

variable {player : Player} {d : Disk} {user : String} {fault : Fault}

theorem own_of_segment {target : Target} (fails : player.segment d target = .error fault) :
    fault.Own := by
  rw [segment_eq] at fails
  split at fails
  · obtain rfl := Except.error.inj fails
    trivial
  · next source _ =>
    cases resolved : resolveTarget source target player.options with
    | ok statements =>
      rw [resolved] at fails
      cases fails
    | error fault' =>
      rw [resolved] at fails
      cases fails
      trivial

theorem own_of_stateOf (fails : player.stateOf d user = .error fault) : fault.Own := by
  cases valid : ReaderState.isUserId user with
  | false =>
    obtain rfl := Except.error.inj ((stateOf_of_not_isUserId valid).symm.trans fails)
    trivial
  | true =>
    rw [stateOf_eq valid] at fails
    split at fails
    · split at fails
      · obtain rfl := Except.error.inj fails
        trivial
      · exact ReaderState.own_of_ofText fails
    · simp at fails

end Player

theorem Delivering.own {player : Player} {state : ReaderState} {statements : List Statement}
    {d d' : Disk} {attempt : Attempt} {fault : Fault}
    (delivering : Delivering player .accepting state statements d attempt d')
    (fails : attempt.result = .error fault) : fault.Own := by
  cases delivering with
  | unplanned planned =>
    obtain rfl := Except.error.inj fails
    trivial
  | refused planned refuses =>
    obtain ⟨s, after, -, refused⟩ := refuses.refused
    simp [Client.accepting] at refused
  | sent planned takes keeping =>
    cases keeping with
    | rejected | refused =>
      obtain rfl := Except.error.inj fails
      trivial
    | done => simp [Except.map] at fails

theorem Happened.own {faults : Prop} {player : Player} {user : String} {event : ReaderEvent}
    {d d' : Disk} {attempt : Attempt} {fault : Fault}
    (happened : Happened faults player .accepting user event d attempt d')
    (fails : attempt.result = .error fault) : fault.Own := by
  cases happened with
  | ignored reason => simp at fails
  | unread unread =>
    obtain rfl := Except.error.inj fails
    cases unread with
    | script | file => trivial
    | segment asked segment => exact Player.own_of_segment segment
    | state state => exact Player.own_of_stateOf state
  | answered asked segment found tapped delivering => exact delivering.own fails

section

variable {faults : Prop} {player : Player} {client : Client} {user : String} {event : ReaderEvent}
  {state : ReaderState} {statements : List Statement} {d d' : Disk} {attempt : Attempt}

theorem Happened.pushed_of_ignored
    (happened : Happened faults player client user event d attempt d') {reason : IgnoreReason}
    (result : attempt.result = .ok (.ignored reason)) : attempt.pushed = [] := by
  cases happened with
  | ignored => rfl
  | unread unread => rfl
  | answered _ _ _ _ delivering => exact absurd result (delivering.not_ignored reason)

theorem Delivering.delivered (delivering : Delivering player client state statements d attempt d')
    (current : state.schemaVersion = ReaderState.schema) {n : Nat} {tappable : List String}
    (result : attempt.result = .ok (.delivered n tappable)) :
    ∃ plan, Delivery.plan statements = .ok plan ∧
      attempt.pushed = plan.map (Push.mk state.userId) ∧ n = plan.length ∧
      player.stateOf d' state.userId = .ok ⟨ReaderState.schema, state.userId, tappable⟩ := by
  cases delivering with
  | unplanned | refused => simp at result
  | @sent plan answer _ planned takes keeping =>
    obtain ⟨-, ⟨fault, rfl, -⟩ | ⟨rfl, valid, kept, -⟩⟩ := Player.spares_of_keeping keeping
    · simp [Except.map] at result
    · obtain ⟨rfl, rfl⟩ := Outcome.delivered.inj (Except.ok.inj result)
      refine ⟨plan, planned, rfl, rfl, ?_⟩
      rw [← current]
      exact Player.stateOf_of_read valid current kept

theorem Happened.delivered (happened : Happened faults player client user event d attempt d')
    {n : Nat} {tappable : List String} (result : attempt.result = .ok (.delivered n tappable)) :
    ∃ target statements plan addressee, event.target? player = some target ∧
      player.segment d target = .ok statements ∧ Delivery.plan statements = .ok plan ∧
      attempt.pushed = plan.map (Push.mk addressee) ∧ n = plan.length ∧
      player.stateOf d' addressee = .ok ⟨ReaderState.schema, addressee, tappable⟩ := by
  cases happened with
  | ignored reason => simp at result
  | unread unread => simp at result
  | @answered target statements state _ _ asked segment found tapped delivering =>
    obtain ⟨plan, rest⟩ := delivering.delivered found.schema result
    exact ⟨target, statements, plan, state.userId, asked, segment, rest⟩

end

/-- What a command comes to, and what has to be told of it. -/
inductive Command.Tells {σ : Type} [Files (StateM σ)] [HoldsDisk σ] (s s' : σ) :
    Command → RunReport → Prop
  | resolved {path : String} {target : Target} {options : ScriptOptions}
    {statements : List Statement}
    (ran : (resolveFile path target options : StateM σ _).run s = (.ok statements, s')) :
    Tells s s' (.resolve path target options) (.resolved statements)
  | unresolved {path : String} {target : Target} {options : ScriptOptions} {fault : Fault}
    (ran : (resolveFile path target options : StateM σ _).run s = (.error fault, s')) :
    Tells s s' (.resolve path target options) (.failed fault.code fault.message)
  | delivered {player : Player} {user addressee : String} {event : ReaderEvent} {target : Target}
    {statements : List Statement} {plan : List Scheduled} {tappable : List String}
    (ran : (Session.dispatch player .accepting user event : StateM σ Attempt).run s =
      (⟨plan.map (Push.mk addressee), .ok (.delivered plan.length tappable)⟩, s'))
    (asked : event.target? player = some target)
    (segment : player.segment (disk s) target = .ok statements)
    (planned : Delivery.plan statements = .ok plan)
    (stored : player.stateOf (disk s') addressee =
      .ok ⟨ReaderState.schema, addressee, tappable⟩) :
    Tells s s' (.agent player user event)
      (.delivered (plan.map fun m => (m.milliseconds, m.message)) tappable)
  | ignored {player : Player} {user : String} {event : ReaderEvent} {reason : IgnoreReason}
    (ran : (Session.dispatch player .accepting user event : StateM σ Attempt).run s =
      (⟨[], .ok (.ignored reason)⟩, s')) :
    Tells s s' (.agent player user event) (.ignored reason.text)
  | failed {player : Player} {user : String} {event : ReaderEvent} {pushed : List Push}
    {fault : Fault}
    (ran : (Session.dispatch player .accepting user event : StateM σ Attempt).run s =
      (⟨pushed, .error fault⟩, s')) :
    Tells s s' (.agent player user event) (.failed fault.code fault.message)

namespace Command

variable {σ : Type} [Files (StateM σ)] [HoldsDisk σ]

theorem told_resolve (path : String) (target : Target) (options : ScriptOptions) (s : σ) :
    ∃ report answer s', (run (.resolve path target options) : StateM σ Answer).run s =
        (answer, s') ∧
      report.ToldBy answer ∧ Tells s s' (.resolve path target options) report := by
  have read := reads_script path target options s
  rcases ran : (resolveFile path target options : StateM σ _).run s with ⟨answer, s'⟩
  rw [Reads, Ends, ran] at read
  cases answer with
  | ok statements =>
    refine ⟨_, _, s', ?_, RunReport.toldBy_resolved statements, .resolved ran⟩
    rw [run, StateT.run_bind, ran]
    rfl
  | error fault =>
    have own : fault.Own := by
      obtain ⟨-, same | ⟨-, failure, same⟩⟩ := read
      · have fails : Player.segment ⟨path, "", "", "", options⟩ (disk s) target = .error fault :=
          congrArg Prod.fst same
        exact Player.own_of_segment fails
      · obtain rfl := Except.error.inj same
        trivial
    refine ⟨_, _, s', ?_, RunReport.toldBy_failed own.oneLine_code, .unresolved ran⟩
    rw [run, StateT.run_bind, ran]
    rfl

theorem told_agent (player : Player) (user : String) (event : ReaderEvent) {s : σ}
    (plain : ∀ state, player.stateOf (disk s) user = .ok state → state.Plain) :
    ∃ report answer s', (run (.agent player user event) : StateM σ Answer).run s = (answer, s') ∧
      report.ToldBy answer ∧ Tells s s' (.agent player user event) report := by
  rcases ran : (Session.dispatch player .accepting user event : StateM σ Attempt).run s with
    ⟨⟨pushed, result⟩, s'⟩
  have happened := happened_of_dispatched ran
  have answered : (run (.agent player user event) : StateM σ Answer).run s =
      (Attempt.answer ⟨pushed, result⟩, s') := by
    rw [run, StateT.run_bind, ran]
    rfl
  cases result with
  | error fault =>
    exact ⟨_, _, s', answered, RunReport.toldBy_failed (happened.own rfl).oneLine_code, .failed ran⟩
  | ok outcome =>
    cases outcome with
    | ignored reason =>
      obtain rfl : pushed = [] := happened.pushed_of_ignored rfl
      exact ⟨_, _, s', answered, RunReport.toldBy_ignored reason, .ignored ran⟩
    | delivered n tappable =>
      have labels := (happened.plain plain).1 n tappable rfl
      obtain ⟨target, statements, plan, addressee, asked, segment, planned, sent, rfl, stored⟩ :=
        happened.delivered rfl
      obtain rfl : pushed = plan.map (Push.mk addressee) := sent
      have lines : Attempt.answer ⟨plan.map (Push.mk addressee), .ok (.delivered plan.length
          tappable)⟩ = ⟨"RESULT:OK" :: "EVENT:DELIVERED" :: (plan.map Scheduled.line ++
            tappable.map RunReport.labelLine), 0⟩ := by
        simp only [Attempt.answer, Attempt.lines, List.map_map]
        rfl
      refine ⟨_, _, s', answered, ?_, .delivered ran asked segment planned stored⟩
      rw [lines]
      exact RunReport.toldBy_delivered plan labels

end Command

end Storypath
