import Storypath.Proofs.CommandLine.Report

/-! Outputs that come to their end. Once an output has taken all that it takes, the fault that this
is cannot be told any more, so that what is written is the front of the whole answer. Main
statement: a run with a limited output differs from one without a limit in nothing but where the
answer ends, and in the exit code if that is before its end. -/
namespace Storypath

open HoldsDisk (disk)
open RunReport (textOfLines textOfLines_cons)

theorem extract_of_size_le {bytes : ByteArray} {n : Nat} (fits : bytes.size ≤ n) :
    bytes.extract 0 n = bytes :=
  ByteArray.ext (ByteArray.data_extract.trans (Array.extract_eq_self_of_le fits))

namespace Outlet

/-- Lines that are written to an output with limited room end where the room ends. -/
theorem writeLines_limited (room : Nat) (written : ByteArray) (lines : List String) :
    (⟨some room, written⟩ : Outlet).writeLines lines =
      (⟨some (room - (textOfLines lines).toUTF8.size),
          written ++ (textOfLines lines).toUTF8.extract 0 room⟩,
        decide ((textOfLines lines).toUTF8.size ≤ room)) := by
  induction lines generalizing room written with
  | nil =>
    have nothing : ByteArray.empty.extract 0 room = ByteArray.empty :=
      extract_of_size_le (Nat.zero_le _)
    simp [writeLines, textOfLines, nothing]
  | cons line lines ih =>
    have split : (textOfLines (line :: lines)).toUTF8 =
        (line ++ "\n").toUTF8 ++ (textOfLines lines).toUTF8 := by
      rw [textOfLines_cons]
      simp
    rw [split, writeLines, writeLine, ByteArray.size_append, ByteArray.extract_append]
    generalize (line ++ "\n").toUTF8 = bytes
    generalize (textOfLines lines).toUTF8 = later at ih ⊢
    by_cases fits : bytes.size ≤ room
    · have both : later.size ≤ room - bytes.size ↔ bytes.size + later.size ≤ room := by omega
      simp only [fits, decide_true, ih, both, Nat.sub_sub, Nat.zero_sub, ByteArray.append_assoc,
        extract_of_size_le fits]
    · have beyond : ¬ bytes.size + later.size ≤ room := by omega
      have full : room - bytes.size = 0 := by omega
      have full' : room - (bytes.size + later.size) = 0 := by omega
      simp [fits, beyond, full, full']

theorem writeLines_full (written : ByteArray) (lines : List String) :
    ((⟨some 0, written⟩ : Outlet).writeLines lines).1 = ⟨some 0, written⟩ := by
  simp [writeLines_limited]

end Outlet

namespace Answer

theorem emit_limited (a : Answer) (n : Nat) :
    a.emit (.limited n) =
      (⟨some (n - (textOfLines a.lines).toUTF8.size), (textOfLines a.lines).toUTF8.extract 0 n⟩,
        if (textOfLines a.lines).toUTF8.size ≤ n then a.exitCode else 1) := by
  rw [emit, Outlet.limited, Outlet.writeLines_limited]
  generalize (textOfLines a.lines).toUTF8 = bytes
  by_cases fits : bytes.size ≤ n
  · simp only [fits, decide_true, if_true, ByteArray.empty_append]
  · have full : n - bytes.size = 0 := by omega
    simp only [fits, decide_false, if_false, full, Outlet.writeLines_full, ByteArray.empty_append]
    rfl

/-- An answer tells of a fault, or none of its lines begins as if it did. -/
def Clear (a : Answer) : Prop :=
  (∃ fault, a = ofFault fault) ∨ a.lines.head? = some "RESULT:OK" ∧ a.exitCode = 0 ∧
    ∀ line ∈ a.lines, ¬ "RESULT:ERROR".toList <+: line.toList

theorem clear_of_lines {lines : List String}
    (each : ∀ line ∈ lines, ∃ name rest, line = name ++ rest ∧
      name ∈ ["EVENT:", "STATEMENT_JSON:", "PUSH:", "TAPPABLE:", "REASON:"]) :
    Clear ⟨"RESULT:OK" :: lines, 0⟩ := by
  refine .inr ⟨rfl, rfl, List.forall_mem_cons.mpr ⟨by decide +kernel, fun line mem => ?_⟩⟩
  obtain ⟨name, rest, rfl, named⟩ := each line mem
  rw [String.toList_append]
  simp only [List.mem_cons, List.not_mem_nil, or_false] at named
  rcases named with rfl | rfl | rfl | rfl | rfl <;> simp

end Answer

section

variable {σ : Type} [Files (StateM σ)]

/-- The answer to a command tells of a fault or of success, and never of both. -/
theorem Command.run_clear (command : Command) (s : σ) :
    ((command.run : StateM σ Answer).run s).1.Clear := by
  cases command with
  | resolve path target options =>
    rcases ran : (resolveFile path target options : StateM σ _).run s with ⟨result, s'⟩
    rw [Command.run, StateT.run_bind, ran]
    cases result with
    | error fault => exact .inl ⟨fault, rfl⟩
    | ok statements =>
      refine Answer.clear_of_lines (List.forall_mem_cons.mpr
        ⟨⟨"EVENT:", "RESOLVED", by decide +kernel, by simp⟩, fun line mem => ?_⟩)
      obtain ⟨statement, -, rfl⟩ := List.mem_map.mp mem
      exact ⟨"STATEMENT_JSON:", _, statement.line_eq, by simp⟩
  | agent player user event =>
    rcases ran : (Session.dispatch player .accepting user event : StateM σ _).run s with
      ⟨⟨pushed, result⟩, s'⟩
    rw [Command.run, StateT.run_bind, ran]
    rcases result with fault | (⟨count, tappable⟩ | reason)
    · exact .inl ⟨fault, rfl⟩
    · refine Answer.clear_of_lines (List.forall_mem_cons.mpr
        ⟨⟨"EVENT:", "DELIVERED", by decide +kernel, by simp⟩,
          List.forall_mem_append.mpr ⟨fun line mem => ?_, fun line mem => ?_⟩⟩)
      · obtain ⟨push, -, rfl⟩ := List.mem_map.mp mem
        exact ⟨"PUSH:", _, push.scheduled.line_eq, by simp⟩
      · obtain ⟨label, -, rfl⟩ := List.mem_map.mp mem
        exact ⟨"TAPPABLE:", label, rfl, by simp⟩
    · refine Answer.clear_of_lines (List.forall_mem_cons.mpr
        ⟨⟨"EVENT:", "IGNORED", by decide +kernel, by simp⟩, List.forall_mem_cons.mpr
          ⟨⟨"REASON:", reason.text, rfl, by simp⟩, by simp⟩⟩)

theorem Command.run_lines [HoldsDisk σ] {command : Command} {s : σ}
    (written : ∀ path ∈ command.statePath?, ∀ content, (disk s).read path = .ok content →
      Written content) :
    ∀ line ∈ ((command.run : StateM σ Answer).run s).1.lines, OneLine line := by
  have told : ∃ report answer s', (command.run : StateM σ Answer).run s = (answer, s') ∧
      report.ToldBy answer ∧ command.Tells s s' report := by
    cases command with
    | resolve path target options => exact told_resolve path target options s
    | agent player user event =>
      exact told_agent player user event fun state =>
        Player.plain_of_stateOf fun content read => (written _ rfl content read).plain
  obtain ⟨report, answer, s', ran, told, -⟩ := told
  rw [ran]
  exact told.lines

/-- An output that takes `n` bytes and no more gets the first `n` bytes of what an output without a
limit gets from the same run, and both runs end with the same files. The exit code tells whether
something is lacking. What is written is the front of one answer, and an answer that tells of success
has no line that tells of a fault: the loss itself is not told. -/
theorem CommandLine.run_limited [HoldsDisk σ] {env : Environment} {args : List String}
    {command : Command} (given : read env args = .ok command) (s : σ) (n : Nat) :
    ∃ lines code s',
      (run env args .unlimited : StateM σ (Outlet × Nat)).run s =
        ((⟨none, (textOfLines lines).toUTF8⟩, code), s') ∧
      (run env args (.limited n) : StateM σ (Outlet × Nat)).run s =
        ((⟨some (n - (textOfLines lines).toUTF8.size), (textOfLines lines).toUTF8.extract 0 n⟩,
          if (textOfLines lines).toUTF8.size ≤ n then code else 1), s') ∧
      (lines.head? = some "RESULT:OK" →
        ∀ line ∈ lines, ¬ "RESULT:ERROR".toList <+: line.toList) ∧
      ((∀ path ∈ command.statePath?, ∀ content, (disk s).read path = .ok content →
        Written content) → ∀ line ∈ lines, OneLine line) := by
  have clear := command.run_clear s
  have each := @Command.run_lines σ _ _ command s
  rcases ran : (command.run : StateM σ Answer).run s with ⟨answer, s'⟩
  rw [ran] at clear each
  refine ⟨answer.lines, answer.exitCode, s', ?_, ?_, fun success => ?_, each⟩
  · rw [run_eq given, Answer.emit_unlimited, ran]
  · rw [run_eq given, Answer.emit_limited, ran]
  · rcases clear with ⟨fault, rfl⟩ | ⟨-, -, free⟩
    · simp [Answer.ofFault] at success
    · exact free

end

def questionText : String :=
  textOfLines (Attempt.answer ⟨[question], .ok (.delivered 1 ["b"])⟩).lines

theorem CommandLine.run_limited_askingDisk :
    read [] askingArguments = .ok (.agent askingPlayer "u" .follow) ∧
      (run [] askingArguments (.limited 30) : StateM Disk (Outlet × Nat)).run askingDisk =
        ((⟨some 0, "RESULT:OK\nEVENT:DELIVERED\nPUSH".toUTF8⟩, 1), askedDisk) := by
  obtain ⟨lines, code, d', full, cut, -⟩ := run_limited read_askingArguments askingDisk 30
  rw [run_askingArguments, Answer.emit_unlimited] at full
  obtain ⟨told, rfl⟩ := Prod.mk.inj full
  have bytes : questionText.toUTF8 = (textOfLines lines).toUTF8 :=
    congrArg (fun told => told.1.written) told
  have front : questionText.toUTF8.extract 0 30 =
      "RESULT:OK\nEVENT:DELIVERED\nPUSH".toUTF8 := by decide +kernel
  have long : 30 < questionText.toUTF8.size := by decide +kernel
  rw [cut, ← bytes, front, Nat.sub_eq_zero_of_le long.le, if_neg long.not_ge]
  exact ⟨read_askingArguments, rfl⟩

end Storypath
