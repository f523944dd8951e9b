import Mathlib
import Storypath.Proofs.Playthrough.CaseText
import Storypath.Proofs.Playthrough.Course
import Storypath.Proofs.Session.StateFile

/-! Recorded playthroughs. A case that is kept with what its playthrough shows passes when it is
played again; kept with anything else it fails, and the failure says where the two differ. -/
namespace Storypath

namespace Playthrough

/-- The first index at which two lists differ, and what stands there in each. -/
structure DiffersFirst (es as : List Observation) (i : Nat) (e a : Observation) : Prop where
  expected : es[i]? = some e
  observed : as[i]? = some a
  ne : e ≠ a
  before : ∀ j < i, es[j]? = as[j]?

theorem DiffersFirst.unique {es as : List Observation} {i i' : Nat} {e e' a a' : Observation}
    (first : DiffersFirst es as i e a) (other : DiffersFirst es as i' e' a') :
    i = i' ∧ e = e' ∧ a = a' := by
  have differ {i : Nat} {e a : Observation} (differs : DiffersFirst es as i e a) :
      es[i]? ≠ as[i]? := by
    simpa [differs.expected, differs.observed] using differs.ne
  have same : i = i' := Nat.le_antisymm
    (Nat.not_lt.mp fun before => differ other (first.before i' before))
    (Nat.not_lt.mp fun before => differ first (other.before i before))
  subst same
  exact ⟨rfl, Option.some.inj (first.expected.symm.trans other.expected),
    Option.some.inj (first.observed.symm.trans other.observed)⟩

variable {expected observed : List Observation}

theorem firstMismatch_self (index : Nat) (observed : List Observation) :
    firstMismatch index observed observed = none := by
  induction observed generalizing index with
  | nil => rfl
  | cons o observed ih => simp [firstMismatch, ih]

theorem firstMismatch_of_ne (index : Nat) (lengths : expected.length = observed.length)
    (ne : expected ≠ observed) :
    ∃ i e a, DiffersFirst expected observed i e a ∧
      firstMismatch index expected observed = some (.eventMismatch (index + i) e a) := by
  induction expected generalizing index observed with
  | nil => exact absurd (List.length_eq_zero_iff.mp lengths.symm).symm ne
  | cons e expected ih =>
    obtain ⟨a, observed, rfl⟩ := List.exists_cons_of_length_eq_add_one lengths.symm
    by_cases same : e = a
    · subst same
      obtain ⟨i, e', a', differs, found⟩ := ih (index + 1) (Nat.succ.inj lengths)
        fun same => ne (congrArg (List.cons e) same)
      refine ⟨i + 1, e', a', ⟨differs.expected, differs.observed, differs.ne, ?_⟩, ?_⟩
      · intro j before
        cases j with
        | zero => rfl
        | succ j => exact differs.before j (Nat.lt_of_succ_lt_succ before)
      · simp [firstMismatch, found, Nat.add_assoc, Nat.add_comm 1]
    · exact ⟨0, e, a, ⟨rfl, rfl, same, fun j before => absurd before j.not_lt_zero⟩,
        by simp [firstMismatch, same]⟩

theorem compare_self (observed : List Observation) : compare observed observed = .ok () := by
  simp [compare, firstMismatch_self]

theorem compare_of_length_ne (lengths : expected.length ≠ observed.length) :
    compare expected observed =
      .error (.eventCountMismatch expected.length observed.length observed) :=
  if_pos lengths.symm

theorem compare_of_ne (lengths : expected.length = observed.length) (ne : expected ≠ observed) :
    ∃ i e a, DiffersFirst expected observed i e a ∧
      compare expected observed = .error (.eventMismatch i e a) := by
  obtain ⟨i, e, a, differs, found⟩ := firstMismatch_of_ne 0 lengths ne
  exact ⟨i, e, a, differs, by simp [compare, lengths, found]⟩

end Playthrough

namespace Disk

variable {d d' : Disk} {folder path text : String} {c : Case} {report : Report}

theorem run_assertCase (d : Disk) (folder path : String) :
    (d.run (Playthrough.assertCase folder path)).1 =
      match (d.run (readText path)).1 with
      | .error failure => .error (.unreadable path failure)
      | .ok text =>
        match Playthrough.caseOfText text with
        | .error fault => .error fault
        | .ok c =>
          match (d.run (Playthrough.runCase folder c)).1 with
          | .error fault => .error fault
          | .ok report => Playthrough.compare c.expectedEvents report.observed := by
  rw [Playthrough.assertCase, run_bind, Playthrough.readCase, run_bind, run_readText_snd]
  cases (d.run (readText path)).1 with
  | error failure => rfl
  | ok text =>
    simp only [run_pure]
    cases Playthrough.caseOfText text with
    | error fault => rfl
    | ok c =>
      simp only [run_bind]
      cases (d.run (Playthrough.runCase folder c)).1 <;> rfl

/-- A case plays as before on a disk on which its script is spared. -/
theorem runCase_of_spares (spares : d.Spares d' (Path.join folder c.script))
    (played : (d.run (Playthrough.runCase folder c)).1 = .ok report) :
    (d'.run (Playthrough.runCase folder c)).1 = .ok report := by
  rw [run_runCase, Player.text_eq] at played ⊢
  cases read : d.read (Path.join folder c.script) with
  | error failure => simp [read, Except.bind] at played
  | ok content => rwa [spares.read read, ← read]

theorem assertCase_of_write (current : c.schemaVersion = Case.schema)
    (played : (d.run (Playthrough.runCase folder c)).1 = .ok report) (written : c.Written text)
    (kept : d.write path text.toUTF8 = .ok d')
    (apart : d.placeOf path ≠ d.placeOf (Path.join folder c.script)) :
    (d'.run (Playthrough.assertCase folder path)).1 =
      Playthrough.compare c.expectedEvents report.observed := by
  have writes := write_ok kept
  have read : (d'.run (readText path)).1 = .ok text := by
    rw [Player.text_eq, writes.read, Except.bind, fromUTF8?_toUTF8]
  have again : (d'.run (Playthrough.runCase folder c)).1 = .ok report :=
    runCase_of_spares (writes.spares _ apart.symm) played
  simp only [run_assertCase, read, written.caseOfText current, again]

end Disk

open Playthrough (DiffersFirst)

/-- Take a case in the current form that plays to its end, and keep it with some list of expected
events in a file that is not its script. If the events are those that it has shown, the file
passes. If there are more or fewer of them it fails with both numbers, and otherwise with the first
index at which the events differ. -/
theorem assertCase_recorded {d d' : Disk} {folder path text : String} {c : Case} {report : Report}
    {expected : List Observation} (current : c.schemaVersion = Case.schema)
    (played : (d.run (Playthrough.runCase folder c)).1 = .ok report)
    (written : ({ c with expectedEvents := expected } : Case).Written text)
    (kept : d.write path text.toUTF8 = .ok d')
    (apart : d.placeOf path ≠ d.placeOf (Path.join folder c.script)) :
    (expected = report.observed → (d'.run (Playthrough.assertCase folder path)).1 = .ok ()) ∧
      (expected.length ≠ report.observed.length →
        (d'.run (Playthrough.assertCase folder path)).1 =
          .error (.eventCountMismatch expected.length report.observed.length report.observed)) ∧
      (expected.length = report.observed.length → expected ≠ report.observed →
        ∃ i e a, DiffersFirst expected report.observed i e a ∧
          (d'.run (Playthrough.assertCase folder path)).1 = .error (.eventMismatch i e a)) := by
  have compared : (d'.run (Playthrough.assertCase folder path)).1 =
      Playthrough.compare expected report.observed :=
    -- A playthrough does not look at what its case expects.
    @Disk.assertCase_of_write d d' folder path text { c with expectedEvents := expected } report
      current played written kept apart
  rw [compared]
  refine ⟨?_, Playthrough.compare_of_length_ne, Playthrough.compare_of_ne⟩
  rintro rfl
  exact Playthrough.compare_self _

def expectingCase (expected : List Observation) : Case :=
  { partingCase with expectedEvents := expected }

theorem exists_write_partingDisk (text : String) :
    ∃ d, partingDisk.write "c" text.toUTF8 = .ok d := by
  have free : partingDisk.block? "c" = none := rfl
  have nothing : partingDisk.standing (partingDisk.placeOf "c") = .nothing := rfl
  rcases partingDisk.write_eq "c" text.toUTF8 with
    ⟨failure, -, block | ⟨-, folder, -⟩⟩ | ⟨d, written, -⟩
  · simp [free] at block
  · simp [nothing] at folder
  · exact ⟨d, written⟩

theorem runCase_partingCase :
    (partingDisk.run (Playthrough.runCase "" partingCase)).1 =
      .ok ⟨[.choices "Go?" [⟨"b", "Yes"⟩], .text "Bye", .ending], 1, 2⟩ := by
  have text : (partingDisk.run (readText "a")).1 = .ok partingStory := by
    rw [Player.text_eq, show partingDisk.read "a" = .ok partingStory.toUTF8 from rfl, Except.bind,
      fromUTF8?_toUTF8]
  rw [Disk.run_runCase, show Path.join "" partingCase.script = "a" from rfl, text]
  cbv

theorem assertCase_recorded_expectingCase :
    (∃ d, partingDisk.write "c" (expectingCase [.choices "Go?" [⟨"b", "Yes"⟩], .text "Bye",
        .ending]).toJson.render.toUTF8 = .ok d ∧
      (d.run (Playthrough.assertCase "" "c")).1 = .ok ()) ∧
    (∃ d, partingDisk.write "c" (expectingCase [.ending]).toJson.render.toUTF8 = .ok d ∧
      (d.run (Playthrough.assertCase "" "c")).1 =
        .error (.eventCountMismatch 1 3 [.choices "Go?" [⟨"b", "Yes"⟩], .text "Bye", .ending])) ∧
    ∃ d, partingDisk.write "c" (expectingCase [.choices "Go?" [⟨"b", "Yes"⟩], .text "Hi",
        .ending]).toJson.renderIndented.toUTF8 = .ok d ∧
      (d.run (Playthrough.assertCase "" "c")).1 =
        .error (.eventMismatch 1 (.text "Hi") (.text "Bye")) := by
  have apart : partingDisk.placeOf "c" ≠
      partingDisk.placeOf (Path.join "" partingCase.script) := by decide
  have played := runCase_partingCase
  refine ⟨?_, ?_, ?_⟩
  · obtain ⟨d, kept⟩ := exists_write_partingDisk
      (expectingCase [.choices "Go?" [⟨"b", "Yes"⟩], .text "Bye", .ending]).toJson.render
    exact ⟨d, kept, (assertCase_recorded rfl played (.inl rfl) kept apart).1 rfl⟩
  · obtain ⟨d, kept⟩ := exists_write_partingDisk (expectingCase [.ending]).toJson.render
    exact ⟨d, kept, (assertCase_recorded rfl played (.inl rfl) kept apart).2.1 (by decide)⟩
  · obtain ⟨d, kept⟩ := exists_write_partingDisk (expectingCase
      [.choices "Go?" [⟨"b", "Yes"⟩], .text "Hi", .ending]).toJson.renderIndented
    obtain ⟨i, e, a, differs, failed⟩ :=
      (assertCase_recorded rfl played (.inr rfl) kept apart).2.2 rfl (by decide)
    have second : DiffersFirst [.choices "Go?" [⟨"b", "Yes"⟩], .text "Hi", .ending]
        [.choices "Go?" [⟨"b", "Yes"⟩], .text "Bye", .ending] 1 (.text "Hi") (.text "Bye") :=
      ⟨rfl, rfl, by decide, by simp⟩
    obtain ⟨rfl, rfl, rfl⟩ := second.unique differs
    exact ⟨d, kept, failed⟩

end Storypath
