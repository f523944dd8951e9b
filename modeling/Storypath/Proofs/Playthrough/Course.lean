import Storypath.Playthrough.Run
import Storypath.Proofs.Disk.Requests

/-! The course of a playthrough: the segments that its actions lead to, one after the other, and
whether nothing is left to choose once all have been taken. Main statement: a playthrough succeeds
just if its course completes, and it shows the segments of its course. -/
namespace Storypath

namespace Playthrough

variable (source : String) (options : ScriptOptions)

def next? (statements : List Statement) (a : Action) : Option (List Statement) :=
  if a.target ∈ offered statements then (resolveReference source a.target options).toOption
  else none

def visited (statements : List Statement) : List Action → List (List Statement)
  | [] => [statements]
  | a :: actions =>
    statements :: match next? source options statements a with
      | some next => visited next actions
      | none => []

def Completes (statements : List Statement) : List Action → Prop
  | [] => offered statements = []
  | a :: actions => ∃ next, next? source options statements a = some next ∧ Completes next actions

variable {source options}

theorem visited_eq_cons (statements : List Statement) (actions : List Action) :
    visited source options statements actions =
      statements :: (visited source options statements actions).tail := by
  cases actions <;> rfl

theorem visited_cons {statements next : List Statement} {a : Action} {actions : List Action}
    (leads : next? source options statements a = some next) :
    visited source options statements (a :: actions) =
      statements :: visited source options next actions := by
  simp [visited, leads]

theorem completes_cons {statements next : List Statement} {a : Action} {actions : List Action}
    (leads : next? source options statements a = some next) :
    Completes source options statements (a :: actions) ↔
      Completes source options next actions := by
  simp [Completes, leads]

theorem next?_eq_some_iff {statements next : List Statement} {a : Action} :
    next? source options statements a = some next ↔
      a.target ∈ offered statements ∧ resolveReference source a.target options = .ok next := by
  unfold next?
  by_cases mem : a.target ∈ offered statements
  · cases resolved : resolveReference source a.target options with
    | ok result => simp [mem, Except.toOption]
    | error fault => simp [mem, Except.toOption]
  · simp [mem]

/-- A playthrough with segments to spare succeeds just if its course completes. It has shown the
segments of the course then, and has taken all actions. -/
theorem playFrom_eq_ok_iff {left : Nat} {seen : Array Observation} {taken : Nat}
    {actions : List Action} {statements : List Statement} {report : Report}
    (room : actions.length < left) :
    playFrom source options left seen taken actions statements = .ok report ↔
      Completes source options statements actions ∧
        report = ⟨seen.toList ++
            (visited source options statements actions).flatten.map Observation.ofStatement ++
              [.ending], taken + actions.length, taken + actions.length + 1⟩ := by
  induction actions generalizing left seen taken statements with
  | nil =>
    obtain ⟨left, rfl⟩ := Nat.exists_eq_add_one.mpr room
    by_cases none : offered statements = []
    · simp [playFrom, Completes, visited, none, eq_comm]
    · simp [playFrom, Completes, none]
  | cons a actions ih =>
    obtain ⟨left, rfl⟩ := Nat.exists_eq_add_one.mpr (Nat.zero_lt_of_lt room)
    rw [List.length_cons, Nat.add_lt_add_iff_right] at room
    by_cases mem : a.target ∈ offered statements
    · have some_ : offered statements ≠ [] := List.ne_nil_of_mem mem
      cases resolved : resolveReference source a.target options with
      | error fault =>
        have stuck : next? source options statements a = none := by
          simp [next?, resolved, Except.toOption]
        simp [playFrom, Completes, some_, mem, resolved, stuck]
      | ok next =>
        have leads : next? source options statements a = some next :=
          next?_eq_some_iff.mpr ⟨mem, resolved⟩
        have go : playFrom source options (left + 1) seen taken (a :: actions) statements =
            playFrom source options left
              (seen.appendList (statements.map Observation.ofStatement)) (taken + 1) actions
              next := by
          simp [playFrom, some_, mem, resolved]
        rw [go, ih room]
        simp [completes_cons leads, visited_cons leads, Nat.add_assoc, Nat.add_comm 1]
    · have stuck : next? source options statements a = none := by
        simp [next?, mem]
      by_cases none : offered statements = []
      · simp [playFrom, Completes, stuck, none]
      · simp [playFrom, Completes, stuck, none, mem]

theorem play_eq_ok_iff {c : Case} {report : Report} (room : c.actions.length < maxSteps) :
    play source c = .ok report ↔
      ∃ first, resolve source c.startLabel (scriptOptions c) = .ok first ∧
        Completes source (scriptOptions c) first c.actions ∧
        report = ⟨(visited source (scriptOptions c) first c.actions).flatten.map
            Observation.ofStatement ++ [.ending], c.actions.length, c.actions.length + 1⟩ := by
  unfold play
  cases resolve source c.startLabel (scriptOptions c) with
  | error fault => simp
  | ok first => simp [playFrom_eq_ok_iff room]

end Playthrough

theorem Disk.run_runCase (d : Disk) (folder : String) (c : Case) :
    (d.run (Playthrough.runCase folder c)).1 =
      match (d.run (readText (Path.join folder c.script))).1 with
      | .error failure => .error (.resolve (.source (Path.join folder c.script) failure))
      | .ok source => Playthrough.play source c := by
  rw [Playthrough.runCase, run_bind, loadScript, run_bind]
  cases (d.run (readText (Path.join folder c.script))).1 <;> rfl

def partingStory : String := "*a\n@buttons\nGo?\n- [b] Yes\n@end\n*b\nBye\n@end\n"

def partingDisk : Disk := ⟨[], .folder [("a", .file partingStory.toUTF8)]⟩

def partingCase : Case := ⟨Case.schema, "a", "*a", false, [⟨"b"⟩], []⟩

end Storypath
