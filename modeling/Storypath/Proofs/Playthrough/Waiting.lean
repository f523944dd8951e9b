import Mathlib
import Storypath.Proofs.Playthrough.Obstacle
import Storypath.Proofs.Script.Hops

/-! The choice that is waiting when a playthrough lacks its next action. What is offered is the last
choice of the last segment, and no later event is a choice; but the event that the failure names is
the last one of all. Main statement: the two are the same where the segment ends with its choice, as
it does wherever resolving stopped at the end of what it collected. -/
namespace Storypath

/-- A choice is waiting at a number: the event there offers these targets, and no later event is a
choice. -/
structure WaitsAt (events : List Observation) (i : Nat) (targets : List String) : Prop where
  offers : ∃ prompt entries, events[i]? = some (.choices prompt entries) ∧
    entries.map ChoiceEntry.target = targets
  latest : ∀ j > i, ∀ prompt entries, events[j]? ≠ some (.choices prompt entries)

theorem waitsAt_append {front back : List Observation} {prompt : String}
    {entries : List ChoiceEntry}
    (none : ∀ prompt entries, Observation.choices prompt entries ∉ back) :
    WaitsAt (front ++ .choices prompt entries :: back) front.length
      (entries.map ChoiceEntry.target) where
  offers := ⟨prompt, entries, by simp, rfl⟩
  latest j later prompt' entries' at_ := by
    obtain ⟨k, rfl⟩ := Nat.exists_eq_add_of_lt later
    rw [List.getElem?_append_right (by omega),
      show front.length + k + 1 - front.length = k + 1 by omega, List.getElem?_cons_succ] at at_
    exact none prompt' entries' (List.mem_of_getElem? at_)

namespace Statement

theorem kind_eq_choicePrompt_iff {s : Statement} :
    s.kind = .choicePrompt ↔ ∃ prompt branches, s = .choice prompt branches := by
  cases s <;> simp [kind]

theorem eq_choice_of_image {s : Statement} {prompt : String} {entries : List ChoiceEntry}
    (seen : s.image = .choices prompt entries) : ∃ branches, s = .choice prompt branches := by
  cases s with
  | choice prompt' branches =>
    obtain ⟨rfl, -⟩ := Observation.choices.inj seen
    exact ⟨branches, rfl⟩
  | text t | pause duration => simp [image] at seen

theorem choices_notMem {statements : List Statement}
    (none : ∀ prompt branches, .choice prompt branches ∉ statements) (prompt : String)
    (entries : List ChoiceEntry) :
    Observation.choices prompt entries ∉ statements.map image := by
  intro mem
  obtain ⟨s, mem, seen⟩ := List.mem_map.mp mem
  obtain ⟨branches, rfl⟩ := eq_choice_of_image seen
  exact none prompt branches mem

theorem map_target_entries (branches : List Branch) :
    (branches.map fun b => (⟨b.targetLabel, b.buttonText⟩ : ChoiceEntry)).map ChoiceEntry.target =
      branches.map Branch.targetLabel := by
  simp [Function.comp_def]

end Statement

open Statement (image)

namespace Playthrough

variable {source : String} {c : Case} {i : Nat} {statements : List Statement}

theorem exists_last_choice (waits : offered statements ≠ []) :
    ∃ before prompt branches after, statements = before ++ .choice prompt branches :: after ∧
      (∀ prompt branches, .choice prompt branches ∉ after) ∧
      offered statements = branches.map Branch.targetLabel := by
  have offers := offers_offered statements
  generalize offered statements = targets at offers waits ⊢
  cases offers with
  | last latest => exact ⟨_, _, _, _, rfl, latest, rfl⟩
  | nothing none => exact absurd rfl waits

theorem exists_waitsAt (before : List Observation) (waits : offered statements ≠ []) :
    ∃ j, WaitsAt (before ++ statements.map image) j (offered statements) := by
  obtain ⟨early, prompt, branches, late, rfl, none, offers⟩ := exists_last_choice waits
  have waiting := @waitsAt_append (before ++ early.map image) _ prompt
    (branches.map fun b => ⟨b.targetLabel, b.buttonText⟩) (Statement.choices_notMem none)
  rw [Statement.map_target_entries, ← offers] at waiting
  exact ⟨_, by simpa [image] using waiting⟩

theorem waitsAt_last_iff (before : List Observation) (waits : offered statements ≠ []) :
    WaitsAt (before ++ statements.map image)
        ((before ++ statements.map image).length - 1) (offered statements) ↔
      ∃ s ∈ statements.getLast?, s.kind = .choicePrompt := by
  have some_ : statements ≠ [] := by
    rintro rfl
    exact waits rfl
  obtain ⟨early, last, rfl⟩ := List.eq_nil_or_concat statements |>.resolve_left some_
  have size : (before ++ (early ++ [last]).map image).length - 1 =
      (before ++ early.map image).length := by
    simp
  have split : before ++ (early ++ [last]).map image =
      (before ++ early.map image) ++ [image last] := by
    simp
  rw [List.concat_eq_append, size, split]
  constructor
  · rintro ⟨⟨prompt, entries, shown, -⟩, -⟩
    rw [List.getElem?_concat_length, Option.some.injEq] at shown
    obtain ⟨branches, rfl⟩ := Statement.eq_choice_of_image shown
    exact ⟨.choice prompt branches, by simp, rfl⟩
  · rintro ⟨s, mem, choice⟩
    obtain rfl : last = s := by simpa using mem
    obtain ⟨prompt, branches, rfl⟩ := Statement.kind_eq_choicePrompt_iff.mp choice
    have waiting := @waitsAt_append (before ++ early.map image) [] prompt
      (branches.map fun b => ⟨b.targetLabel, b.buttonText⟩) (by simp)
    rw [Statement.map_target_entries, ← offered_concat_choice early prompt] at waiting
    exact waiting

def targets (c : Case) : List Target :=
  .ofLabel c.startLabel :: c.actions.map fun a => .ofReference a.target

theorem segments_eq_map (source : String) (c : Case) :
    segments source c = (targets c).map fun t => resolveTarget source t (scriptOptions c) := by
  simp [segments, targets, resolve, resolveReference, scriptOptions, Function.comp_def]

/-- Resolving a segment stops at the end of what it collects: its end, a choice block, or the end of
a script in which its last target was met. -/
def Collects (source : String) (c : Case) (i : Nat) : Prop :=
  c.strict = true ∨ ∃ target, (targets c)[i]? = some target ∧
    ((Reading.start source target).last source (scriptOptions c)).walk.collecting = true

theorem Collects.ends_with_choice (collects : Collects source c i)
    (segment : (segments source c)[i]? = some (.ok statements)) (waits : offered statements ≠ []) :
    ∃ s ∈ statements.getLast?, s.kind = .choicePrompt := by
  rw [segments_eq_map, List.getElem?_map] at segment
  obtain ⟨target, aimed, resolved⟩ := Option.map_eq_some_iff.mp segment
  have stops : (scriptOptions c).strict = true ∨
      ((Reading.start source target).last source (scriptOptions c)).walk.collecting = true := by
    rcases collects with strict | ⟨target', aimed', busy⟩
    · exact .inl strict
    · obtain rfl := Option.some.inj (aimed.symm.trans aimed')
      exact .inr busy
  have early := kind_ne_of_stops resolved stops
  obtain ⟨before, prompt, branches, after, rfl, -, -⟩ := exists_last_choice waits
  cases after with
  | nil => exact ⟨.choice prompt branches, by simp, rfl⟩
  | cons s after =>
    refine absurd rfl (early (.choice prompt branches) ?_)
    rw [List.dropLast_append_of_ne_nil (List.cons_ne_nil _ _)]
    simp

end Playthrough

/-- The number of the event at which a failure says that a choice is waiting. -/
def CaseFault.waiting? : CaseFault → Option Nat
  | .missingAction event | .choiceNotOffered event _ _ => some event
  | _ => none

open Playthrough (segments shown Reaches Collects Obstacle lastEvent offered)

theorem Playthrough.Obstacle.waits {source : String} {c : Case} {i k : Nat} {fault : CaseFault}
    (obstacle : Obstacle source c i fault) (named : fault.waiting? = some k) :
    k = lastEvent source c i ∧ ∃ statements, (segments source c)[i]? = some (.ok statements) ∧
      offered statements ≠ [] ∧
      ∀ target offers, fault = .choiceNotOffered k target offers → offers = offered statements := by
  cases obstacle with
  | missing within segment offers waits all =>
    obtain rfl := Option.some.inj named
    obtain rfl := Playthrough.offers_iff.mp offers
    exact ⟨rfl, _, segment, waits, by simp⟩
  | notOffered within segment offers waits action refused =>
    obtain rfl := Option.some.inj named
    obtain rfl := Playthrough.offers_iff.mp offers
    refine ⟨rfl, _, segment, waits, fun target offers same => ?_⟩
    simp only [CaseFault.choiceNotOffered.injEq] at same
    exact same.2.2.symm
  | _ => simp [CaseFault.waiting?] at named

/-- A playthrough that lacks an action, or whose action is not offered, has come to a segment that
offers something, and a choice is waiting among the events shown so far that offers just that. The
failure names the last of these events. It is the waiting choice just if the segment ends with a
choice, and so wherever resolving the segment stopped at the end of what it collected. -/
theorem runCase_waits {d : Disk} {folder : String} {c : Case} {fault : CaseFault} {k : Nat}
    (failed : (d.run (Playthrough.runCase folder c)).1 = .error fault)
    (named : fault.waiting? = some k) :
    ∃ source i statements,
      (d.run (readText (Path.join folder c.script))).1 = .ok source ∧ Reaches source c i ∧
      (segments source c)[i]? = some (.ok statements) ∧
      (∀ target offers, fault = .choiceNotOffered k target offers → offers = offered statements) ∧
      k + 1 = (shown ((segments source c).take (i + 1))).length ∧
      (∃ j, WaitsAt (shown ((segments source c).take (i + 1))) j (offered statements)) ∧
      (WaitsAt (shown ((segments source c).take (i + 1))) k (offered statements) ↔
        ∃ s ∈ statements.getLast?, s.kind = .choicePrompt) ∧
      (Collects source c i →
        WaitsAt (shown ((segments source c).take (i + 1))) k (offered statements)) := by
  rw [Disk.run_runCase] at failed
  cases text : (d.run (readText (Path.join folder c.script))).1 with
  | error failure =>
    rw [text] at failed
    obtain rfl := Except.error.inj failed
    simp [CaseFault.waiting?] at named
  | ok source =>
    rw [text] at failed
    obtain ⟨i, reaches, ends⟩ := Playthrough.play_eq_iff.mp failed
    cases ends with
    | stopped obstacle =>
      obtain ⟨rfl, statements, segment, waits, offers⟩ := obstacle.waits named
      have last := Playthrough.waitsAt_last_iff (shown ((segments source c).take i)) waits
      have some_ : 0 < (shown ((segments source c).take (i + 1))).length := by
        obtain ⟨before, prompt, branches, after, rfl, -⟩ := Playthrough.exists_last_choice waits
        rw [Playthrough.shown_take_succ segment]
        simp
      refine ⟨source, i, statements, rfl, reaches, segment, offers,
        Nat.sub_add_cancel some_, ?_, ?_, fun collects => ?_⟩
      · rw [Playthrough.shown_take_succ segment]
        exact Playthrough.exists_waitsAt _ waits
      · rw [lastEvent, Playthrough.shown_take_succ segment]
        exact last
      · rw [lastEvent, Playthrough.shown_take_succ segment]
        exact last.mpr (collects.ends_with_choice segment waits)

def greetedStory : String := "*a\nHi\n@buttons\nGo?\n- [b] Yes\n@end\n"

def greetedDisk : Disk := ⟨[], .folder [("g", .file greetedStory.toUTF8)]⟩

def greetedCase : Case := ⟨Case.schema, "g", "*a", true, [⟨"c"⟩], []⟩

theorem segments_greetedCase : segments greetedStory greetedCase =
    [.ok [.text "Hi", .choice "Go?" [⟨"b", "Yes"⟩]], .error (.labelNotFound "c")] := by
  cbv

theorem runCase_waits_greetedCase :
    (greetedDisk.run (Playthrough.runCase "" greetedCase)).1 =
        .error (.choiceNotOffered 1 "c" ["b"]) ∧
      WaitsAt [.text "Hi", .choices "Go?" [⟨"b", "Yes"⟩]] 1 ["b"] := by
  have text : (greetedDisk.run (readText "g")).1 = .ok greetedStory := Player.text_of_read rfl
  have failed : (greetedDisk.run (Playthrough.runCase "" greetedCase)).1 =
      .error (.choiceNotOffered 1 "c" ["b"]) := by
    rw [Disk.run_runCase, show Path.join "" greetedCase.script = "g" from rfl, text]
    cbv
  refine ⟨failed, ?_⟩
  obtain ⟨source, i, statements, text', -, segment, -, -, -, -, waits⟩ := runCase_waits failed rfl
  obtain rfl := Except.ok.inj (text.symm.trans text')
  rw [segments_greetedCase] at segment waits
  cases i with
  | zero =>
    obtain rfl := Except.ok.inj (Option.some.inj segment)
    exact waits (.inl rfl)
  | succ i => cases i <;> simp at segment

def passingStory : String := "@buttons\nGo?\n- [b] Yes\n@end\nBye\n"

def passingDisk : Disk := ⟨[], .folder [("p", .file passingStory.toUTF8)]⟩

def passingCase : Case := ⟨Case.schema, "p", "*a", false, [], []⟩

/-- Where a label is missing and reading is not strict, the event named is a text, and the question
comes before it. -/
theorem not_waitsAt_passingCase :
    (passingDisk.run (Playthrough.runCase "" passingCase)).1 = .error (.missingAction 1) ∧
      segments passingStory passingCase =
        [.ok [.choice "Go?" [⟨"b", "Yes"⟩], .text "Bye"]] ∧
      ∀ i targets, ¬ WaitsAt (shown ((segments passingStory passingCase).take (i + 1))) 1 targets := by
  have text : (passingDisk.run (readText "p")).1 = .ok passingStory := Player.text_of_read rfl
  have whole : segments passingStory passingCase =
      [.ok [.choice "Go?" [⟨"b", "Yes"⟩], .text "Bye"]] := by cbv
  refine ⟨?_, whole, ?_⟩
  · rw [Disk.run_runCase, show Path.join "" passingCase.script = "p" from rfl, text]
    cbv
  · rintro i targets ⟨⟨prompt, entries, here, -⟩, -⟩
    rw [whole] at here
    simp [shown, image] at here

end Storypath
