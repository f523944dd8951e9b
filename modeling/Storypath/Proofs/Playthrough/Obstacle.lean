import Mathlib
import Storypath.Proofs.Playthrough.Course
import Storypath.Proofs.Session.StateFile

/-! What a playthrough meets. The actions of a case name all its segments beforehand; a playthrough
passes one after the other as long as the next action is offered, and ends at the first segment that
it cannot pass. Main statement: it succeeds just if that is the last one and offers nothing, and fails
with what it meets there otherwise. -/
namespace Storypath

namespace Statement

def image : Statement → Observation
  | .text t => .text t
  | .choice prompt branches =>
    .choices prompt (branches.map fun b => { target := b.targetLabel, text := b.buttonText })
  | .pause duration => .pause duration

/-- What some statements offer: the targets of the last choice among them, or nothing. -/
inductive Offers : List Statement → List String → Prop
  | last {before after : List Statement} {prompt : String} {branches : List Branch}
      (latest : ∀ prompt branches, .choice prompt branches ∉ after) :
      Offers (before ++ .choice prompt branches :: after) (branches.map Branch.targetLabel)
  | nothing {statements : List Statement}
      (none : ∀ prompt branches, .choice prompt branches ∉ statements) : Offers statements []

theorem ofStatement_eq_image : Observation.ofStatement = image := by
  funext s
  cases s <;> rfl

end Statement

open Statement (image Offers ofStatement_eq_image)

namespace Playthrough

section offers

variable {statements : List Statement} {targets : List String}

theorem offered_concat_choice (statements : List Statement) (prompt : String)
    (branches : List Branch) :
    offered (statements ++ [.choice prompt branches]) = branches.map Branch.targetLabel := by
  simp [offered]

theorem offered_concat_of_ne {s : Statement} (other : ∀ prompt branches, s ≠ .choice prompt branches) :
    offered (statements ++ [s]) = offered statements := by
  cases s with
  | choice prompt branches => exact absurd rfl (other prompt branches)
  | text t | pause d => simp [offered]

theorem offered_append_of_notMem {after : List Statement}
    (none : ∀ prompt branches, .choice prompt branches ∉ after) :
    offered (statements ++ after) = offered statements := by
  induction after using List.reverseRecOn with
  | nil => rw [List.append_nil]
  | append_singleton after s ih =>
    have other : ∀ prompt branches, s ≠ .choice prompt branches := by
      rintro prompt branches rfl
      exact none prompt branches (by simp)
    rw [← List.append_assoc, offered_concat_of_ne other]
    exact ih fun prompt branches mem => none prompt branches (List.mem_append_left _ mem)

theorem offers_offered (statements : List Statement) : Offers statements (offered statements) := by
  induction statements using List.reverseRecOn with
  | nil => exact .nothing (by simp)
  | append_singleton statements s ih =>
    cases s with
    | choice prompt branches =>
      rw [offered_concat_choice]
      exact .last (by simp)
    | text t | pause d =>
      rw [offered_concat_of_ne (by simp)]
      generalize offered statements = targets at ih ⊢
      cases ih with
      | last latest =>
        rw [List.append_assoc, List.cons_append]
        exact .last (by simpa using latest)
      | nothing none => exact .nothing (by simpa using none)

theorem offers_iff : Offers statements targets ↔ offered statements = targets := by
  constructor
  · intro offers
    cases offers with
    | @last before after prompt branches latest =>
      rw [List.append_cons, offered_append_of_notMem latest, offered_concat_choice]
    | nothing none => exact @offered_append_of_notMem [] statements none
  · rintro rfl
    exact offers_offered statements

end offers

def segments (source : String) (c : Case) : List (Except ScriptFault (List Statement)) :=
  resolve source c.startLabel { strict := c.strict } ::
    c.actions.map fun a => resolveReference source a.target { strict := c.strict }

def shown (segments : List (Except ScriptFault (List Statement))) : List Observation :=
  segments.flatMap fun
    | .ok statements => statements.map image
    | .error _ => []

def Passable (source : String) (c : Case) (i : Nat) : Prop :=
  ∃ statements targets a, (segments source c)[i]? = some (.ok statements) ∧
    Offers statements targets ∧ c.actions[i]? = some a ∧ a.target ∈ targets

def Reaches (source : String) (c : Case) (i : Nat) : Prop := ∀ j < i, Passable source c j

def lastEvent (source : String) (c : Case) (i : Nat) : Nat :=
  (shown ((segments source c).take (i + 1))).length - 1

/-- What makes a playthrough fail at a segment. -/
inductive Obstacle (source : String) (c : Case) (i : Nat) : CaseFault → Prop
  | unresolved {fault : ScriptFault} (within : i ≤ 5000)
      (segment : (segments source c)[i]? = some (.error fault)) :
      Obstacle source c i (.resolve (.script fault))
  | tooMany {statements : List Statement} (full : i = 5000)
      (segment : (segments source c)[i]? = some (.ok statements)) :
      Obstacle source c i (.guardExceeded 5000)
  | unused {statements : List Statement} (within : i < 5000)
      (segment : (segments source c)[i]? = some (.ok statements)) (nothing : Offers statements [])
      (left : i < c.actions.length) : Obstacle source c i (.unusedActions i c.actions.length)
  | missing {statements : List Statement} {targets : List String} (within : i < 5000)
      (segment : (segments source c)[i]? = some (.ok statements))
      (offers : Offers statements targets) (waits : targets ≠ []) (all : i = c.actions.length) :
      Obstacle source c i (.missingAction (lastEvent source c i))
  | notOffered {statements : List Statement} {targets : List String} {a : Action} (within : i < 5000)
      (segment : (segments source c)[i]? = some (.ok statements))
      (offers : Offers statements targets) (waits : targets ≠ []) (action : c.actions[i]? = some a)
      (refused : a.target ∉ targets) :
      Obstacle source c i (.choiceNotOffered (lastEvent source c i) a.target targets)

inductive Ends (source : String) (c : Case) (i : Nat) : Except CaseFault Report → Prop
  | complete {statements : List Statement} (within : i < 5000)
      (segment : (segments source c)[i]? = some (.ok statements)) (nothing : Offers statements [])
      (all : i = c.actions.length) :
      Ends source c i (.ok ⟨shown (segments source c) ++ [.ending], i, i + 1⟩)
  | stopped {fault : CaseFault} (obstacle : Obstacle source c i fault) : Ends source c i (.error fault)

variable {source : String} {c : Case} {i : Nat} {segment : Except ScriptFault (List Statement)}
  {statements : List Statement} {result : Except CaseFault Report}

theorem length_segments (source : String) (c : Case) :
    (segments source c).length = c.actions.length + 1 := by
  simp [segments]

theorem segment_succ {a : Action} (action : c.actions[i]? = some a) :
    (segments source c)[i + 1]? = some (resolveReference source a.target (scriptOptions c)) := by
  simp [segments, scriptOptions, action]

theorem drop_actions {a : Action} (action : c.actions[i]? = some a) :
    c.actions.drop i = a :: c.actions.drop (i + 1) := by
  obtain ⟨within, rfl⟩ := List.getElem?_eq_some_iff.mp action
  exact List.drop_eq_getElem_cons within

theorem shown_take_succ (segment : (segments source c)[i]? = some (.ok statements)) :
    shown ((segments source c).take (i + 1)) =
      shown ((segments source c).take i) ++ statements.map image := by
  rw [List.take_add_one, segment]
  simp [shown]

def playOn (source : String) (c : Case) (i : Nat) :
    Except ScriptFault (List Statement) → Except CaseFault Report
  | .ok statements =>
    playFrom source (scriptOptions c) (maxSteps - i) (shown ((segments source c).take i)).toArray i
      (c.actions.drop i) statements
  | .error fault => .error (.resolve (.script fault))

theorem play_eq_playOn (source : String) (c : Case) :
    play source c = playOn source c 0 (resolve source c.startLabel (scriptOptions c)) := by
  unfold play
  cases resolve source c.startLabel (scriptOptions c) with
  | ok statements => rfl
  | error fault => rfl

theorem left_succ (within : i < 5000) : maxSteps - i = maxSteps - (i + 1) + 1 := by
  rw [maxSteps]
  omega

theorem playOn_of_passable (within : i < 5000) (passable : Passable source c i)
    (here : (segments source c)[i]? = some segment) :
    ∃ next, (segments source c)[i + 1]? = some next ∧
      playOn source c i segment = playOn source c (i + 1) next := by
  obtain ⟨statements, targets, a, resolved, offers, action, mem⟩ := passable
  obtain rfl := Option.some.inj (here.symm.trans resolved)
  obtain rfl := offers_iff.mp offers
  have left : maxSteps - i = maxSteps - (i + 1) + 1 := left_succ within
  have waits : offered statements ≠ [] := List.ne_nil_of_mem mem
  refine ⟨_, segment_succ action, ?_⟩
  rw [playOn, left, drop_actions action, playFrom]
  cases next : resolveReference source a.target (scriptOptions c) with
  | ok _ => simp [waits, mem, playOn, shown_take_succ resolved, ofStatement_eq_image]
  | error _ => simp [waits, mem, playOn]

theorem play_of_reaches (within : i ≤ 5000) (reaches : Reaches source c i) :
    ∃ segment, (segments source c)[i]? = some segment ∧
      play source c = playOn source c i segment := by
  induction i with
  | zero => exact ⟨_, rfl, play_eq_playOn source c⟩
  | succ i ih =>
    obtain ⟨segment, here, same⟩ := ih (Nat.le_of_succ_le within) fun j before =>
      reaches j (Nat.lt_succ_of_lt before)
    obtain ⟨next, after, leads⟩ := playOn_of_passable within (reaches i i.lt_succ_self) here
    exact ⟨next, after, same.trans leads⟩

theorem Ends.le (ends : Ends source c i result) : i ≤ 5000 := by
  cases ends with
  | complete within => exact Nat.le_of_lt within
  | stopped obstacle => cases obstacle <;> omega

theorem playOn_of_ends (here : (segments source c)[i]? = some segment)
    (ends : Ends source c i result) : playOn source c i segment = result := by
  cases ends with
  | @complete statements within resolved nothing all =>
    obtain rfl := Option.some.inj (here.symm.trans resolved)
    have none : offered statements = [] := offers_iff.mp nothing
    have whole : shown (segments source c) =
        shown ((segments source c).take i) ++ statements.map image := by
      rw [← shown_take_succ resolved, List.take_of_length_le (by rw [length_segments]; omega)]
    rw [playOn, left_succ within, List.drop_of_length_le (Nat.le_of_eq all.symm), playFrom]
    simp [none, whole, ofStatement_eq_image]
  | stopped obstacle =>
    cases obstacle with
    | unresolved within resolved =>
      obtain rfl := Option.some.inj (here.symm.trans resolved)
      rfl
    | tooMany full resolved =>
      obtain rfl := Option.some.inj (here.symm.trans resolved)
      simp [playOn, full, maxSteps, playFrom]
    | unused within resolved nothing left =>
      obtain rfl := Option.some.inj (here.symm.trans resolved)
      have none := offers_iff.mp nothing
      have total : i + (c.actions.length - i) = c.actions.length := by omega
      rw [playOn, left_succ within, drop_actions (List.getElem?_eq_getElem left), playFrom]
      simp [none, total, left]
    | missing within resolved offers waits all =>
      obtain rfl := Option.some.inj (here.symm.trans resolved)
      obtain rfl := offers_iff.mp offers
      rw [playOn, left_succ within, List.drop_of_length_le (Nat.le_of_eq all.symm), playFrom]
      simp [waits, lastEvent, shown_take_succ resolved]
    | @notOffered statements targets a within resolved offers waits action refused =>
      obtain rfl := Option.some.inj (here.symm.trans resolved)
      obtain rfl := offers_iff.mp offers
      rw [playOn, left_succ within, drop_actions action, playFrom]
      simp [waits, refused, lastEvent, shown_take_succ resolved]

theorem exists_ends (here : (segments source c)[i]? = some segment) (within : i ≤ 5000)
    (stuck : i < 5000 → ¬ Passable source c i) : ∃ result, Ends source c i result := by
  cases segment with
  | error fault => exact ⟨_, .stopped (.unresolved within here)⟩
  | ok statements =>
    have offers := offers_offered statements
    rcases Nat.lt_or_eq_of_le within with within | full
    · have room : i < (segments source c).length := (List.getElem?_eq_some_iff.mp here).1
      rw [length_segments] at room
      rcases Nat.lt_or_eq_of_le (Nat.le_of_lt_succ room) with left | all
      · by_cases nothing : offered statements = []
        · rw [nothing] at offers
          exact ⟨_, .stopped (.unused within here offers left)⟩
        · have action : c.actions[i]? = some c.actions[i] := List.getElem?_eq_getElem left
          refine ⟨_, .stopped (.notOffered within here offers nothing action fun mem => ?_)⟩
          exact stuck within ⟨statements, _, _, here, offers, action, mem⟩
      · by_cases nothing : offered statements = []
        · rw [nothing] at offers
          exact ⟨_, .complete within here offers all⟩
        · exact ⟨_, .stopped (.missing within here offers nothing all)⟩
    · exact ⟨_, .stopped (.tooMany full here)⟩

theorem reaches_or_stuck (source : String) (c : Case) (n : Nat) :
    Reaches source c n ∨ ∃ i < n, Reaches source c i ∧ ¬ Passable source c i := by
  induction n with
  | zero => exact .inl fun j before => absurd before j.not_lt_zero
  | succ n ih =>
    rcases ih with reaches | ⟨i, before, stuck⟩
    · by_cases passable : Passable source c n
      · refine .inl fun j before => ?_
        rcases Nat.lt_or_eq_of_le (Nat.le_of_lt_succ before) with before | rfl
        · exact reaches j before
        · exact passable
      · exact .inr ⟨n, n.lt_succ_self, reaches, passable⟩
    · exact .inr ⟨i, Nat.lt_succ_of_lt before, stuck⟩

/-- A playthrough ends at the first segment that it cannot pass, the way that segment ends it. -/
theorem play_eq_iff : play source c = result ↔
    ∃ i, Reaches source c i ∧ Ends source c i result := by
  have ended {i : Nat} {result : Except CaseFault Report} (reaches : Reaches source c i)
      (ends : Ends source c i result) : play source c = result := by
    obtain ⟨segment, here, same⟩ := play_of_reaches ends.le reaches
    exact same.trans (playOn_of_ends here ends)
  constructor
  · rintro rfl
    -- The first segment that cannot be passed, or else the one at the limit.
    obtain ⟨i, within, reaches, stuck⟩ : ∃ i ≤ 5000, Reaches source c i ∧
        (i < 5000 → ¬ Passable source c i) := by
      rcases reaches_or_stuck source c 5000 with reaches | ⟨i, before, reaches, stuck⟩
      · exact ⟨5000, Nat.le_refl _, reaches, fun more => absurd more (Nat.lt_irrefl _)⟩
      · exact ⟨i, Nat.le_of_lt before, reaches, fun _ => stuck⟩
    obtain ⟨segment, here, -⟩ := play_of_reaches within reaches
    obtain ⟨result, ends⟩ := exists_ends here within stuck
    rw [ended reaches ends]
    exact ⟨i, reaches, ends⟩
  · rintro ⟨i, reaches, ends⟩
    exact ended reaches ends

end Playthrough

open Playthrough (segments shown Passable Reaches Obstacle)

/-- A case plays to its end just if it has less than 5000 actions, each segment but the last resolves
and offers the action after it, and the last one resolves and offers nothing. It has shown all segments
and one end then. Otherwise it fails with what it meets at the first segment that it cannot pass. -/
theorem runCase_eq_iff {d : Disk} {folder source : String} {c : Case}
    (text : (d.run (readText (Path.join folder c.script))).1 = .ok source) :
    (∀ report, (d.run (Playthrough.runCase folder c)).1 = .ok report ↔
      c.actions.length < 5000 ∧ (∀ i < c.actions.length, Passable source c i) ∧
        (∃ last, (segments source c)[c.actions.length]? = some (.ok last) ∧ Offers last []) ∧
        report =
          ⟨shown (segments source c) ++ [.ending], c.actions.length, c.actions.length + 1⟩) ∧
    ∀ fault, (d.run (Playthrough.runCase folder c)).1 = .error fault ↔
      ∃ i, (∀ j < i, Passable source c j) ∧ Obstacle source c i fault := by
  simp only [Disk.run_runCase, text, Playthrough.play_eq_iff]
  refine ⟨fun report => ⟨?_, ?_⟩, fun fault => ⟨?_, ?_⟩⟩
  · rintro ⟨i, reaches, ends⟩
    cases ends with
    | complete within segment nothing all =>
      subst all
      exact ⟨within, reaches, ⟨_, segment, nothing⟩, rfl⟩
  · rintro ⟨within, reaches, ⟨last, segment, nothing⟩, rfl⟩
    exact ⟨_, reaches, .complete within segment nothing rfl⟩
  · rintro ⟨i, reaches, ends⟩
    cases ends with
    | stopped obstacle => exact ⟨i, reaches, obstacle⟩
  · rintro ⟨i, reaches, obstacle⟩
    exact ⟨i, reaches, .stopped obstacle⟩

def endlessStory : String := "*a\n@buttons\nAgain?\n- [a] Again\n@end\n"

def endlessCase (n : Nat) : Case :=
  ⟨Case.schema, "e", "*a", false, List.replicate n ⟨"a"⟩, []⟩

theorem segments_endlessCase (n : Nat) : segments endlessStory (endlessCase n) =
    List.replicate (n + 1) (.ok [.choice "Again?" [⟨"a", "Again"⟩]]) := by
  have asked : resolve endlessStory "*a" { strict := (endlessCase n).strict } =
      .ok [.choice "Again?" [⟨"a", "Again"⟩]] := by cbv
  have again : resolveReference endlessStory "a" { strict := (endlessCase n).strict } =
      .ok [.choice "Again?" [⟨"a", "Again"⟩]] := by cbv
  rw [segments, show (endlessCase n).startLabel = "*a" from rfl, asked,
    show (endlessCase n).actions = List.replicate n ⟨"a"⟩ from rfl, List.map_replicate, again]
  rfl

theorem offers_again : Offers [.choice "Again?" [⟨"a", "Again"⟩]] ["a"] := by
  rw [Playthrough.offers_iff]
  rfl

theorem passable_endlessCase {n i : Nat} (before : i < n) :
    Passable endlessStory (endlessCase n) i := by
  refine ⟨_, _, ⟨"a"⟩, ?_, offers_again, ?_, List.mem_singleton_self _⟩
  · rw [segments_endlessCase, List.getElem?_replicate_of_lt (by omega)]
  · exact List.getElem?_replicate_of_lt before

def outingStory : String := "*a\nHi\n@wait 1s\n@buttons\nGo?\n- [b] Yes\n@end\n*b\nBye\n@end\n"

def outingCase : Case := ⟨Case.schema, "o", "*a", true, [⟨"b"⟩], []⟩

theorem segments_outingCase : segments outingStory outingCase =
    [.ok [.text "Hi", .pause "1s", .choice "Go?" [⟨"b", "Yes"⟩]], .ok [.text "Bye"]] := by
  cbv

def storiesDisk : Disk :=
  ⟨[], .folder [("e", .file endlessStory.toUTF8), ("o", .file outingStory.toUTF8)]⟩

theorem runCase_storiesDisk :
    ((storiesDisk.run (readText "o")).1 = .ok outingStory ∧
      (storiesDisk.run (Playthrough.runCase "" outingCase)).1 =
        .ok ⟨[.text "Hi", .pause "1s", .choices "Go?" [⟨"b", "Yes"⟩], .text "Bye", .ending], 1, 2⟩) ∧
    (storiesDisk.run (readText "e")).1 = .ok endlessStory ∧
      (storiesDisk.run (Playthrough.runCase "" (endlessCase 4999))).1 =
        .error (.missingAction 4999) ∧
      (storiesDisk.run (Playthrough.runCase "" (endlessCase 5000))).1 =
        .error (.guardExceeded 5000) := by
  have outing : (storiesDisk.run (readText "o")).1 = .ok outingStory := Player.text_of_read rfl
  have endless : (storiesDisk.run (readText "e")).1 = .ok endlessStory := Player.text_of_read rfl
  have path (name : String) (plain : Path.join "" name = name) {story : String}
      (read : (storiesDisk.run (readText name)).1 = .ok story) :
      (storiesDisk.run (readText (Path.join "" name))).1 = .ok story := by rw [plain, read]
  refine ⟨⟨outing, ?_⟩, endless, ?_⟩
  · have first : Passable outingStory outingCase 0 := by
      refine ⟨_, ["b"], ⟨"b"⟩, by rw [segments_outingCase]; rfl, ?_, rfl, List.mem_singleton_self _⟩
      rw [Playthrough.offers_iff]
      rfl
    have played := (@runCase_eq_iff storiesDisk "" outingStory outingCase (path "o" rfl outing)).1
    refine (played _).mpr ⟨by decide, ?_, ⟨[.text "Bye"], ?_, ?_⟩, ?_⟩
    · intro i before
      rw [Nat.lt_one_iff.mp before]
      exact first
    · rw [segments_outingCase]
      rfl
    · exact .nothing (by simp)
    · rw [segments_outingCase]
      rfl
  · have played (n : Nat) :=
      (@runCase_eq_iff storiesDisk "" endlessStory (endlessCase n) (path "e" rfl endless)).2
    have last (n : Nat) : (segments endlessStory (endlessCase n))[n]? =
        some (.ok [.choice "Again?" [⟨"a", "Again"⟩]]) := by
      rw [segments_endlessCase, List.getElem?_replicate_of_lt n.lt_succ_self]
    have missing (n : Nat) (within : n < 5000) :
        (storiesDisk.run (Playthrough.runCase "" (endlessCase n))).1 =
          .error (.missingAction n) := by
      have number : Playthrough.lastEvent endlessStory (endlessCase n) n = n := by
        simp [Playthrough.lastEvent, segments_endlessCase, shown]
      have obstacle := Obstacle.missing within (last n) offers_again (List.cons_ne_nil _ _)
        (List.length_replicate.symm : n = (endlessCase n).actions.length)
      rw [number] at obstacle
      exact (played n _).mpr ⟨n, fun j before => passable_endlessCase before, obstacle⟩
    have full : (storiesDisk.run (Playthrough.runCase "" (endlessCase 5000))).1 =
        .error (.guardExceeded 5000) :=
      (played 5000 _).mpr
        ⟨5000, fun j before => passable_endlessCase before, .tooMany rfl (last 5000)⟩
    exact ⟨missing 4999 (by decide), full⟩

end Storypath
