import Mathlib
import Storypath.Playthrough.Run
import Storypath.Proofs.Json.Magnitude
import Storypath.Proofs.Session.StateFile

/-! Cases in any layout. A case may be written by hand: with its keys in another order and with
others among them, without those that hold their defaults, in any spelling. It is read as the
case that it is, unless a key that is known is repeated. -/
namespace Storypath

open Json (Value)
open Json.Value (Twice)

namespace Action

def LaidOut (a : Action) : Value → Prop :=
  Value.LaidOut ["kind", "target"] [("kind", .ofString "choose"), ("target", .ofString a.target)]

theorem LaidOut.ofJson? {a : Action} {v : Value} (laid : a.LaidOut v) (room : Nat) :
    Action.ofJson? (room + 1) v = some a := by
  obtain ⟨rest, split, laid⟩ := Value.LaidOut.variant? laid room (by simp) (by simp)
  have fields : rest.fields? ["target"] = some [some (.ofString a.target)] :=
    laid.fields? (by simp)
  simp [Action.ofJson?, split, ofVariant?, fields]

inductive Repeats : Value → Prop
  | intro {members : List (Option String × Value)} {k : String} (known : k ∈ ["kind", "target"])
      (twice : Twice k members) : Repeats (.object members)

theorem Repeats.ofJson? {v : Value} (repeats : Repeats v) (room : Nat) :
    Action.ofJson? room v = none := by
  obtain @⟨members, k, known, twice⟩ := repeats
  rcases split : (Value.object members).variant? room "kind" with _ | ⟨kind, rest⟩
  · simp [Action.ofJson?, split]
  obtain ⟨tag, rfl⟩ := Value.variant?_object split
  have target : Twice "target" members := by
    rcases List.mem_pair.mp known with rfl | rfl
    · simp [twice.member?] at tag
    · exact twice
  have fields : (Value.object (members.filter fun m => m.1 != some "kind")).fields? ["target"] =
      none := (target.filter (by simp)).fields? (by simp)
  simp [Action.ofJson?, split, ofVariant?, fields]

end Action

namespace ChoiceEntry

def LaidOut (e : ChoiceEntry) : Value → Prop :=
  Value.LaidOut ["target", "text"] [("target", .ofString e.target), ("text", .ofString e.text)]

theorem keepable_of_laidOut {entries : List ChoiceEntry} {items : List Value}
    (each : List.Forall₂ LaidOut entries items) (room : Nat) :
    ∀ item ∈ items, Value.keepable (room + 1) item = true := by
  induction each with
  | nil => exact List.forall_mem_nil _
  | cons first _ ih => exact List.forall_mem_cons.mpr ⟨first.keepable (by simp), ih⟩

theorem LaidOut.ofJson? {e : ChoiceEntry} {v : Value} (laid : e.LaidOut v) :
    ChoiceEntry.ofJson? v = some e := by
  have fields : v.fields? ["target", "text"] =
      some [some (.ofString e.target), some (.ofString e.text)] :=
    Value.LaidOut.fields? laid (by simp)
  simp [ChoiceEntry.ofJson?, fields]

inductive Repeats : Value → Prop
  | intro {members : List (Option String × Value)} {k : String} (known : k ∈ ["target", "text"])
      (twice : Twice k members) : Repeats (.object members)

theorem Repeats.ofJson? {v : Value} (repeats : Repeats v) : ChoiceEntry.ofJson? v = none := by
  obtain ⟨known, twice⟩ := repeats
  simp [ChoiceEntry.ofJson?, twice.fields? known]

end ChoiceEntry

namespace Observation

/-- A layout of an observation. The keys that are known in it depend on its kind. -/
inductive LaidOut : Observation → Value → Prop
  | text {t : String} {v : Value}
      (laid : v.LaidOut ["kind", "text"] [("kind", .ofString "text"), ("text", .ofString t)]) :
      LaidOut (.text t) v
  | choices {prompt : String} {entries : List ChoiceEntry} {items : List Value} {v : Value}
      (each : List.Forall₂ ChoiceEntry.LaidOut entries items)
      (laid : v.LaidOut ["kind", "prompt", "choices"] [("kind", .ofString "choices"),
        ("prompt", .ofString prompt), ("choices", .array items)]) :
      LaidOut (.choices prompt entries) v
  | pause {duration : String} {v : Value}
      (laid : v.LaidOut ["kind", "duration"]
        [("kind", .ofString "pause"), ("duration", .ofString duration)]) :
      LaidOut (.pause duration) v
  | ending {v : Value} (laid : v.LaidOut ["kind"] [("kind", .ofString "end")]) :
      LaidOut .ending v

theorem LaidOut.ofJson? {o : Observation} {v : Value} (laid : o.LaidOut v) (room : Nat) :
    Observation.ofJson? (room + 3) v = some o := by
  cases laid with
  | @text t _ laid =>
    obtain ⟨rest, split, laid⟩ := laid.variant? (room + 2) (by simp) (by simp)
    have fields : rest.fields? ["text"] = some [some (.ofString t)] := laid.fields? (by simp)
    simp [Observation.ofJson?, split, ofVariant?, fields]
  | @choices prompt entries items _ each laid =>
    have deep := ChoiceEntry.keepable_of_laidOut each room
    obtain ⟨rest, split, laid⟩ := laid.variant? (room + 2) (by simp) (by simpa using deep)
    have fields : rest.fields? ["prompt", "choices"] =
        some [some (.ofString prompt), some (.array items)] := laid.fields? (by simp)
    have choices : (Value.array items).list? ChoiceEntry.ofJson? = some entries :=
      Value.list?_eq_some_iff.mpr (each.imp fun _ _ laid => laid.ofJson?).flip
    simp [Observation.ofJson?, split, ofVariant?, fields, choices]
  | @pause duration _ laid =>
    obtain ⟨rest, split, laid⟩ := laid.variant? (room + 2) (by simp) (by simp)
    have fields : rest.fields? ["duration"] = some [some (.ofString duration)] :=
      laid.fields? (by simp)
    simp [Observation.ofJson?, split, ofVariant?, fields]
  | ending laid =>
    obtain ⟨rest, split, laid⟩ := laid.variant? (room + 2) (by simp) (by simp)
    cases laid
    simp [Observation.ofJson?, split, ofVariant?, Value.ofMembers]

def keys : String → List String
  | "text" => ["text"]
  | "choices" => ["prompt", "choices"]
  | "pause" => ["duration"]
  | _ => []

inductive Repeats : Value → Prop
  | kind {members : List (Option String × Value)} (twice : Twice "kind" members) :
      Repeats (.object members)
  | field {members : List (Option String × Value)} {kind k : String}
      (kind_ : (some "kind", .ofString kind) ∈ members) (known : k ∈ keys kind)
      (twice : Twice k members) : Repeats (.object members)
  | entry {members : List (Option String × Value)} {items : List Value} {item : Value}
      (kind_ : (some "kind", .ofString "choices") ∈ members)
      (choices_ : (some "choices", .array items) ∈ members) (mem : item ∈ items)
      (repeats : ChoiceEntry.Repeats item) : Repeats (.object members)

theorem kind_notMem_keys (kind : String) : "kind" ∉ keys kind := by
  unfold keys
  split <;> simp

theorem ofVariant?_of_twice {kind k : String} {members : List (Option String × Value)}
    (known : k ∈ keys kind) (twice : Twice k members) :
    ofVariant? kind (.object members) = none := by
  unfold keys at known
  split at known
  · simp [ofVariant?, twice.fields? known]
  · simp [ofVariant?, twice.fields? known]
  · simp [ofVariant?, twice.fields? known]
  · simp at known

theorem Repeats.ofJson? {v : Value} (repeats : Repeats v) (room : Nat) :
    Observation.ofJson? room v = none := by
  obtain ⟨members, rfl⟩ : ∃ members, v = .object members := by
    cases repeats <;> exact ⟨_, rfl⟩
  rcases split : (Value.object members).variant? room "kind" with _ | ⟨kind, rest⟩
  · simp [Observation.ofJson?, split]
  obtain ⟨tag, rfl⟩ := Value.variant?_object split
  rw [Observation.ofJson?, split, Option.bind_some]
  have same {kind' : String} (kind_ : (some "kind", Value.ofString kind') ∈ members) :
      kind = kind' := by
    simpa [Value.ofString] using Value.eq_of_member? tag kind_
  cases repeats with
  | kind twice => simp [twice.member?] at tag
  | @field _ _ k kind_ known twice =>
    obtain rfl := same kind_
    have other : k ≠ "kind" := by
      rintro rfl
      exact kind_notMem_keys kind known
    exact ofVariant?_of_twice known (twice.filter (by simpa using other))
  | @entry _ items item kind_ choices_ mem repeats =>
    obtain rfl := same kind_
    have inside : (some "choices", Value.array items) ∈
        members.filter fun m => m.1 != some "kind" :=
      List.mem_filter.mpr ⟨choices_, by simp⟩
    rcases read : (Value.object (members.filter fun m => m.1 != some "kind")).fields?
      ["prompt", "choices"] with _ | fields
    · simp [ofVariant?, read]
    obtain ⟨prompt, _, -, later, rfl⟩ :=
      List.forall₂_cons_left_iff.mp (Value.forall₂_of_fields? read)
    obtain ⟨choices, _, found, none_, rfl⟩ := List.forall₂_cons_left_iff.mp later
    obtain rfl := List.forall₂_nil_left_iff.mp none_
    obtain rfl := Value.eq_of_member? found inside
    have entries : (Value.array items).list? ChoiceEntry.ofJson? = none :=
      Value.list?_eq_none mem repeats.ofJson?
    cases prompt <;> simp [ofVariant?, read, entries]

end Observation

namespace Case

def keys : List String :=
  ["schemaVersion", "script", "startLabel", "strict", "actions", "expectedEvents"]

def members (c : Case) (actions events : List Value) : List (String × Value) :=
  [("schemaVersion", .ofString c.schemaVersion), ("script", .ofString c.script),
    ("startLabel", .ofString c.startLabel), ("strict", .bool c.strict), ("actions", .array actions),
    ("expectedEvents", .array events)]

/-- The field of a case under a key holds what it holds where the key is left out. -/
def Default (c : Case) : String → Prop
  | "script" => c.script = "story.lgscript"
  | "startLabel" => c.startLabel = "*start"
  | "strict" => c.strict = false
  | "actions" => c.actions = []
  | "expectedEvents" => c.expectedEvents = []
  | _ => False

/-- A layout of a case: some keys are left out, and the rest are laid out with all that lies in
them. -/
inductive LaidOut (c : Case) : Value → Prop
  | intro {actions events : List Value} {left : List String} {v : Value}
      (actions_ : List.Forall₂ Action.LaidOut c.actions actions)
      (events_ : List.Forall₂ Observation.LaidOut c.expectedEvents events)
      (defaults : ∀ key ∈ left, c.Default key)
      (laid : v.LaidOut keys ((c.members actions events).filter fun m => m.1 ∉ left)) :
      c.LaidOut v

theorem optional_eq {α : Type} {read? : Value → Option α} {default a : α} {left : List String}
    {key : String} {v : Value} (read : read? v = some a) (same : key ∈ left → a = default) :
    optional read? default (if key ∈ left then none else some v) = some a := by
  split
  · next gone => rw [same gone, optional]
  · exact read

theorem LaidOut.ofJson? {c : Case} {v : Value} (laid : c.LaidOut v) : Case.ofJson? v = some c := by
  cases laid with
  | @intro actions events left _ actions_ events_ defaults laid =>
    have schema : "schemaVersion" ∉ left := defaults _
    have fields : v.fields? keys = some [some (.ofString c.schemaVersion),
        if "script" ∈ left then none else some (.ofString c.script),
        if "startLabel" ∈ left then none else some (.ofString c.startLabel),
        if "strict" ∈ left then none else some (.bool c.strict),
        if "actions" ∈ left then none else some (.array actions),
        if "expectedEvents" ∈ left then none else some (.array events)] := by
      have distinct : ((c.members actions events).map Prod.fst).Nodup := by simp [members]
      rw [laid.fields? (distinct.sublist (List.filter_sublist.map Prod.fst))]
      simp only [Value.lookup_filter, keys, List.map_cons, List.map_nil, if_neg schema]
      rfl
    have script := optional_eq (Value.text?_ofString c.script) (defaults "script")
    have label := optional_eq (Value.text?_ofString c.startLabel) (defaults "startLabel")
    have strict : optional Value.bool? false
        (if "strict" ∈ left then none else some (.bool c.strict)) = some c.strict :=
      optional_eq rfl (defaults "strict")
    have taken := optional_eq
      (Value.list?_eq_some_iff.mpr (actions_.imp fun _ _ laid => laid.ofJson? 124).flip)
      (defaults "actions")
    have expected := optional_eq
      (Value.list?_eq_some_iff.mpr (events_.imp fun _ _ laid => laid.ofJson? 122).flip)
      (defaults "expectedEvents")
    rw [keys] at fields
    simp [Case.ofJson?, fields, script, label, strict, Value.maxNesting, taken, expected]

theorem forall₂_map {α : Type} {laid : α → Value → Prop} {write : α → Value} {as : List α}
    (each : ∀ a, laid a (write a)) : List.Forall₂ laid as (as.map write) :=
  List.forall₂_map_right_iff.mpr (List.forall₂_same.mpr fun a _ => each a)

theorem laidOut_event (o : Observation) : o.LaidOut o.toJson := by
  have entries (e : ChoiceEntry) : e.LaidOut e.toJson := .refl _ _
  cases o with
  | text t => exact .text (.refl _ _)
  | choices prompt choices => exact .choices (forall₂_map entries) (.refl _ _)
  | pause duration => exact .pause (.refl _ _)
  | ending => exact .ending (.refl _ _)

theorem laidOut_action (a : Action) : a.LaidOut a.toJson := .refl _ _

theorem LaidOut.of_perm {c : Case} {members notes : List (String × Value)}
    (unknown : ∀ m ∈ notes, m.1 ∉ keys) (plain : ∀ m ∈ notes, Value.Plain m.2)
    (perm : members.Perm (c.members (c.actions.map Action.toJson)
      (c.expectedEvents.map Observation.toJson) ++ notes)) : c.LaidOut (.ofMembers members) := by
  refine @LaidOut.intro c _ _ [] _ (forall₂_map laidOut_action) (forall₂_map laidOut_event)
    (List.forall_mem_nil _) (.intro unknown plain ?_)
  simpa using perm

theorem laidOut_toJson (c : Case) : c.LaidOut c.toJson :=
  @LaidOut.of_perm c _ [] (List.forall_mem_nil _) (List.forall_mem_nil _) (by
    rw [List.append_nil]
    rfl)

inductive Repeats : Value → Prop
  | field {members : List (Option String × Value)} {k : String} (known : k ∈ keys)
      (twice : Twice k members) : Repeats (.object members)
  | action {members : List (Option String × Value)} {items : List Value} {item : Value}
      (actions_ : (some "actions", .array items) ∈ members) (mem : item ∈ items)
      (repeats : Action.Repeats item) : Repeats (.object members)
  | event {members : List (Option String × Value)} {items : List Value} {item : Value}
      (events_ : (some "expectedEvents", .array items) ∈ members) (mem : item ∈ items)
      (repeats : Observation.Repeats item) : Repeats (.object members)

theorem Repeats.ofJson? {v : Value} (repeats : Repeats v) : Case.ofJson? v = none := by
  obtain ⟨members, rfl⟩ : ∃ members, v = .object members := by
    cases repeats <;> exact ⟨_, rfl⟩
  rcases read : (Value.object members).fields? keys with _ | fields
  · rw [keys] at read
    simp [Case.ofJson?, read]
  have found := Value.forall₂_of_fields? read
  simp only [keys, List.forall₂_cons_left_iff, List.forall₂_nil_left_iff] at found
  obtain ⟨schema, _, -, ⟨script, _, -, ⟨label, _, -, ⟨strict, _, -, ⟨actions, _, foundActions,
    ⟨events, _, foundEvents, rfl, rfl⟩, rfl⟩, rfl⟩, rfl⟩, rfl⟩, rfl⟩ := found
  cases repeats with
  | field known twice => simp [twice.fields? known] at read
  | @action _ items item actions_ mem repeats =>
    obtain rfl := Value.eq_of_member? foundActions actions_
    have none_ (room : Nat) : (Value.array items).list? (Action.ofJson? room) = none :=
      Value.list?_eq_none mem (repeats.ofJson? room)
    rw [keys] at read
    cases schema <;> simp [Case.ofJson?, read, optional, none_]
  | @event _ items item events_ mem repeats =>
    obtain rfl := Value.eq_of_member? foundEvents events_
    have none_ (room : Nat) : (Value.array items).list? (Observation.ofJson? room) = none :=
      Value.list?_eq_none mem (repeats.ofJson? room)
    rw [keys] at read
    cases schema <;> simp [Case.ofJson?, read, optional, none_]

end Case

namespace Disk

theorem run_readCase {d : Disk} {path text : String} (stored : d.read path = .ok text.toUTF8) :
    (d.run (Playthrough.readCase path)).1 = Playthrough.caseOfText text := by
  rw [Playthrough.readCase, run_bind, Player.text_of_read stored]
  rfl

end Disk

section reading

variable {d : Disk} {path text : String} {v : Value}

theorem Playthrough.readCase_of_laidOut {c : Case} (stored : d.read path = .ok text.toUTF8)
    (spelt : Json.Spelt v.tokens text.toList) (current : c.schemaVersion = Case.schema)
    (laid : c.LaidOut v) : (d.run (Playthrough.readCase path)).1 = .ok c := by
  have read : Value.parse? text = some v := Json.parse?_of_spelt spelt
  rw [Disk.run_readCase stored]
  unfold Playthrough.caseOfText
  simp [read, laid.ofJson?, current]

/-- However a case is laid out and spelt in a file, it is the case that is read, if it is in the
current form. If a known key is repeated in it, nothing is read. -/
theorem Playthrough.readCase_of_spelt
    (stored : d.read path = .ok text.toUTF8) (spelt : Json.Spelt v.tokens text.toList) :
    (∀ c : Case, c.schemaVersion = Case.schema → c.LaidOut v →
        (d.run (Playthrough.readCase path)).1 = .ok c) ∧
      (Case.Repeats v → (d.run (Playthrough.readCase path)).1 = .error .parseCase) := by
  refine ⟨fun c current laid => readCase_of_laidOut stored spelt current laid, fun repeats => ?_⟩
  have read : Value.parse? text = some v := Json.parse?_of_spelt spelt
  rw [Disk.run_readCase stored]
  unfold Playthrough.caseOfText
  rw [read, Option.bind_some, repeats.ofJson?]

def smilingCase : Case :=
  ⟨Case.schema, "story.lgscript", "*start", false, [], [.text "😀"]⟩

def smilingText : String :=
  "\x7b\"expectedEvents\":[\x7b\"text\":\"\\uD83d\\ude00\",\"kind\":\"text\"\x7d],\"note\":1E+2," ++
    "\n \"schemaVersion\":\"gb-tool-case.v1\"\x7d"

def hundred : Value := .number ⟨false, ['1'], [], some (false, ['2'])⟩

def smilingJson : Value :=
  .ofMembers [
    ("expectedEvents", .array [.ofMembers [("text", .ofString "😀"),
      ("kind", .ofString "text")]]),
    ("note", hundred),
    ("schemaVersion", .ofString "gb-tool-case.v1")]

theorem laidOut_smilingJson : smilingCase.LaidOut smilingJson := by
  have event : (Observation.text "😀").LaidOut
      (.ofMembers [("text", .ofString "😀"), ("kind", .ofString "text")]) :=
    .text (.intro (List.forall_mem_nil _) (List.forall_mem_nil _) (.swap _ _ _))
  refine @Case.LaidOut.intro _ [] _ ["script", "startLabel", "strict", "actions"] _ .nil
    (.cons event .nil) (by simp [Case.Default, smilingCase]) ?_
  have unknown : ∀ m ∈ [("note", hundred)], m.1 ∉ Case.keys := by decide
  have plain : ∀ m ∈ [("note", hundred)], Value.Plain m.2 :=
    List.forall_mem_singleton.mpr (.number (by decide +kernel))
  exact .intro unknown plain (List.perm_append_comm : ([_, _] ++ [_]).Perm ([_] ++ [_, _]))

theorem spelt_smilingText : Json.Spelt smilingJson.tokens smilingText.toList := by
  have none : Json.Blank [] := List.forall_mem_nil _
  have line : Json.Blank ['\n', ' '] := by simp [Json.Blank]
  have upper : Json.FourHex ['D', '8', '3', 'd'] (0xD800 + 0x3d) :=
    @Json.FourHex.intro 'D' '8' '3' 'd' 13 8 3 13 (by decide) (by decide) (by decide) (by decide)
  have lower : Json.FourHex ['d', 'e', '0', '0'] (0xDC00 + 0x200) :=
    @Json.FourHex.intro 'd' 'e' '0' '0' 13 14 0 0 (by decide) (by decide) (by decide) (by decide)
  have face : Json.CharSpelt '😀' "\\uD83d\\ude00".toList :=
    .halves upper lower (by decide) (by decide) (by decide)
  have smile : Json.TokenSpelt (.string (some "😀")) _ := .string (.cons face .nil)
  have whole : Json.WholeSpelt ['1'] := .more (by decide) (List.forall_mem_nil _)
  have exponent : Json.ExponentSpelt (some (false, ['2'])) "E+2".toList :=
    @Json.ExponentSpelt.some 'E' '2' ['+'] [] false (by decide) (by decide) (by
      simp [Json.AllDigits, Json.leadingDigits])
  have number : Json.TokenSpelt (.number ⟨false, ['1'], [], some (false, ['2'])⟩) _ :=
    .number (.intro whole .none exponent)
  have key : Json.TokenSpelt (.string (some "schemaVersion")) _ := .written rfl
  have first : ∀ t ∈ smilingJson.tokens.take 7, t.closed = true := by decide
  have second : ∀ t ∈ (smilingJson.tokens.drop 8).take 9, t.closed = true := by decide
  have third : ∀ t ∈ [Json.Token.comma], t.closed = true := by decide
  have fourth : ∀ t ∈ smilingJson.tokens.drop 20, t.closed = true := by decide
  have spelt := Json.Spelt.written (.cons none smile (.written (.cons none number (.written
    (.cons line key (.written (.nil none) fourth)) third)) second)) first
  refine (?_ : _ = smilingText.toList) ▸ spelt
  decide +kernel

def keptText (text : String) : Disk := ⟨[], .folder [("c", .file text.toUTF8)]⟩

def repeatingJson : Value :=
  .ofMembers [("schemaVersion", .ofString Case.schema), ("strict", .bool true),
    ("strict", .bool true)]

theorem Playthrough.readCase_of_spelt_smilingText :
    smilingCase.LaidOut smilingJson ∧ Json.Spelt smilingJson.tokens smilingText.toList ∧
      ((keptText smilingText).run (readCase "c")).1 = .ok smilingCase ∧
      Case.Repeats repeatingJson ∧
      Json.Spelt repeatingJson.tokens repeatingJson.render.toList ∧
      ((keptText repeatingJson.render).run (readCase "c")).1 = .error .parseCase := by
  have stored (text : String) : (keptText text).read "c" = .ok text.toUTF8 := rfl
  have closed : repeatingJson.Closed := by simp [repeatingJson]
  have spelt := Json.spelt_render closed
  have repeats : Case.Repeats repeatingJson := by
    refine .field (k := "strict") (by decide) ⟨.bool true, .bool true, ?_⟩
    simp
  have read := (readCase_of_spelt (stored smilingText) spelt_smilingText).1 _ rfl
    laidOut_smilingJson
  have refused := (readCase_of_spelt (stored _) spelt).2 repeats
  exact ⟨laidOut_smilingJson, spelt_smilingText, read, repeats, spelt, refused⟩

theorem Playthrough.readCase_of_magnitude_lt {c : Case} {members notes : List (String × Value)}
    (stored : d.read path = .ok text.toUTF8)
    (spelt : Json.Spelt (Value.ofMembers members).tokens text.toList)
    (current : c.schemaVersion = Case.schema)
    (perm : members.Perm (c.members (c.actions.map Action.toJson)
      (c.expectedEvents.map Observation.toJson) ++ notes))
    (unknown : ∀ m ∈ notes, m.1 ∉ Case.keys)
    (numbers : ∀ m ∈ notes, ∃ n : Json.Number, m.2 = .number n ∧ n.magnitude < 10 ^ 308 ∧
      ∀ digits, n.exponent = some (false, digits) →
        Digits.value digits ≤ Json.Number.maxExponent) :
    (d.run (Playthrough.readCase path)).1 = .ok c := by
  have plain : ∀ m ∈ notes, Value.Plain m.2 := by
    rintro ⟨k, v⟩ mem
    obtain ⟨n, rfl, small, readable⟩ := numbers _ mem
    have inside : (k, .number n) ∈ members := perm.mem_iff.mpr (List.mem_append_right _ mem)
    exact .of_magnitude_lt spelt inside small readable
  exact readCase_of_laidOut stored spelt current (.of_perm unknown plain perm)

end reading

end Storypath
