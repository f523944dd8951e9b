import Mathlib
import Storypath.Json.Record

/-! Typed data that is written as JSON is read back. A record whose keys differ has each of its
fields, a variant has its tag and the record of the rest, and a list has its items. -/
namespace Storypath.Json.Value

variable {members : List (String × Value)} {room : Nat} {α : Type} {read? : Value → Option α}

@[simp] theorem keepable_ofString (room : Nat) (s : String) :
    keepable room (ofString s) = true := by
  cases room <;> rfl

@[simp] theorem keepable_array {items : List Value} :
    keepable (room + 1) (array items) = true ↔ ∀ v ∈ items, keepable room v = true := by
  simp [keepable]

@[simp] theorem keepable_ofMembers :
    keepable (room + 1) (ofMembers members) = true ↔ ∀ m ∈ members, keepable room m.2 = true := by
  simp [keepable, ofMembers]

@[simp] theorem text?_ofString (s : String) : (ofString s).text? = some s := rfl

theorem filter_ofMembers {k : String} (apart : k ∉ members.map Prod.fst) :
    (members.map fun m => (some m.1, m.2)).filter (fun m => m.1 == some k) = [] := by
  have others : ∀ m ∈ members, m.1 ≠ k := fun m mem same =>
    apart (same ▸ List.mem_map_of_mem (f := Prod.fst) mem)
  rw [List.filter_map, List.map_eq_nil_iff, List.filter_eq_nil_iff]
  simpa using others

theorem member?_ofMembers (distinct : (members.map Prod.fst).Nodup) {k : String} {v : Value}
    (mem : (k, v) ∈ members) :
    member? k (members.map fun m => (some m.1, m.2)) = some (some v) := by
  have alone : (members.map fun m => (some m.1, m.2)).filter (fun m => m.1 == some k) =
      [(some k, v)] := by
    induction members with
    | nil => simp at mem
    | cons m ms ih =>
      rw [List.map_cons, List.nodup_cons] at distinct
      rw [List.map_cons, List.filter_cons]
      rcases List.mem_cons.mp mem with rfl | mem
      · simp [filter_ofMembers distinct.1]
      · have other : m.1 ≠ k := fun same =>
          distinct.1 (same ▸ List.mem_map_of_mem (f := Prod.fst) mem)
        simp [other, ih distinct.2 mem]
  rw [member?, alone]

theorem mapM_eq_some_iff {α β : Type} {f : α → Option β} {as : List α} {bs : List β} :
    as.mapM f = some bs ↔ List.Forall₂ (fun a b => f a = some b) as bs := by
  induction as generalizing bs with
  | nil => simp [eq_comm]
  | cons a as ih =>
    rw [List.forall₂_cons_left_iff]
    simp [List.mapM_cons, ← ih, Option.bind_eq_some_iff, @eq_comm _ bs]

/-- A record has for its fields what is found under its keys. -/
theorem fields?_of_forall₂ {keys : List String} {fields : List (Option Value)}
    (found : List.Forall₂ (fun k field =>
      member? k (members.map fun m => (some m.1, m.2)) = some field) keys fields) :
    (ofMembers members).fields? keys = some fields := by
  simpa [fields?, ofMembers] using mapM_eq_some_iff.mpr found

theorem fields?_ofMembers {keys : List String} (named : members.map Prod.fst = keys)
    (distinct : keys.Nodup) :
    (ofMembers members).fields? keys = some (members.map fun m => some m.2) := by
  subst named
  refine fields?_of_forall₂ (List.forall₂_map_left_iff.mpr (List.forall₂_map_right_iff.mpr ?_))
  exact List.forall₂_same.mpr fun m mem => member?_ofMembers distinct mem

theorem variant?_of_member? {tag t : String} (whole : keepable room (ofMembers members) = true)
    (found : member? tag (members.map fun m => (some m.1, m.2)) = some (some (ofString t))) :
    (ofMembers members).variant? room tag =
      some (t, ofMembers (members.filter fun m => m.1 != tag)) := by
  have shape (ms : List (String × Value)) :
      ofMembers ms = object (ms.map fun m => (some m.1, m.2)) := rfl
  have rest : (members.map fun m => (some m.1, m.2)).filter (fun m => m.1 != some tag) =
      (members.filter fun m => m.1 != tag).map fun m => (some m.1, m.2) := by
    rw [List.filter_map]
    rfl
  rw [shape] at whole ⊢
  rw [variant?, if_pos whole]
  simp [found, rest, shape]

theorem variant?_ofMembers {tag t : String} (apart : tag ∉ members.map Prod.fst)
    (keepable : ∀ m ∈ members, keepable room m.2 = true) :
    variant? (room + 1) tag (ofMembers ((tag, ofString t) :: members)) =
      some (t, ofMembers members) := by
  have whole : Value.keepable (room + 1) (ofMembers ((tag, ofString t) :: members)) = true := by
    simpa using keepable
  have found : member? tag (((tag, ofString t) :: members).map fun m => (some m.1, m.2)) =
      some (some (ofString t)) := by
    simp [member?, filter_ofMembers apart]
  have rest : ((tag, ofString t) :: members).filter (fun m => m.1 != tag) = members := by
    rw [List.filter_cons_of_neg (by simp)]
    exact List.filter_eq_self.mpr fun m mem => bne_iff_ne.mpr fun same =>
      apart (same ▸ List.mem_map_of_mem mem)
  rw [variant?_of_member? whole found, rest]

theorem list?_eq_some_iff {items : List Value} {as : List α} :
    (array items).list? read? = some as ↔
      List.Forall₂ (fun item a => read? item = some a) items as := mapM_eq_some_iff

theorem list?_map {write : α → Value} {items : List α}
    (back : ∀ a ∈ items, read? (write a) = some a) :
    (array (items.map write)).list? read? = some items :=
  list?_eq_some_iff.mpr (List.forall₂_map_left_iff.mpr (List.forall₂_same.mpr back))

end Storypath.Json.Value
