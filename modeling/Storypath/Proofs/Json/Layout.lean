import Mathlib
import Storypath.Proofs.Json.Record

/-! Records in any layout. The members of an object may come in any order, with others among them
whose keys are not known there; what is read is the same. A known key that is repeated makes
reading fail, whatever else there is. -/
namespace Storypath.Json.Value

/-- A value that is passed over under an unknown key: no other values lie in it, and a number is
within range, as all those below 10^308 are. -/
inductive Plain : Value → Prop
  | null : Plain .null
  | bool (b : Bool) : Plain (.bool b)
  | string (s : String) : Plain (ofString s)
  | number {n : Number} (finite : n.inRange = true) : Plain (.number n)

/-- A record in some layout: its members come in any order, and among them come others whose
keys are not known there. -/
inductive LaidOut (keys : List String) (known : List (String × Value)) : Value → Prop
  | intro {members others : List (String × Value)} (unknown : ∀ m ∈ others, m.1 ∉ keys)
      (plain : ∀ m ∈ others, Plain m.2) (perm : members.Perm (known ++ others)) :
      LaidOut keys known (ofMembers members)

variable {keys : List String} {known : List (String × Value)} {k tag t : String} {v : Value}
  {room : Nat} {α : Type} {read? : Value → Option α}

theorem Plain.keepable (plain : Plain v) (room : Nat) : keepable room v = true := by
  cases plain with
  | number finite => cases room <;> exact finite
  | _ => cases room <;> rfl

theorem LaidOut.refl (keys : List String) (known : List (String × Value)) :
    LaidOut keys known (ofMembers known) :=
  .intro (List.forall_mem_nil _) (List.forall_mem_nil _) (by simp)

theorem LaidOut.keepable (laid : LaidOut keys known v)
    (each : ∀ m ∈ known, keepable room m.2 = true) : Value.keepable (room + 1) v = true := by
  obtain @⟨members, others, -, plain, perm⟩ := laid
  rw [keepable_ofMembers]
  intro m mem
  rcases List.mem_append.mp (perm.mem_iff.mp mem) with mem | mem
  · exact each m mem
  · exact (plain m mem).keepable room

theorem filter_eq_lookup (distinct : (known.map Prod.fst).Nodup) (k : String) :
    (known.map fun m => (some m.1, m.2)).filter (fun m => m.1 == some k) =
      (known.lookup k).toList.map fun v => (some k, v) := by
  induction known with
  | nil => rfl
  | cons m known ih =>
    obtain ⟨key, v⟩ := m
    obtain ⟨fresh, distinct⟩ := List.nodup_cons.mp distinct
    rw [List.map_cons, List.filter_cons, List.lookup_cons]
    by_cases same : k = key
    · subst same
      simp [filter_ofMembers fresh]
    · have ne : (k == key) = false := by simpa using same
      have ne' : (some key == some k) = false := by simpa using Ne.symm same
      simp [ne, ne', ih distinct]

/-- Under a known key is found what is known under it, in any order and whatever else there is. -/
theorem member?_of_perm {members others : List (String × Value)}
    (unknown : ∀ m ∈ others, m.1 ∉ keys) (perm : members.Perm (known ++ others))
    (distinct : (known.map Prod.fst).Nodup) (mem : k ∈ keys) :
    Value.member? k (members.map fun m => (some m.1, m.2)) = some (known.lookup k) := by
  have apart : k ∉ others.map Prod.fst := fun there => by
    obtain ⟨m, inside, rfl⟩ := List.mem_map.mp there
    exact unknown m inside mem
  have found := (perm.map fun m : String × Value => (some m.1, m.2)).filter
    fun m => m.1 == some k
  rw [List.map_append, List.filter_append, filter_ofMembers apart, List.append_nil,
    filter_eq_lookup distinct] at found
  unfold Value.member?
  cases value : known.lookup k with
  | none =>
    rw [value, Option.toList_none, List.map_nil] at found
    rw [found.eq_nil]
  | some v =>
    rw [value, Option.toList_some, List.map_singleton] at found
    rw [List.perm_singleton.mp found]

theorem LaidOut.fields? (laid : LaidOut keys known v) (distinct : (known.map Prod.fst).Nodup) :
    v.fields? keys = some (keys.map fun k => known.lookup k) := by
  obtain @⟨members, others, unknown, -, perm⟩ := laid
  refine fields?_of_forall₂ (List.forall₂_map_right_iff.mpr (List.forall₂_same.mpr ?_))
  exact fun k mem => member?_of_perm unknown perm distinct mem

theorem LaidOut.variant? (laid : LaidOut (tag :: keys) ((tag, ofString t) :: known) v)
    (room : Nat) (distinct : (tag :: known.map Prod.fst).Nodup)
    (each : ∀ m ∈ known, Value.keepable room m.2 = true) :
    ∃ rest, v.variant? (room + 1) tag = some (t, rest) ∧ LaidOut keys known rest := by
  have whole : Value.keepable (room + 1) v = true := laid.keepable (by simpa using each)
  obtain @⟨members, others, unknown, plain, perm⟩ := laid
  have found := member?_of_perm unknown perm (by simpa using distinct) (List.mem_cons_self ..)
  rw [List.lookup_cons_self] at found
  refine ⟨_, variant?_of_member? whole found, ?_⟩
  have kept : (others.filter fun m => m.1 != tag) = others :=
    List.filter_eq_self.mpr fun m mem => bne_iff_ne.mpr fun same =>
      unknown m mem (same ▸ List.mem_cons_self ..)
  have kept' : (known.filter fun m => m.1 != tag) = known :=
    List.filter_eq_self.mpr fun m mem => bne_iff_ne.mpr fun same =>
      (List.nodup_cons.mp distinct).1 (same ▸ List.mem_map_of_mem mem)
  refine .intro (fun m mem known => unknown m mem (List.mem_cons_of_mem _ known)) plain ?_
  simpa [List.filter_append, kept, kept'] using perm.filter fun m => m.1 != tag

theorem lookup_filter (left : List String) (known : List (String × Value)) (k : String) :
    (known.filter fun m => m.1 ∉ left).lookup k = if k ∈ left then none else known.lookup k := by
  induction known with
  | nil => simp
  | cons m known ih =>
    obtain ⟨key, v⟩ := m
    by_cases same : k = key
    · subst same
      by_cases gone : k ∈ left
      · rw [List.filter_cons_of_neg (by simpa using gone), ih, if_pos gone, if_pos gone]
      · rw [List.filter_cons_of_pos (by simpa using gone), List.lookup_cons_self,
          List.lookup_cons_self, if_neg gone]
    · have ne : (k == key) = false := by simpa using same
      have skip (l : List (String × Value)) : ((key, v) :: l).lookup k = l.lookup k := by
        rw [List.lookup_cons, ne]
      by_cases gone : key ∈ left
      · rw [List.filter_cons_of_neg (by simpa using gone), ih, skip]
      · rw [List.filter_cons_of_pos (by simpa using gone), skip, skip, ih]

theorem mapM_eq_none {β : Type} {f : α → Option β} {a : α} {as : List α} (mem : a ∈ as)
    (none_ : f a = none) : as.mapM f = none := by
  induction as with
  | nil => simp at mem
  | cons b as ih =>
    rcases List.mem_cons.mp mem with rfl | mem
    · simp [List.mapM_cons, none_]
    · simp [List.mapM_cons, ih mem]

theorem list?_eq_none {items : List Value} {item : Value} (mem : item ∈ items)
    (none_ : read? item = none) : (array items).list? read? = none := mapM_eq_none mem none_

def Twice (k : String) (members : List (Option String × Value)) : Prop :=
  ∃ v w, [(some k, v), (some k, w)].Sublist members

variable {members : List (Option String × Value)}

theorem Twice.filter (twice : Twice k members) {p : Option String × Value → Bool}
    (kept : ∀ v, p (some k, v) = true) : Twice k (members.filter p) := by
  obtain ⟨v, w, part⟩ := twice
  refine ⟨v, w, ?_⟩
  simpa [List.filter_cons, kept] using part.filter p

theorem Twice.member? (twice : Twice k members) : Value.member? k members = none := by
  obtain ⟨v, w, part⟩ := twice.filter (p := fun m => m.1 == some k) (by simp)
  have two := part.length_le
  unfold Value.member?
  generalize (members.filter fun m => m.1 == some k) = found at two ⊢
  rcases found with _ | ⟨first, _ | ⟨second, more⟩⟩
  · simp at two
  · simp at two
  · rfl

theorem Twice.fields? (twice : Twice k members) (mem : k ∈ keys) :
    (object members).fields? keys = none := by
  simp only [Value.fields?]
  split
  · exact mapM_eq_none mem twice.member?
  · rfl

theorem forall₂_of_fields? {fields : List (Option Value)}
    (read : (object members).fields? keys = some fields) :
    List.Forall₂ (fun k field => Value.member? k members = some field) keys fields := by
  simp only [fields?] at read
  split at read
  · exact mapM_eq_some_iff.mp read
  · simp at read

theorem eq_of_member? {field : Option Value} {w : Value}
    (found : Value.member? k members = some field) (mem : (some k, w) ∈ members) :
    field = some w := by
  have inside : (some k, w) ∈ members.filter fun m => m.1 == some k :=
    List.mem_filter.mpr ⟨mem, beq_self_eq_true (some k)⟩
  unfold Value.member? at found
  generalize (members.filter fun m => m.1 == some k) = those at found inside
  rcases those with _ | ⟨first, _ | ⟨second, more⟩⟩
  · simp at inside
  · obtain rfl := List.mem_singleton.mp inside
    exact (Option.some.inj found).symm
  · simp at found

theorem variant?_object {rest : Value}
    (read : (object members).variant? room tag = some (t, rest)) :
    Value.member? tag members = some (some (ofString t)) ∧
      rest = object (members.filter fun m => m.1 != some tag) := by
  simp only [variant?] at read
  split at read
  · rcases found : Value.member? tag members with _ | _ | v
    · simp [found] at read
    · simp [found] at read
    · rcases v with _ | _ | _ | (_ | s) | _ | _ <;> simp [found, text?] at read
      obtain ⟨rfl, rfl⟩ := read
      exact ⟨rfl, rfl⟩
  · simp at read

end Storypath.Json.Value
