/-! Regular expressions. A text can be read in several ways, and of two ways an earlier alternative
and a longer repetition are preferred; a search takes the preferred way at the first place where
there is one. Main statements: what an expression reads is told by what its parts read. -/
namespace Storypath.Text

inductive Pattern where
  | one (accepts : Char → Bool)
  | text (cs : List Char)
  | seq (first second : Pattern)
  | either (first second : Pattern)
  | maybe (p : Pattern)
  | many (p : Pattern)
  | group (p : Pattern)

structure Match where
  read : List Char
  groups : List (List Char)
  rest : List Char
  deriving DecidableEq

namespace Match

def nothing (cs : List Char) : Match := ⟨[], [], cs⟩

def andThen (first second : Match) : Match :=
  ⟨first.read ++ second.read, first.groups ++ second.groups, second.rest⟩

def grouped (m : Match) : Match := { m with groups := m.read :: m.groups }

end Match

namespace Pattern

/-- All ways of reading the front of a text, the preferred ones first. A repetition goes on only
with something that was read. -/
def ways : Pattern → List Char → List Match
  | one _, [] => []
  | one accepts, c :: cs => if accepts c then [⟨[c], [], cs⟩] else []
  | text t, cs => if t.isPrefixOf cs then [⟨t, [], cs.drop t.length⟩] else []
  | seq p q, cs => (p.ways cs).flatMap fun m => (q.ways m.rest).map m.andThen
  | either p q, cs => p.ways cs ++ q.ways cs
  | maybe p, cs => p.ways cs ++ [.nothing cs]
  | many p, cs =>
    ((p.ways cs).flatMap fun m =>
      if m.rest.length < cs.length then ((many p).ways m.rest).map m.andThen else []) ++
        [.nothing cs]
  | group p, cs => (p.ways cs).map Match.grouped
termination_by p cs => (p, cs.length)

def plus (p : Pattern) : Pattern := seq p (many p)

def accepts (p : Pattern) (cs : List Char) : Bool := (p.ways cs).any fun m => m.rest.isEmpty

def find? (p : Pattern) : List Char → Option Match
  | [] => (p.ways []).head?
  | c :: cs =>
    match (p.ways (c :: cs)).head? with
    | some m => some m
    | none => p.find? cs

/-- What is found in a text, each search going on behind what was found last, as long as something
is read. -/
def visits (p : Pattern) (cs : List Char) : List Match :=
  match p.find? cs with
  | none => []
  | some m => if m.rest.length < cs.length then m :: p.visits m.rest else []
termination_by cs.length

/-- An expression without groups that reads just the texts with a property. -/
def Reads (p : Pattern) (Told : List Char → Prop) : Prop :=
  ∀ cs m, m ∈ p.ways cs ↔ m.groups = [] ∧ m.read ++ m.rest = cs ∧ Told m.read

section reads

variable {p q : Pattern} {Told Told' : List Char → Prop}

theorem Reads.congr (reads : p.Reads Told) (same : ∀ t, Told t ↔ Told' t) : p.Reads Told' :=
  fun cs m => by rw [reads cs m, same]

theorem reads_one (accepts : Char → Bool) :
    (one accepts).Reads fun t => ∃ c, accepts c = true ∧ t = [c] := by
  rintro cs ⟨read, groups, rest⟩
  cases cs with
  | nil =>
    rw [ways]
    refine iff_of_false List.not_mem_nil ?_
    rintro ⟨-, whole, c, -, rfl⟩
    simp at whole
  | cons c cs =>
    rw [ways]
    by_cases fits : accepts c = true
    · simp only [fits, if_true, List.mem_singleton, Match.mk.injEq]
      constructor
      · rintro ⟨rfl, rfl, rfl⟩
        exact ⟨rfl, rfl, c, fits, rfl⟩
      · rintro ⟨rfl, whole, c', -, rfl⟩
        obtain ⟨rfl, rfl⟩ := List.cons.inj whole
        exact ⟨rfl, rfl, rfl⟩
    · rw [if_neg fits]
      refine iff_of_false List.not_mem_nil ?_
      rintro ⟨-, whole, c', fits', rfl⟩
      obtain ⟨rfl, -⟩ := List.cons.inj whole
      exact fits fits'

theorem reads_text (t : List Char) : (text t).Reads (· = t) := by
  rintro cs ⟨read, groups, rest⟩
  rw [ways]
  by_cases front : t.isPrefixOf cs = true
  · obtain ⟨rest', rfl⟩ := List.isPrefixOf_iff_prefix.mp front
    simp only [front, if_true, List.drop_left, List.mem_singleton, Match.mk.injEq]
    constructor
    · rintro ⟨rfl, rfl, rfl⟩
      exact ⟨rfl, rfl, rfl⟩
    · rintro ⟨rfl, whole, rfl⟩
      exact ⟨rfl, rfl, List.append_cancel_left whole⟩
  · rw [if_neg front]
    refine iff_of_false List.not_mem_nil ?_
    rintro ⟨-, whole, rfl⟩
    exact front (List.isPrefixOf_iff_prefix.mpr ⟨rest, whole⟩)

theorem mem_ways_seq {cs : List Char} {m : Match} :
    m ∈ (seq p q).ways cs ↔ ∃ a ∈ p.ways cs, ∃ b ∈ q.ways a.rest, a.andThen b = m := by
  rw [ways]
  simp only [List.mem_flatMap, List.mem_map]

theorem mem_ways_many {cs : List Char} {m : Match} :
    m ∈ (many p).ways cs ↔
      (∃ a ∈ p.ways cs, a.rest.length < cs.length ∧
        ∃ b ∈ (many p).ways a.rest, a.andThen b = m) ∨ m = .nothing cs := by
  rw [ways, List.mem_append, List.mem_singleton, List.mem_flatMap]
  refine or_congr_left (exists_congr fun a => and_congr_right fun _ => ?_)
  by_cases shorter : a.rest.length < cs.length <;> simp [shorter]

theorem Reads.seq (first : p.Reads Told) (second : q.Reads Told') :
    (seq p q).Reads fun t => ∃ a b, Told a ∧ Told' b ∧ t = a ++ b := by
  rintro cs ⟨read, groups, rest⟩
  rw [mem_ways_seq]
  constructor
  · rintro ⟨a, here, b, there, same⟩
    obtain ⟨rfl, rfl, rfl⟩ := Match.mk.inj same
    obtain ⟨none_a, rfl, told⟩ := (first cs a).mp here
    obtain ⟨none_b, whole, told'⟩ := (second _ b).mp there
    exact ⟨by simp [none_a, none_b], by simp [whole], a.read, b.read, told, told', rfl⟩
  · rintro ⟨rfl, rfl, a, b, told, told', rfl⟩
    refine ⟨⟨a, [], b ++ rest⟩, (first _ _).mpr ⟨rfl, by simp, told⟩, ⟨b, [], rest⟩, ?_, rfl⟩
    exact (second _ _).mpr ⟨rfl, rfl, told'⟩

theorem Reads.either (first : p.Reads Told) (second : q.Reads Told') :
    (either p q).Reads fun t => Told t ∨ Told' t := by
  intro cs m
  rw [ways, List.mem_append, first cs m, second cs m]
  simp only [and_or_left]

theorem Reads.maybe (reads : p.Reads Told) : (maybe p).Reads fun t => Told t ∨ t = [] := by
  rintro cs ⟨read, groups, rest⟩
  rw [ways, List.mem_append, List.mem_singleton, reads cs]
  simp only [Match.nothing, Match.mk.injEq, and_or_left]
  refine or_congr_right ⟨?_, ?_⟩
  · rintro ⟨rfl, rfl, rfl⟩
    exact ⟨rfl, rfl, rfl⟩
  · rintro ⟨rfl, rfl, rfl⟩
    exact ⟨rfl, rfl, rfl⟩

theorem Reads.many (reads : p.Reads Told) (full : ¬ Told []) :
    (many p).Reads fun t => ∃ pieces : List (List Char), (∀ x ∈ pieces, Told x) ∧
      t = pieces.flatten := by
  have sound (length : Nat) : ∀ cs m, cs.length ≤ length → m ∈ (Pattern.many p).ways cs →
      m.groups = [] ∧ m.read ++ m.rest = cs ∧
        ∃ pieces : List (List Char), (∀ x ∈ pieces, Told x) ∧ m.read = pieces.flatten := by
    induction length with
    | zero =>
      intro cs m short mem
      obtain ⟨a, -, shorter, -⟩ | rfl := mem_ways_many.mp mem
      · omega
      · exact ⟨rfl, rfl, [], by simp, rfl⟩
    | succ length ih =>
      intro cs m short mem
      obtain ⟨a, here, shorter, b, there, rfl⟩ | rfl := mem_ways_many.mp mem
      · obtain ⟨none_a, rfl, told⟩ := (reads cs a).mp here
        obtain ⟨none_b, whole, pieces, tells, row⟩ := ih a.rest b (by omega) there
        refine ⟨by simp [Match.andThen, none_a, none_b], by simp [Match.andThen, whole],
          a.read :: pieces, List.forall_mem_cons.mpr ⟨told, tells⟩, ?_⟩
        simp [Match.andThen, row]
      · exact ⟨rfl, rfl, [], by simp, rfl⟩
  rintro cs ⟨read, groups, rest⟩
  refine ⟨fun mem => sound cs.length cs _ (Nat.le_refl _) mem, ?_⟩
  rintro ⟨rfl, rfl, pieces, tells, rfl⟩
  induction pieces with
  | nil => exact mem_ways_many.mpr (.inr rfl)
  | cons x pieces ih =>
    obtain ⟨told, tells⟩ := List.forall_mem_cons.mp tells
    have some_ : 0 < x.length := List.length_pos_iff.mpr fun none => full (none ▸ told)
    refine mem_ways_many.mpr (.inl ⟨⟨x, [], pieces.flatten ++ rest⟩, ?_, ?_, _, ih tells, rfl⟩)
    · exact (reads _ _).mpr ⟨rfl, by simp, told⟩
    · simp only [List.length_append, List.flatten_cons]
      omega

theorem Reads.mem_ways_group (reads : p.Reads Told) {cs : List Char} {m : Match} :
    m ∈ (group p).ways cs ↔ m.groups = [m.read] ∧ m.read ++ m.rest = cs ∧ Told m.read := by
  rw [ways, List.mem_map]
  constructor
  · rintro ⟨m, mem, rfl⟩
    obtain ⟨none, whole, told⟩ := (reads cs m).mp mem
    exact ⟨by simp [Match.grouped, none], whole, told⟩
  · rintro ⟨alone, whole, told⟩
    refine ⟨⟨m.read, [], m.rest⟩, (reads cs _).mpr ⟨rfl, whole, told⟩, ?_⟩
    rw [Match.grouped, ← alone]

theorem Reads.accepts_iff (reads : p.Reads Told) (cs : List Char) :
    p.accepts cs = true ↔ Told cs := by
  simp only [accepts, List.any_eq_true, List.isEmpty_iff]
  constructor
  · rintro ⟨m, mem, ended⟩
    obtain ⟨-, rfl, told⟩ := (reads cs m).mp mem
    rwa [ended, List.append_nil]
  · intro told
    exact ⟨⟨cs, [], []⟩, (reads cs _).mpr ⟨rfl, List.append_nil cs, told⟩, rfl⟩

end reads

section visits

variable {p q : Pattern} {cs : List Char} {m : Match}

/-- The preferred way of reading one thing after another, where each way of reading the first leads
nowhere or to the same. -/
theorem head?_ways_seq (reached : ∃ a ∈ p.ways cs, ∃ b, (q.ways a.rest).head? = some b ∧
      a.andThen b = m)
    (only : ∀ a ∈ p.ways cs, ∀ b, (q.ways a.rest).head? = some b → a.andThen b = m) :
    ((seq p q).ways cs).head? = some m := by
  rw [ways]
  generalize p.ways cs = starts at reached only
  induction starts with
  | nil => simp at reached
  | cons a starts ih =>
    obtain ⟨here, later⟩ := List.forall_mem_cons.mp only
    rw [List.flatMap_cons, List.head?_append, List.head?_map]
    cases next : (q.ways a.rest).head? with
    | some b => simp [here b next]
    | none =>
      refine ih ?_ later
      obtain ⟨a', mem, reached⟩ := reached
      obtain rfl | mem := List.mem_cons.mp mem
      · simp [next] at reached
      · exact ⟨a', mem, reached⟩

theorem visits_nil (found : p.find? cs = none) : p.visits cs = [] := by
  rw [visits, found]

theorem visits_cons (first : (p.ways cs).head? = some m) (shorter : m.rest.length < cs.length) :
    p.visits cs = m :: p.visits m.rest := by
  have found : p.find? cs = some m := by
    cases cs with
    | nil => simp at shorter
    | cons c cs => rw [find?, first]
  rw [visits, found]
  exact if_pos shorter

end visits

end Pattern
end Storypath.Text
