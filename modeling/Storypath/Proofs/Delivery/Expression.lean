import Storypath.Proofs.Delivery.Literal
import Storypath.Proofs.Text.Pattern

/-! The regular expressions of durations: one tells whether a text is a row of quantities, another
finds the quantities in it. They agree, although the spelling of one unit may be the front of that
of another, because the longer one is preferred. Main statement: which literals are durations, how
they are cut, and which fault each of the others has. -/
namespace Storypath

open Text (Pattern Match isDecimalDigit)
open Grammar (Maximal)
open Quantity (Spell)

namespace Duration

def digitPattern : Pattern := .one isDecimalDigit

def numberPattern : Pattern :=
  .either (.seq (.plus digitPattern) (.maybe (.seq (.text ['.']) (.many digitPattern))))
    (.seq (.text ['.']) (.plus digitPattern))

def unitPattern : Pattern :=
  .either (.text ['n', 's']) (.either (.text ['u', 's']) (.either (.text ['\u00b5', 's'])
    (.either (.text ['\u03bc', 's']) (.either (.text ['m', 's']) (.either (.text ['s'])
      (.either (.text ['m']) (.text ['h'])))))))

def shapePattern : Pattern := .plus (.seq numberPattern unitPattern)

def partPattern : Pattern := .seq (.group numberPattern) (.group unitPattern)

theorem reads_digits : (Pattern.many digitPattern).Reads fun t =>
    ∀ c ∈ t, isDecimalDigit c = true := by
  refine ((Pattern.reads_one isDecimalDigit).many (by simp)).congr fun t => ?_
  constructor
  · rintro ⟨pieces, single, rfl⟩ c mem
    obtain ⟨x, piece, mem⟩ := List.mem_flatten.mp mem
    obtain ⟨d, digit, rfl⟩ := single x piece
    rwa [List.mem_singleton.mp mem]
  · intro digits
    refine ⟨t.map fun c => [c], ?_, by simp [← List.flatMap_def]⟩
    simpa using digits

theorem reads_someDigits : (Pattern.plus digitPattern).Reads fun t =>
    t ≠ [] ∧ ∀ c ∈ t, isDecimalDigit c = true := by
  refine ((Pattern.reads_one isDecimalDigit).seq reads_digits).congr fun t => ?_
  constructor
  · rintro ⟨_, rest, ⟨c, digit, rfl⟩, digits, rfl⟩
    exact ⟨by simp, List.forall_mem_cons.mpr ⟨digit, digits⟩⟩
  · rintro ⟨nonempty, digits⟩
    obtain ⟨c, rest, rfl⟩ := List.exists_cons_of_ne_nil nonempty
    obtain ⟨digit, digits⟩ := List.forall_mem_cons.mp digits
    exact ⟨[c], rest, ⟨c, digit, rfl⟩, digits, rfl⟩

theorem reads_number : numberPattern.Reads fun t => ∃ whole fraction, Numeral whole fraction t := by
  have pointed := (Pattern.reads_text ['.']).seq reads_digits
  refine ((reads_someDigits.seq pointed.maybe).either
    ((Pattern.reads_text ['.']).seq reads_someDigits)).congr fun t => ?_
  constructor
  · rintro (⟨ds, _, ⟨nonempty, digits⟩, ⟨_, fs, rfl, digits', rfl⟩ | rfl, rfl⟩ |
      ⟨_, fs, rfl, ⟨nonempty, digits⟩, rfl⟩)
    · exact ⟨ds, fs, .pointed digits nonempty digits'⟩
    · exact ⟨ds, [], by simpa using Numeral.whole digits nonempty⟩
    · exact ⟨[], fs, .fraction digits nonempty⟩
  · rintro ⟨whole, fraction, numeral⟩
    cases numeral with
    | whole digits nonempty =>
      exact .inl ⟨t, [], ⟨nonempty, digits⟩, .inr rfl, by simp⟩
    | pointed digits nonempty digits' =>
      exact .inl ⟨whole, _, ⟨nonempty, digits⟩, .inl ⟨['.'], fraction, rfl, digits', rfl⟩, rfl⟩
    | fraction digits nonempty => exact .inr ⟨['.'], fraction, rfl, ⟨nonempty, digits⟩, rfl⟩

theorem reads_unit : unitPattern.Reads fun t => ∃ u : TimeUnit, t ∈ u.spellings := by
  have word := Pattern.reads_text
  refine ((word _).either ((word _).either ((word _).either ((word _).either ((word _).either
    ((word _).either ((word _).either (word _)))))))).congr fun t => ?_
  constructor
  · rintro (rfl | rfl | rfl | rfl | rfl | rfl | rfl | rfl)
    · exact ⟨.nanosecond, by simp [TimeUnit.spellings]⟩
    · exact ⟨.microsecond, by simp [TimeUnit.spellings]⟩
    · exact ⟨.microsecond, by simp [TimeUnit.spellings]⟩
    · exact ⟨.microsecond, by simp [TimeUnit.spellings]⟩
    · exact ⟨.millisecond, by simp [TimeUnit.spellings]⟩
    · exact ⟨.second, by simp [TimeUnit.spellings]⟩
    · exact ⟨.minute, by simp [TimeUnit.spellings]⟩
    · exact ⟨.hour, by simp [TimeUnit.spellings]⟩
  · rintro ⟨u, spelt⟩
    cases u <;> simp only [TimeUnit.spellings, List.mem_cons, List.not_mem_nil, or_false] at spelt
    case microsecond => rcases spelt with rfl | rfl | rfl <;> simp
    all_goals simp [spelt]

theorem reads_quantity : (Pattern.seq numberPattern unitPattern).Reads fun t =>
    ∃ q : Quantity, q.text = t := by
  refine (reads_number.seq reads_unit).congr fun t => ?_
  constructor
  · rintro ⟨number, unit, ⟨whole, fraction, numeral⟩, ⟨u, spelt⟩, rfl⟩
    exact ⟨⟨number, unit, ⟨whole, fraction, u⟩, numeral, spelt⟩, rfl⟩
  · rintro ⟨q, rfl⟩
    exact ⟨q.number, q.unit, ⟨_, _, q.numeral⟩, ⟨_, q.spelt⟩, rfl⟩

theorem reads_shape : shapePattern.Reads fun t => ∃ qs, Spell qs t := by
  have full : ¬ ∃ q : Quantity, q.text = [] := fun ⟨q, empty⟩ => q.text_ne_nil empty
  refine (reads_quantity.seq (reads_quantity.many full)).congr fun t => ?_
  constructor
  · rintro ⟨_, _, ⟨q, rfl⟩, ⟨pieces, told, rfl⟩, rfl⟩
    obtain ⟨qs, row⟩ : ∃ qs : List Quantity, qs.map Quantity.text = pieces := by
      induction pieces with
      | nil => exact ⟨[], rfl⟩
      | cons x pieces ih =>
        obtain ⟨⟨q', here⟩, later⟩ := List.forall_mem_cons.mp told
        obtain ⟨qs, row⟩ := ih later
        exact ⟨q' :: qs, by rw [List.map_cons, here, row]⟩
    exact ⟨q :: qs, by simp, by rw [List.flatMap_cons, List.flatMap_def, row]⟩
  · rintro ⟨qs, nonempty, rfl⟩
    obtain ⟨q, qs, rfl⟩ := List.exists_cons_of_ne_nil nonempty
    refine ⟨q.text, qs.flatMap Quantity.text, ⟨q, rfl⟩, ⟨qs.map Quantity.text, ?_, ?_⟩, by simp⟩
    · simp
    · rw [List.flatMap_def]

variable {rest : List Char}

theorem head?_ways_unit {u : TimeUnit} {t : List Char} (spelt : t ∈ u.spellings)
    (stops : ∀ c ∈ rest.head?, isNumeric c = true) :
    (unitPattern.ways (t ++ rest)).head? = some ⟨t, [], rest⟩ := by
  cases u <;> simp only [TimeUnit.spellings, List.mem_cons, List.not_mem_nil, or_false] at spelt
  case microsecond =>
    rcases spelt with rfl | rfl | rfl <;> simp [unitPattern, Pattern.ways]
  case minute =>
    subst spelt
    -- The millisecond is tried before the minute, and must not be read here.
    cases rest with
    | nil => simp [unitPattern, Pattern.ways]
    | cons c rest =>
      have other : 's' ≠ c := (TimeUnit.ne_of_isNumeric (stops c rfl)).symm
      simp [unitPattern, Pattern.ways, other]
  all_goals
    subst spelt
    simp [unitPattern, Pattern.ways]

/-- Where a text begins with a quantity, the quantity is found with its number and its unit: what is
read as a number in front of a unit goes as far as it can. -/
theorem head?_ways_part (q : Quantity) (stops : ∀ c ∈ rest.head?, isNumeric c = true) :
    (partPattern.ways (q.text ++ rest)).head? = some ⟨q.text, [q.number, q.unit], rest⟩ := by
  have unit : ((Pattern.group unitPattern).ways (q.unit ++ rest)).head? =
      some ⟨q.unit, [q.unit], rest⟩ := by
    rw [Pattern.ways, List.head?_map, head?_ways_unit q.spelt stops]
    rfl
  refine Pattern.head?_ways_seq ⟨⟨q.number, [q.number], q.unit ++ rest⟩, ?_, _, unit, rfl⟩ ?_
  · rw [reads_number.mem_ways_group]
    exact ⟨rfl, by simp [Quantity.text], _, _, q.numeral⟩
  · rintro ⟨number, groups, tail⟩ start b next
    obtain ⟨alone, whole, _, _, numeral⟩ := reads_number.mem_ways_group.mp start
    obtain rfl : groups = [number] := alone
    dsimp only at whole next
    -- What is read as a number has a unit behind it, and so it cannot go on.
    obtain ⟨-, rfl, u, spelt⟩ := reads_unit.mem_ways_group.mp (List.mem_of_head? next)
    rw [Quantity.text, List.append_assoc] at whole
    obtain rfl : number = q.number := numeral.eq_of_append q.numeral
      (TimeUnit.stops_of_spelling spelt b.rest) (TimeUnit.stops_of_spelling q.spelt rest) whole
    rw [List.append_cancel_left whole] at next
    obtain rfl := Option.some.inj (unit.symm.trans next)
    rfl

end Duration

def Quantity.found : List Quantity → List Match
  | [] => []
  | q :: qs => ⟨q.text, [q.number, q.unit], qs.flatMap text⟩ :: found qs

namespace Duration

theorem visits_texts (qs : List Quantity) :
    partPattern.visits (qs.flatMap Quantity.text) = Quantity.found qs := by
  induction qs with
  | nil =>
    refine Pattern.visits_nil (List.head?_eq_none_iff.mpr (List.eq_nil_iff_forall_not_mem.mpr ?_))
    intro m mem
    obtain ⟨a, start, -⟩ := Pattern.mem_ways_seq.mp mem
    obtain ⟨-, whole, _, _, numeral⟩ := reads_number.mem_ways_group.mp start
    exact numeral.ne_nil (List.append_eq_nil_iff.mp whole).1
  | cons q qs ih =>
    have first := head?_ways_part q (Quantity.stops_texts qs)
    have shorter : (qs.flatMap Quantity.text).length <
        (q.text ++ qs.flatMap Quantity.text).length := by
      have some_ := List.length_pos_iff.mpr q.text_ne_nil
      rw [List.length_append]
      omega
    rw [List.flatMap_cons, Pattern.visits_cons first shorter, ih, Quantity.found]

def RefusedFor (literal reason : String) : Prop :=
  ∃ fault, parse literal = .error fault ∧
    fault.message = "Invalid @wait duration \"" ++ literal ++ "\": " ++ reason ++ "."

section refused

variable {literal : String} {qs : List Quantity}

theorem literal_of_parse {fault : DurationFault} (refused : parse literal = .error fault) :
    fault.literal = literal := by
  unfold parse at refused
  repeat' split at refused
  all_goals cases refused
  all_goals rfl

theorem refusedFor_iff (flaw : DurationFlaw) :
    RefusedFor literal flaw.reason ↔ parse literal = .error ⟨literal, flaw⟩ := by
  constructor
  · rintro ⟨⟨literal', flaw'⟩, refused, told⟩
    obtain rfl : literal' = literal := literal_of_parse refused
    have same : flaw'.reason = flaw.reason := by
      have told : "Invalid @wait duration \"" ++ literal' ++ "\": " ++ flaw'.reason ++ "." =
        "Invalid @wait duration \"" ++ literal' ++ "\": " ++ flaw.reason ++ "." := told
      simpa using told
    have apart : flaw' = flaw := by
      cases flaw' <;> cases flaw <;> simp_all [DurationFlaw.reason]
    rw [refused, apart]
  · intro refused
    exact ⟨_, refused, rfl⟩

theorem parse_eq_shape_iff (other : unsigned literal ≠ ['0']) :
    parse literal = .error ⟨literal, .shape⟩ ↔ ¬ ∃ qs, Spell qs (unsigned literal) := by
  by_cases spelt : ∃ qs, Spell qs (unsigned literal)
  · obtain ⟨qs, spell⟩ := spelt
    refine iff_of_false (fun refused => ?_) fun none => none ⟨qs, spell⟩
    rw [parse_of_spell spell] at refused
    repeat' split at refused
    all_goals cases refused
  · refine iff_of_true ?_ spelt
    rw [parse, if_neg other, parts?_eq_none_iff.mpr spelt]

theorem parse_eq_number_iff (spell : Spell qs (unsigned literal)) :
    parse literal = .error ⟨literal, .number⟩ ↔
      ∃ q ∈ qs, ∃ c ∈ q.number, isDecimalDigit c = true ∧ c.isDigit = false := by
  have valueless : total? (qs.map Quantity.part) = none ↔
      ∃ q ∈ qs, ∃ c ∈ q.number, isDecimalDigit c = true ∧ c.isDigit = false := by
    simp only [total?_eq_none_iff, List.mem_map, DurationPart.nanoseconds?_eq_none_iff]
    constructor
    · rintro ⟨_, ⟨q, mem, rfl⟩, c, digit, other⟩
      obtain ⟨here, digit⟩ := (q.numeral.digit_iff c).mp digit
      exact ⟨q, mem, c, here, digit, other⟩
    · rintro ⟨q, mem, c, here, digit, other⟩
      exact ⟨_, ⟨q, mem, rfl⟩, c, (q.numeral.digit_iff c).mpr ⟨here, digit⟩, other⟩
  rw [← valueless, parse_of_spell spell]
  cases total? (qs.map Quantity.part) with
  | none => simp
  | some sum =>
    refine iff_of_false (fun refused => ?_) (by simp)
    dsimp only at refused
    repeat' split at refused
    all_goals cases refused

/-- What becomes of a literal whose bare text is a row of quantities. -/
structure Taken (literal : String) (u : List Char) (qs : List Quantity) : Prop where
  unique : ∀ qs', Spell qs' u → qs' = qs
  found : partPattern.visits u = Quantity.found qs
  parts : parts? u #[] = some (qs.map Quantity.part)
  number : RefusedFor literal "bad number" ↔
    ∃ q ∈ qs, ∃ c ∈ q.number, isDecimalDigit c = true ∧ c.isDigit = false
  others : ∀ fault, parse literal = .error fault →
    RefusedFor literal "bad number" ∨ RefusedFor literal "out of range"

theorem taken_of_spell (spell : Spell qs (unsigned literal)) :
    Taken literal (unsigned literal) qs where
  unique _ spell' := spell.unique spell'
  found := by rw [← spell.whole, visits_texts]
  parts := parts?_of_spell spell
  number := (refusedFor_iff .number).trans (parse_eq_number_iff spell)
  others := by
    rintro ⟨literal', flaw⟩ refused
    obtain rfl : literal' = literal := literal_of_parse refused
    cases flaw with
    | shape =>
      have other := (parse_eq_shape_iff (unsigned_ne_of_spell spell)).mp refused
      exact absurd ⟨qs, spell⟩ other
    | number => exact .inl ((refusedFor_iff .number).mpr refused)
    | range => exact .inr ((refusedFor_iff .range).mpr refused)

/-- A literal is zero, or a row of quantities, or refused for its shape. It is a row of quantities
just if it has the shape of one, and then what is found in it are these quantities. -/
theorem parse_grammar (literal : String) :
    ∃ u, (∀ v, Bare literal.toList v ↔ v = u) ∧
      (u = ['0'] → parse literal = .ok 0) ∧
      (u ≠ ['0'] →
        (RefusedFor literal "expected <number><unit> pairs" ↔ ¬ ∃ qs, Spell qs u)) ∧
      (shapePattern.accepts u = true ↔ ∃ qs, Spell qs u) ∧
      ∀ qs, Spell qs u → Taken literal u qs := by
  refine ⟨unsigned literal, fun v => bare_iff literal, fun zero => ?_, fun other => ?_,
    reads_shape.accepts_iff _, fun qs spell => taken_of_spell spell⟩
  · rw [parse, if_pos zero]
  · exact (refusedFor_iff .shape).trans (parse_eq_shape_iff other)

end refused

end Duration
end Storypath
