import Storypath.Delivery.Duration
import Storypath.Proofs.Text.Maximal

/-! How durations are written: a row of quantities, each of them a number with a unit behind it.
Numbers and units have no characters in common, so that a row can be cut in one way only. Main
statement: what is read as parts are just the rows of quantities, and the parts are what these
mean. -/
namespace Storypath

open Text (isDecimalDigit)
open Grammar (Maximal maximal_takeWhile)

def TimeUnit.spellings : TimeUnit → List (List Char)
  | .nanosecond => [['n', 's']]
  | .microsecond => [['u', 's'], ['\u00b5', 's'], ['\u03bc', 's']]
  | .millisecond => [['m', 's']]
  | .second => [['s']]
  | .minute => [['m']]
  | .hour => [['h']]

inductive Numeral : List Char → List Char → List Char → Prop
  | whole {ds : List Char} (digits : ∀ d ∈ ds, isDecimalDigit d = true) (nonempty : ds ≠ []) :
    Numeral ds [] ds
  | pointed {ds fs : List Char} (digits : ∀ d ∈ ds, isDecimalDigit d = true) (nonempty : ds ≠ [])
    (digits' : ∀ d ∈ fs, isDecimalDigit d = true) : Numeral ds fs (ds ++ '.' :: fs)
  | fraction {fs : List Char} (digits : ∀ d ∈ fs, isDecimalDigit d = true)
    (nonempty : fs ≠ []) : Numeral [] fs ('.' :: fs)

/-- A number and a unit as they are written, and the part of a duration that they mean. -/
structure Quantity where
  number : List Char
  unit : List Char
  part : DurationPart
  numeral : Numeral part.whole part.fraction number
  spelt : unit ∈ part.unit.spellings

def isNumeric (c : Char) : Bool := isDecimalDigit c || c == '.'

theorem isNumeric_of_digit {c : Char} (digit : isDecimalDigit c = true) : isNumeric c = true := by
  simp [isNumeric, digit]

theorem isDecimalDigit_point : isDecimalDigit '.' = false := by decide +kernel

section numeral

variable {whole fraction number : List Char}

theorem Numeral.ne_nil (numeral : Numeral whole fraction number) : number ≠ [] := by
  cases numeral with
  | whole _ nonempty => exact nonempty
  | pointed | fraction => simp

theorem Numeral.fraction_ne_nil (numeral : Numeral whole fraction number) (none : whole = []) :
    fraction ≠ [] := by
  cases numeral with
  | whole _ nonempty | pointed _ nonempty => exact absurd none nonempty
  | fraction _ nonempty => exact nonempty

theorem Numeral.isNumeric (numeral : Numeral whole fraction number) :
    ∀ c ∈ number, isNumeric c = true := by
  cases numeral with
  | whole digits => exact fun c mem => isNumeric_of_digit (digits c mem)
  | pointed digits _ digits' =>
    intro c mem
    rcases List.mem_append.mp mem with mem | mem
    · exact isNumeric_of_digit (digits c mem)
    · rcases List.mem_cons.mp mem with rfl | mem
      · rfl
      · exact isNumeric_of_digit (digits' c mem)
  | fraction digits =>
    intro c mem
    rcases List.mem_cons.mp mem with rfl | mem
    · rfl
    · exact isNumeric_of_digit (digits c mem)

/-- A text begins with one number at most that neither a digit nor a point comes behind. -/
theorem Numeral.eq_of_append {whole' fraction' number' tail tail' : List Char}
    (numeral : Numeral whole fraction number) (numeral' : Numeral whole' fraction' number')
    (stops : ∀ c ∈ tail.head?, Storypath.isNumeric c = false)
    (stops' : ∀ c ∈ tail'.head?, Storypath.isNumeric c = false)
    (same : number ++ tail = number' ++ tail') : number = number' := by
  have run : Maximal (fun c => Storypath.isNumeric c = true) number tail :=
    ⟨numeral.isNumeric, fun c first => by simp [stops c first]⟩
  have run' : Maximal (fun c => Storypath.isNumeric c = true) number' tail' :=
    ⟨numeral'.isNumeric, fun c first => by simp [stops' c first]⟩
  rw [← run.takeWhile fun _ => .rfl, same, run'.takeWhile fun _ => .rfl]

theorem Numeral.digit_iff (numeral : Numeral whole fraction number) (c : Char) :
    c ∈ whole ++ fraction ↔ c ∈ number ∧ isDecimalDigit c = true := by
  cases numeral with
  | whole digits =>
    rw [List.append_nil]
    exact ⟨fun mem => ⟨mem, digits c mem⟩, And.left⟩
  | pointed digits _ digits' =>
    simp only [List.mem_append, List.mem_cons]
    refine ⟨fun mem => ⟨mem.imp_right .inr, mem.elim (digits c) (digits' c)⟩, ?_⟩
    rintro ⟨mem | rfl | mem, digit⟩
    · exact .inl mem
    · simp [isDecimalDigit_point] at digit
    · exact .inr mem
  | fraction digits =>
    simp only [List.nil_append, List.mem_cons]
    refine ⟨fun mem => ⟨.inr mem, digits c mem⟩, ?_⟩
    rintro ⟨rfl | mem, digit⟩
    · simp [isDecimalDigit_point] at digit
    · exact mem

end numeral

namespace TimeUnit

variable {u : TimeUnit} {t rest : List Char}

theorem ne_nil_of_spelling (spelt : t ∈ u.spellings) : t ≠ [] := by
  rintro rfl
  cases u <;> simp [spellings] at spelt

theorem not_isNumeric_of_spelling (spelt : t ∈ u.spellings) : ∀ c ∈ t, isNumeric c = false := by
  have letters : (['n', 's', 'u', '\u00b5', '\u03bc', 'm', 'h'].all fun c => !isNumeric c) =
      true := by decide +kernel
  simp only [List.all_eq_true, Bool.not_eq_true'] at letters
  refine fun c mem => letters c ?_
  cases u <;> simp only [spellings, List.mem_cons, List.not_mem_nil, or_false] at spelt ⊢
  case microsecond =>
    rcases spelt with rfl | rfl | rfl <;> simp only [List.mem_cons, List.not_mem_nil] at mem <;>
      grind
  all_goals
    subst spelt
    simp only [List.mem_cons, List.not_mem_nil] at mem
    grind

theorem ne_of_isNumeric {c : Char} (numeric : isNumeric c = true) : c ≠ 's' := by
  rintro rfl
  have letter := not_isNumeric_of_spelling (u := .second) (List.mem_singleton_self _) 's'
  simp [letter] at numeric

theorem stops_of_spelling (spelt : t ∈ u.spellings) (rest : List Char) :
    ∀ c ∈ (t ++ rest).head?, isNumeric c = false := by
  intro c first
  rw [List.head?_append, Option.or_of_isSome] at first
  · exact not_isNumeric_of_spelling spelt c (List.mem_of_head? first)
  · exact List.isSome_head?.mpr (ne_nil_of_spelling spelt)

theorem read?_spelling (spelt : t ∈ u.spellings) (stops : ∀ c ∈ rest.head?, isNumeric c = true) :
    read? (t ++ rest) = some (u, rest) := by
  cases u <;> simp only [spellings, List.mem_cons, List.not_mem_nil, or_false] at spelt
  case microsecond => rcases spelt with rfl | rfl | rfl <;> rfl
  case minute =>
    subst spelt
    -- The spelling of the minute is the front of that of the millisecond.
    cases rest with
    | nil => rfl
    | cons c rest => simp [read?, ne_of_isNumeric (stops c rfl)]
  all_goals
    subst spelt
    rfl

theorem exists_spelling {cs : List Char} (read : read? cs = some (u, rest)) :
    ∃ t ∈ u.spellings, cs = t ++ rest := by
  unfold read? at read
  split at read <;> simp only [Option.some.injEq, Prod.mk.injEq, reduceCtorEq] at read <;>
    obtain ⟨rfl, rfl⟩ := read <;> simp [spellings]

end TimeUnit

namespace DurationPart

variable {whole fraction number cs tail : List Char}

theorem readFraction_of_ne (other : ∀ c ∈ cs.head?, c ≠ '.') : readFraction cs = ([], cs) := by
  cases cs with
  | nil => rfl
  | cons c cs => simp [readFraction, other c rfl]

theorem readFraction_numeral (numeral : Numeral whole fraction number)
    (stops : ∀ c ∈ tail.head?, isNumeric c = false) :
    (number ++ tail).takeWhile isDecimalDigit = whole ∧
      readFraction ((number ++ tail).dropWhile isDecimalDigit) = (fraction, tail) := by
  have behind : ∀ c ∈ tail.head?, ¬ isDecimalDigit c = true := fun c first digit => by
    simpa [isNumeric_of_digit digit] using stops c first
  cases numeral with
  | whole digits =>
    have run : Maximal (fun c => isDecimalDigit c = true) whole tail := ⟨digits, behind⟩
    rw [run.takeWhile fun _ => .rfl, run.dropWhile fun _ => .rfl]
    refine ⟨rfl, readFraction_of_ne fun c first => ?_⟩
    rintro rfl
    simpa [isNumeric] using stops '.' first
  | pointed digits _ digits' =>
    have run : Maximal (fun c => isDecimalDigit c = true) whole ('.' :: fraction ++ tail) :=
      ⟨digits, by simp [isDecimalDigit_point]⟩
    have run' : Maximal (fun c => isDecimalDigit c = true) fraction tail := ⟨digits', behind⟩
    rw [List.append_assoc, run.takeWhile fun _ => .rfl, run.dropWhile fun _ => .rfl,
      List.cons_append, readFraction, run'.takeWhile fun _ => .rfl, run'.dropWhile fun _ => .rfl]
    exact ⟨rfl, rfl⟩
  | fraction digits =>
    have run : Maximal (fun c => isDecimalDigit c = true) [] ('.' :: fraction ++ tail) :=
      ⟨by simp, by simp [isDecimalDigit_point]⟩
    have run' : Maximal (fun c => isDecimalDigit c = true) fraction tail := ⟨digits, behind⟩
    rw [← List.nil_append ('.' :: fraction ++ tail), run.takeWhile fun _ => .rfl,
      run.dropWhile fun _ => .rfl, List.cons_append, readFraction, run'.takeWhile fun _ => .rfl,
      run'.dropWhile fun _ => .rfl]
    exact ⟨rfl, rfl⟩

theorem exists_numeral (read : readFraction (cs.dropWhile isDecimalDigit) = (fraction, tail))
    (nonempty : cs.takeWhile isDecimalDigit = [] → fraction ≠ []) :
    ∃ number, Numeral (cs.takeWhile isDecimalDigit) fraction number ∧ cs = number ++ tail := by
  have digits (cs : List Char) : ∀ d ∈ cs.takeWhile isDecimalDigit, isDecimalDigit d = true :=
    (maximal_takeWhile (fun _ => .rfl) cs).within
  have split := List.takeWhile_append_dropWhile (p := isDecimalDigit) (l := cs)
  have first := digits cs
  generalize cs.takeWhile isDecimalDigit = ds at split first nonempty ⊢
  generalize cs.dropWhile isDecimalDigit = behind at split read
  subst split
  unfold readFraction at read
  split at read
  · next rest =>
    obtain ⟨rfl, rfl⟩ := Prod.mk.inj read
    have split' := List.takeWhile_append_dropWhile (p := isDecimalDigit) (l := rest)
    by_cases none : ds = []
    · subst none
      exact ⟨_, .fraction (digits rest) (nonempty rfl), by simp [split']⟩
    · exact ⟨_, .pointed first none (digits rest), by simp [split']⟩
  · obtain ⟨rfl, rfl⟩ := Prod.mk.inj read
    exact ⟨ds, .whole first fun none => nonempty none rfl, rfl⟩

end DurationPart

namespace Quantity

variable {rest rest' : List Char}

def text (q : Quantity) : List Char := q.number ++ q.unit

theorem stops_texts (qs : List Quantity) :
    ∀ c ∈ (qs.flatMap text).head?, isNumeric c = true := by
  cases qs with
  | nil => simp
  | cons q qs =>
    intro c first
    rw [List.flatMap_cons, text, List.append_assoc, List.head?_append, Option.or_of_isSome] at first
    · exact q.numeral.isNumeric c (List.mem_of_head? first)
    · exact List.isSome_head?.mpr q.numeral.ne_nil

theorem read?_text (q : Quantity) (stops : ∀ c ∈ rest.head?, isNumeric c = true) :
    DurationPart.read? (q.text ++ rest) = some (q.part, rest) := by
  obtain ⟨whole, fraction⟩ :=
    DurationPart.readFraction_numeral q.numeral (TimeUnit.stops_of_spelling q.spelt rest)
  have some_ : (q.part.whole.isEmpty && q.part.fraction.isEmpty) = false := by
    simpa using q.numeral.fraction_ne_nil
  simp only [text, List.append_assoc, DurationPart.read?, whole, fraction]
  simp [some_, TimeUnit.read?_spelling q.spelt stops]

theorem exists_of_read? {cs : List Char} {p : DurationPart}
    (read : DurationPart.read? cs = some (p, rest)) :
    ∃ q : Quantity, q.part = p ∧ cs = q.text ++ rest := by
  rcases behind : DurationPart.readFraction (cs.dropWhile isDecimalDigit) with ⟨fraction, tail⟩
  simp only [DurationPart.read?, behind] at read
  split at read
  · simp at read
  next nonempty =>
  obtain ⟨⟨u, rest⟩, unit, same⟩ := Option.map_eq_some_iff.mp read
  obtain ⟨rfl, rfl⟩ := Prod.mk.inj same
  obtain ⟨number, numeral, whole⟩ := DurationPart.exists_numeral behind (by simpa using nonempty)
  obtain ⟨t, spelt, rfl⟩ := TimeUnit.exists_spelling unit
  exact ⟨⟨number, t, _, numeral, spelt⟩, rfl, by rw [text, List.append_assoc]; exact whole⟩

theorem eq_of_append {q q' : Quantity} (stops : ∀ c ∈ rest.head?, isNumeric c = true)
    (stops' : ∀ c ∈ rest'.head?, isNumeric c = true) (same : q.text ++ rest = q'.text ++ rest') :
    q = q' ∧ rest = rest' := by
  have read : some (q.part, rest) = some (q'.part, rest') := by
    rw [← q.read?_text stops, ← q'.read?_text stops', same]
  obtain ⟨part, rfl⟩ := Prod.mk.inj (Option.some.inj read)
  simp only [text, List.append_assoc] at same
  have number : q.number = q'.number :=
    q.numeral.eq_of_append q'.numeral (TimeUnit.stops_of_spelling q.spelt rest)
      (TimeUnit.stops_of_spelling q'.spelt rest) same
  rw [number] at same
  have unit : q.unit = q'.unit := List.append_cancel_right (List.append_cancel_left same)
  obtain ⟨n, t, p, numeral, spelt⟩ := q
  obtain ⟨n', t', p', numeral', spelt'⟩ := q'
  obtain rfl : n = n' := number
  obtain rfl : t = t' := unit
  obtain rfl : p = p' := part
  exact ⟨rfl, rfl⟩

/-- A row of quantities, of which there is at least one, makes up a text. -/
structure Spell (qs : List Quantity) (cs : List Char) : Prop where
  nonempty : qs ≠ []
  whole : qs.flatMap text = cs

variable {qs qs' : List Quantity} {cs : List Char}

theorem text_ne_nil (q : Quantity) : q.text ≠ [] := by
  simp [text, q.numeral.ne_nil]

/-- A text is made up by one row of quantities at most. -/
theorem eq_of_flatMap_text (same : qs.flatMap text = qs'.flatMap text) : qs = qs' := by
  induction qs generalizing qs' with
  | nil =>
    cases qs' with
    | nil => rfl
    | cons q' qs' => simp [q'.text_ne_nil] at same
  | cons q qs ih =>
    cases qs' with
    | nil => simp [q.text_ne_nil] at same
    | cons q' qs' =>
      obtain ⟨rfl, later⟩ := eq_of_append (stops_texts qs) (stops_texts qs') same
      rw [ih later]

theorem Spell.unique (spell : Spell qs cs) (spell' : Spell qs' cs) : qs' = qs :=
  eq_of_flatMap_text (spell'.whole.trans spell.whole.symm)

end Quantity

namespace Duration

open Quantity (Spell)

variable {qs : List Quantity} {cs rest : List Char} {before : Array DurationPart}

theorem parts?_of_read {p : DurationPart} (read : DurationPart.read? cs = some (p, rest)) :
    parts? cs before =
      if rest = [] then some (before.push p).toList else parts? rest (before.push p) := by
  rw [parts?]
  split
  · next none => simp [none] at read
  · next p' last =>
    obtain ⟨rfl, rfl⟩ := Prod.mk.inj (Option.some.inj (last.symm.trans read))
    rfl
  · next p' c rest' more =>
    obtain ⟨rfl, rfl⟩ := Prod.mk.inj (Option.some.inj (more.symm.trans read))
    rfl

theorem parts?_of_spell (spell : Spell qs cs) :
    parts? cs before = some (before.toList ++ qs.map Quantity.part) := by
  obtain ⟨nonempty, rfl⟩ := spell
  induction qs generalizing before with
  | nil => exact absurd rfl nonempty
  | cons q qs ih =>
    rw [List.flatMap_cons, parts?_of_read (q.read?_text (Quantity.stops_texts qs))]
    cases qs with
    | nil => simp
    | cons q' qs =>
      have more : (q' :: qs).flatMap Quantity.text ≠ [] := by simp [q'.text_ne_nil]
      rw [if_neg more, ih (by simp)]
      simp

theorem exists_spell_of_parts? {ps : List DurationPart} (read : parts? cs before = some ps) :
    ∃ qs, Spell qs cs := by
  fun_induction parts? cs before with
  | case1 => simp at read
  | case2 cs before p here =>
    obtain ⟨q, -, rfl⟩ := Quantity.exists_of_read? here
    exact ⟨[q], by simp, by simp⟩
  | case3 cs before p c rest here ih =>
    obtain ⟨q, -, rfl⟩ := Quantity.exists_of_read? here
    obtain ⟨qs, nonempty, whole⟩ := ih read
    exact ⟨q :: qs, by simp, by simp [whole]⟩

theorem parts?_eq_none_iff : parts? cs #[] = none ↔ ¬ ∃ qs, Spell qs cs := by
  constructor
  · rintro none ⟨qs, spell⟩
    simp [parts?_of_spell spell] at none
  · intro other
    cases read : parts? cs #[] with
    | none => rfl
    | some ps => exact absurd (exists_spell_of_parts? read) other

end Duration
end Storypath
