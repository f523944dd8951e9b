import Mathlib
import Storypath.Proofs.Json.RoundTrip

/-! The ways in which a value can be spelt as JSON. White space may stand between tokens, each
character of a string may be escaped, and a number may have a capital mark and a plus sign before
its exponent. However a value is spelt, it is the value that is read. -/
namespace Storypath.Json

def IsHex (c : Char) (value : Nat) : Prop :=
  value < 16 ∧ (c = Nat.digitChar value ∨ c = (Nat.digitChar value).toUpper)

instance (c : Char) (value : Nat) : Decidable (IsHex c value) :=
  inferInstanceAs (Decidable (_ ∧ _))

inductive FourHex : List Char → Nat → Prop
  | intro {a b c d : Char} {w x y z : Nat} (first : IsHex a w) (second : IsHex b x)
      (third : IsHex c y) (fourth : IsHex d z) :
      FourHex [a, b, c, d] (16 * (16 * (16 * w + x) + y) + z)

def shortEscapes : List (Char × Char) :=
  [('"', '"'), ('\\', '\\'), ('/', '/'), ('b', '\x08'), ('f', '\x0c'), ('n', '\n'), ('r', '\r'),
    ('t', '\t')]

/-- A spelling of a character in a string: the character itself, a short escape, its code, or the
two halves of its code. -/
inductive CharSpelt (c : Char) : List Char → Prop
  | plain (printable : ' ' ≤ c) (quote : c ≠ '"') (backslash : c ≠ '\\') : CharSpelt c [c]
  | short {letter : Char} (known : (letter, c) ∈ shortEscapes) : CharSpelt c ['\\', letter]
  | code {digits : List Char} (hex : FourHex digits c.toNat) : CharSpelt c ('\\' :: 'u' :: digits)
  | halves {first second : List Char} {high low : Nat} (upper : FourHex first (0xD800 + high))
      (lower : FourHex second (0xDC00 + low)) (high_ : high < 0x400) (low_ : low < 0x400)
      (whole : c.toNat = 0x10000 + high * 0x400 + low) :
      CharSpelt c ('\\' :: 'u' :: first ++ '\\' :: 'u' :: second)

inductive CharsSpelt : List Char → List Char → Prop
  | nil : CharsSpelt [] []
  | cons {c : Char} {cs spelling more : List Char} (char : CharSpelt c spelling)
      (later : CharsSpelt cs more) : CharsSpelt (c :: cs) (spelling ++ more)

def leadingDigits : List Char := ['1', '2', '3', '4', '5', '6', '7', '8', '9']

def AllDigits (cs : List Char) : Prop := ∀ c ∈ cs, c ∈ '0' :: leadingDigits

inductive WholeSpelt : List Char → Prop
  | zero : WholeSpelt ['0']
  | more {c : Char} {cs : List Char} (first : c ∈ leadingDigits) (later : AllDigits cs) :
      WholeSpelt (c :: cs)

inductive FractionSpelt : List Char → List Char → Prop
  | none : FractionSpelt [] []
  | some {c : Char} {cs : List Char} (all : AllDigits (c :: cs)) :
      FractionSpelt (c :: cs) ('.' :: c :: cs)

inductive ExponentSpelt : Option (Bool × List Char) → List Char → Prop
  | none : ExponentSpelt none []
  | some {mark c : Char} {sign cs : List Char} {negative : Bool} (mark_ : mark ∈ ['e', 'E'])
      (sign_ : (negative, sign) ∈ [(false, []), (false, ['+']), (true, ['-'])])
      (all : AllDigits (c :: cs)) :
      ExponentSpelt (some (negative, c :: cs)) (mark :: sign ++ c :: cs)

inductive NumberSpelt (n : Number) : List Char → Prop
  | intro {fraction exponent : List Char} (whole : WholeSpelt n.whole)
      (fraction_ : FractionSpelt n.fraction fraction)
      (exponent_ : ExponentSpelt n.exponent exponent) :
      NumberSpelt n ((if n.negative then ['-'] else []) ++ n.whole ++ fraction ++ exponent)

inductive TokenSpelt : Token → List Char → Prop
  | written {t : Token} (closed : t.closed = true) : TokenSpelt t t.written
  | string {s : String} {cs : List Char} (chars : CharsSpelt s.toList cs) :
      TokenSpelt (.string (some s)) ('"' :: cs ++ ['"'])
  | number {n : Number} {cs : List Char} (number : NumberSpelt n cs) : TokenSpelt (.number n) cs

def Blank (gap : List Char) : Prop := ∀ c ∈ gap, c ∈ [' ', '\t', '\n', '\r']

/-- A spelling of some tokens, with white space before, between and after them. -/
inductive Spelt : List Token → List Char → Prop
  | nil {gap : List Char} (blank : Blank gap) : Spelt [] gap
  | cons {t : Token} {ts : List Token} {gap cs rest : List Char} (blank : Blank gap)
      (token : TokenSpelt t cs) (later : Spelt ts rest) : Spelt (t :: ts) (gap ++ cs ++ rest)

theorem WholeSpelt.allDigits {cs : List Char} (spelt : WholeSpelt cs) : AllDigits cs := by
  cases spelt with
  | zero => exact List.forall_mem_singleton.mpr (by decide)
  | more first later => exact List.forall_mem_cons.mpr ⟨List.mem_cons_of_mem _ first, later⟩

theorem FractionSpelt.allDigits {fraction cs : List Char} (spelt : FractionSpelt fraction cs) :
    AllDigits fraction := by
  cases spelt with
  | none => exact List.forall_mem_nil _
  | some all => exact all

theorem hexValue?_of_isHex {c : Char} {value : Nat} (hex : IsHex c value) :
    hexValue? c = some value := by
  have upper : ∀ n < 16, hexValue? (Nat.digitChar n).toUpper = some n := by decide
  obtain ⟨small, rfl | rfl⟩ := hex
  · exact hexValue?_digitChar small
  · exact upper value small

theorem cuts_fourHex (d : Draft) {digits : List Char} {code : Nat} (hex : FourHex digits code) :
    Cuts (.hex d 4 0) digits [] (.string (d.pushCode code)) := by
  obtain @⟨a, b, c, e, w, x, y, z, first, second, third, fourth⟩ := hex
  refine .skip (.hex d 3 w) (by simp [Mode.step, hexValue?_of_isHex first]) ?_
  refine .skip (.hex d 2 (16 * w + x)) (by simp [Mode.step, hexValue?_of_isHex second]) ?_
  refine .skip (.hex d 1 (16 * (16 * w + x) + y))
    (by simp [Mode.step, hexValue?_of_isHex third]) ?_
  exact .char (by simp [Mode.step, hexValue?_of_isHex fourth])

def Draft.sound (chars : List Char) : Draft := ⟨chars, false, none⟩

theorem pushCode_halves (chars : List Char) {c : Char} {high low : Nat} (high_ : high < 0x400)
    (low_ : low < 0x400) (whole : c.toNat = 0x10000 + high * 0x400 + low) :
    ((Draft.sound chars).pushCode (0xD800 + high)).pushCode (0xDC00 + low) =
      (Draft.sound chars).push c := by
  have first : Draft.isLow (0xD800 + high) = false ∧ Draft.isHigh (0xD800 + high) = true := by
    simp only [Draft.isLow, Draft.isHigh, Bool.and_eq_false_imp, Bool.and_eq_true,
      decide_eq_true_eq, decide_eq_false_iff_not]
    omega
  have second : Draft.isLow (0xDC00 + low) = true := by
    simp only [Draft.isLow, Bool.and_eq_true, decide_eq_true_eq]
    omega
  have same : Char.ofNat (0x10000 + high * 0x400 + low) = c := by
    rw [← whole, Char.ofNat_toNat]
  simp [Draft.pushCode, first, second, Draft.sound, Draft.push, same]

theorem cuts_charSpelt (chars : List Char) {c : Char} {cs : List Char} (spelt : CharSpelt c cs) :
    Cuts (.string (.sound chars)) cs [] (.string (.sound (c :: chars))) := by
  have push : (Draft.sound chars).push c = .sound (c :: chars) := rfl
  have unicode (d : Draft) {digits : List Char} {code : Nat} (hex : FourHex digits code) :
      Cuts (.string d) ('\\' :: 'u' :: digits) [] (.string (d.pushCode code)) :=
    .skip (.escape d) rfl (.skip (.hex d 4 0) rfl (cuts_fourHex d hex))
  rw [← push]
  cases spelt with
  | plain printable quote backslash =>
    exact .char (by simp [Mode.step, not_lt.mpr printable, quote, backslash])
  | @short letter known =>
    have named : ∀ e ∈ shortEscapes, ∀ d : Draft,
        Mode.afterBackslash d e.1 = some (.string (d.push e.2)) := by
      simp only [shortEscapes, List.forall_mem_cons]
      exact ⟨fun _ => rfl, fun _ => rfl, fun _ => rfl, fun _ => rfl, fun _ => rfl, fun _ => rfl,
        fun _ => rfl, fun _ => rfl, by simp⟩
    exact .skip (.escape _) rfl (.char (by simp [Mode.step, named _ known]))
  | code hex =>
    rw [← pushCode_toNat]
    exact unicode _ hex
  | halves upper lower high_ low_ whole =>
    rw [← pushCode_halves chars high_ low_ whole]
    exact (unicode _ upper).trans (unicode _ lower)

theorem cuts_charsSpelt (chars : List Char) {s cs : List Char} (spelt : CharsSpelt s cs) :
    Cuts (.string (.sound chars)) cs [] (.string (.sound (s.reverse ++ chars))) := by
  induction spelt generalizing chars with
  | nil => exact .nil _
  | @cons c s _ _ char _ ih =>
    rw [List.reverse_cons, List.append_assoc]
    exact (cuts_charSpelt chars char).trans (ih (c :: chars))

theorem cuts_stringSpelt {s : String} {cs : List Char} (spelt : CharsSpelt s.toList cs) :
    Cuts .gap ('"' :: cs ++ ['"']) [.string (some s)] .gap := by
  refine .skip (.string (.sound [])) rfl ((cuts_charsSpelt [] spelt).trans (.char ?_))
  simp [Mode.step, Draft.text?, Draft.sound]

theorem isDigit_of_mem {c : Char} (digit : c ∈ '0' :: leadingDigits) : c.isDigit = true := by
  revert c
  simp [leadingDigits, Char.isDigit]

theorem cuts_digits (mode : List Char → Mode)
    (step : ∀ c ds, c.isDigit = true → (mode ds).step c = some ([], mode (c :: ds)))
    (before : List Char) {cs : List Char} (all : AllDigits cs) :
    Cuts (mode before) cs [] (mode (cs.reverse ++ before)) := by
  induction cs generalizing before with
  | nil => exact .nil _
  | cons c cs ih =>
    obtain ⟨here, later⟩ := List.forall_mem_cons.mp all
    rw [List.reverse_cons, List.append_assoc]
    exact .skip _ (step c before (isDigit_of_mem here)) (ih (c :: before) later)

theorem cuts_wholeSpelt (negative : Bool) {digits : List Char} (spelt : WholeSpelt digits) :
    ∃ stage ∈ [NumberStage.zero, .whole],
      Cuts .gap ((if negative then ['-'] else []) ++ digits) []
        (.number stage ⟨negative, digits.reverse, [], none⟩) := by
  cases spelt with
  | zero =>
    refine ⟨.zero, by simp, ?_⟩
    cases negative with
    | false => exact .char rfl
    | true => exact .skip (.number .sign ⟨true, [], [], none⟩) rfl (.char rfl)
  | @more c cs first later =>
    refine ⟨.whole, by simp, ?_⟩
    have rest := cuts_digits (fun ds => .number .whole ⟨negative, ds, [], none⟩)
      (fun c ds digit => by simp [Mode.step, Mode.inNumber, digit]) [c] later
    rw [List.reverse_cons]
    cases negative with
    | false =>
      have opening : ∀ c ∈ leadingDigits,
          Mode.gap.step c = some ([], .number .whole ⟨false, [c], [], none⟩) := by
        simp only [leadingDigits, List.forall_mem_cons]
        exact ⟨rfl, rfl, rfl, rfl, rfl, rfl, rfl, rfl, rfl, by simp⟩
      exact .skip _ (opening c first) rest
    | true =>
      have opening : ∀ c ∈ leadingDigits, (Mode.number .sign ⟨true, [], [], none⟩).step c =
          some ([], .number .whole ⟨true, [c], [], none⟩) := by
        simp only [leadingDigits, List.forall_mem_cons]
        exact ⟨rfl, rfl, rfl, rfl, rfl, rfl, rfl, rfl, rfl, by simp⟩
      exact .skip (.number .sign ⟨true, [], [], none⟩) rfl (.skip _ (opening c first) rest)

theorem cuts_fractionSpelt {stage : NumberStage} (stage_ : stage ∈ [NumberStage.zero, .whole])
    (negative : Bool) (whole : List Char) {digits cs : List Char}
    (spelt : FractionSpelt digits cs) :
    ∃ stage' ∈ [NumberStage.zero, .whole, .fraction],
      Cuts (.number stage ⟨negative, whole, [], none⟩) cs []
        (.number stage' ⟨negative, whole, digits.reverse, none⟩) := by
  cases spelt with
  | none => exact ⟨stage, by grind, .nil _⟩
  | @some c cs all =>
    refine ⟨.fraction, by simp, ?_⟩
    obtain ⟨here, later⟩ := List.forall_mem_cons.mp all
    have rest := cuts_digits (fun ds => .number .fraction ⟨negative, whole, ds, none⟩)
      (fun c ds digit => by simp [Mode.step, Mode.inNumber, digit]) [c] later
    rw [List.reverse_cons]
    refine .skip (.number .point ⟨negative, whole, [], none⟩) ?_
      (.skip _ (by simp [Mode.step, Mode.inNumber, isDigit_of_mem here]) rest)
    simp only [List.mem_cons, List.not_mem_nil, or_false] at stage_
    rcases stage_ with rfl | rfl <;> rfl

theorem cuts_exponentSpelt {stage : NumberStage}
    (stage_ : stage ∈ [NumberStage.zero, .whole, .fraction]) (negative : Bool)
    (whole fraction : List Char) {exponent : Option (Bool × List Char)} {cs : List Char}
    (spelt : ExponentSpelt exponent cs) :
    ∃ stage' ∈ [NumberStage.zero, .whole, .fraction, .exponent],
      Cuts (.number stage ⟨negative, whole, fraction, none⟩) cs []
        (.number stage' ⟨negative, whole, fraction, exponent.map fun e => (e.1, e.2.reverse)⟩) := by
  cases spelt with
  | none => exact ⟨stage, by grind, .nil _⟩
  | @some mark c sign cs below mark_ sign_ all =>
    refine ⟨.exponent, by simp, ?_⟩
    obtain ⟨here, later⟩ := List.forall_mem_cons.mp all
    have rest := cuts_digits
      (fun ds => .number .exponent ⟨negative, whole, fraction, some (below, ds)⟩)
      (fun c ds digit => by simp [Mode.step, Mode.inNumber, digit]) [c] later
    have opening : Mode.step (.number stage ⟨negative, whole, fraction, none⟩) mark =
        some ([], .number .mark ⟨negative, whole, fraction, none⟩) := by
      simp only [List.mem_cons, List.not_mem_nil, or_false] at stage_ mark_
      rcases stage_ with rfl | rfl | rfl <;> rcases mark_ with rfl | rfl <;> rfl
    rw [Option.map_some, List.reverse_cons]
    refine .skip _ opening ?_
    have digit := isDigit_of_mem here
    have plus : (c == '+') = false := beq_false_of_ne (by rintro rfl; simp at digit)
    have minus : (c == '-') = false := beq_false_of_ne (by rintro rfl; simp at digit)
    have signed (below : Bool) : Mode.step
        (.number .exponentSign ⟨negative, whole, fraction, some (below, [])⟩) c =
          some ([], .number .exponent ⟨negative, whole, fraction, some (below, [c])⟩) := by
      simp [Mode.step, Mode.inNumber, digit]
    simp only [List.mem_cons, Prod.mk.injEq, List.not_mem_nil, or_false] at sign_
    rcases sign_ with ⟨rfl, rfl⟩ | ⟨rfl, rfl⟩ | ⟨rfl, rfl⟩
    · exact .skip _ (by simp [Mode.step, Mode.inNumber, digit, plus, minus]) rest
    · exact .skip (.number .exponentSign _) rfl (.skip _ (signed false) rest)
    · exact .skip (.number .exponentSign _) rfl (.skip _ (signed true) rest)

def enders : List Char := [' ', '\t', '\n', '\r', ',', ']', '}']

theorem tokensFrom_number {stage : NumberStage}
    (stage_ : stage ∈ [NumberStage.zero, .whole, .fraction, .exponent]) (d : NumberDraft)
    (before : Array Token) {rest : List Char} (ended : ∀ c ∈ rest.head?, c ∈ enders) :
    tokensFrom (.number stage d) before rest =
      tokensFrom .gap (before.appendList [.number d.number]) rest := by
  have last : stage = .zero ∨ stage = .whole ∨ stage = .fraction ∨ stage = .exponent := by
    simpa using stage_
  rcases rest with _ | ⟨c, cs⟩
  · rcases last with rfl | rfl | rfl | rfl <;> simp [tokensFrom, Mode.finish]
  · have ends : Mode.step (.number stage d) c = Mode.endNumber d c := by
      have ended := ended c rfl
      simp only [enders, List.mem_cons, List.not_mem_nil, or_false] at ended
      rcases last with rfl | rfl | rfl | rfl <;>
        rcases ended with rfl | rfl | rfl | rfl | rfl | rfl | rfl <;> rfl
    rw [tokensFrom, tokensFrom, ends, Mode.endNumber, Mode.step]
    cases Mode.inGap c with
    | none => rfl
    | some next =>
      simp only [Option.map_some]
      exact congrArg (fun before => tokensFrom next.2 before cs) (Array.ext' (by simp))

/-- A spelling of a number is read until what comes after it ends the number. -/
theorem tokensFrom_numberSpelt {n : Number} {cs rest : List Char} (spelt : NumberSpelt n cs)
    (before : Array Token) (ended : ∀ c ∈ rest.head?, c ∈ enders) :
    tokensFrom .gap before (cs ++ rest) =
      tokensFrom .gap (before.appendList [.number n]) rest := by
  obtain @⟨fraction, exponent, whole, fraction_, exponent_⟩ := spelt
  obtain ⟨stage, known, first⟩ := cuts_wholeSpelt n.negative whole
  obtain ⟨stage', known', second⟩ :=
    cuts_fractionSpelt known n.negative n.whole.reverse fraction_
  obtain ⟨stage'', known'', third⟩ :=
    cuts_exponentSpelt known' n.negative n.whole.reverse n.fraction.reverse exponent_
  rw [((first.trans second).trans third) before rest]
  have read : NumberDraft.number ⟨n.negative, n.whole.reverse, n.fraction.reverse,
      n.exponent.map fun e => (e.1, e.2.reverse)⟩ = n := by
    simp [NumberDraft.number, Function.comp_def]
  rw [tokensFrom_number known'' _ _ ended, read]
  simp

theorem cuts_blank {gap : List Char} (blank : Blank gap) : Cuts .gap gap [] .gap := by
  induction gap with
  | nil => exact .nil _
  | cons c gap ih =>
    obtain ⟨here, later⟩ := List.forall_mem_cons.mp blank
    refine .skip .gap ?_ (ih later)
    simp only [List.mem_cons, List.not_mem_nil, or_false] at here
    rcases here with rfl | rfl | rfl | rfl <;> rfl

def Follows (t next : Token) : Prop :=
  (∃ n, t = .number n) → next ∈ [Token.comma, .closeArray, .closeObject]

theorem mem_enders_of_blank {gap : List Char} (blank : Blank gap) :
    ∀ c ∈ gap.head?, c ∈ enders := fun c first =>
  List.mem_append_left [',', ']', '}'] (blank c (List.mem_of_mem_head? first))

theorem mem_enders_of_token {t : Token} {cs : List Char} (spelt : TokenSpelt t cs)
    (ends : t ∈ [Token.comma, .closeArray, .closeObject]) (rest : List Char) :
    ∀ c ∈ (cs ++ rest).head?, c ∈ enders := by
  have first {c : Char} (ender : c ∈ enders) : ∀ c' ∈ (c :: rest).head?, c' ∈ enders := by
    rintro _ ⟨⟩
    exact ender
  cases spelt with
  | written closed =>
    simp only [List.mem_cons, List.not_mem_nil, or_false] at ends
    rcases ends with rfl | rfl | rfl
    · exact @first ',' (by simp [enders])
    · exact @first ']' (by simp [enders])
    · exact @first '}' (by simp [enders])
  | string chars => simp at ends
  | number number => simp at ends

theorem mem_enders_of_spelt {ts : List Token} {n : Number} {cs : List Char}
    (chain : (Token.number n :: ts).IsChain Follows) (spelt : Spelt ts cs) :
    ∀ c ∈ cs.head?, c ∈ enders := by
  cases spelt with
  | nil blank => exact mem_enders_of_blank blank
  | @cons t ts gap cs rest blank token later =>
    rcases gap with _ | ⟨c, gap⟩
    · exact mem_enders_of_token token ((List.isChain_cons_cons.mp chain).1 ⟨n, rfl⟩) rest
    · intro c' first
      exact mem_enders_of_blank blank c' (by simpa using first)

theorem tokensFrom_spelt {ts : List Token} {cs : List Char} (spelt : Spelt ts cs)
    (chain : ts.IsChain Follows) (before : Array Token) :
    tokensFrom .gap before cs = some (before.toList ++ ts) := by
  induction spelt generalizing before with
  | nil blank =>
    have cut := cuts_blank blank before []
    rw [List.append_nil] at cut
    simp [cut, tokensFrom, Mode.finish]
  | @cons t ts gap cs rest blank token later ih =>
    have cut := cuts_blank blank before (cs ++ rest)
    have closed {t : Token} (cuts : Cuts .gap cs [t] .gap) (chain : ts.IsChain Follows) :
        tokensFrom .gap before (gap ++ cs ++ rest) = some (before.toList ++ t :: ts) := by
      rw [List.append_assoc, cut, cuts, ih chain]
      simp
    have chain' := chain.tail
    cases token with
    | written whole => exact closed (cuts_written whole) chain'
    | string chars => exact closed (cuts_stringSpelt chars) chain'
    | number number =>
      rw [List.append_assoc, cut, tokensFrom_numberSpelt number _ (mem_enders_of_spelt chain later),
        ih chain']
      simp

theorem isChain_cons_of_ne {t : Token} {ts : List Token} (other : ∀ n, t ≠ .number n) :
    (t :: ts).IsChain Follows ↔ ts.IsChain Follows := by
  rw [List.isChain_cons]
  exact and_iff_right fun next _ ⟨n, number⟩ => absurd number (other n)

mutual

theorem isChain_tokens {rest : List Token} (chain : rest.IsChain Follows)
    (ends : ∀ t ∈ rest.head?, t ∈ [Token.comma, .closeArray, .closeObject]) :
    ∀ v : Value, (v.tokens ++ rest).IsChain Follows
  | .null | .bool _ | .string _ => (isChain_cons_of_ne (by simp)).mpr chain
  | .number _ => List.isChain_cons.mpr ⟨fun next first _ => ends next first, chain⟩
  | .array items => (isChain_cons_of_ne (by simp)).mpr (isChain_itemTokens chain items)
  | .object members => (isChain_cons_of_ne (by simp)).mpr (isChain_memberTokens chain members)

theorem isChain_itemTokens {rest : List Token} (chain : rest.IsChain Follows) :
    ∀ items : List Value, (Value.itemTokens items ++ rest).IsChain Follows
  | [] => (isChain_cons_of_ne (by simp)).mpr chain
  | [v] => by
    have closed : (Token.closeArray :: rest).IsChain Follows :=
      (isChain_cons_of_ne (by simp)).mpr chain
    simpa [Value.itemTokens] using isChain_tokens closed (by simp) v
  | v :: v' :: vs => by
    have later : (Token.comma :: (Value.itemTokens (v' :: vs) ++ rest)).IsChain Follows :=
      (isChain_cons_of_ne (by simp)).mpr (isChain_itemTokens chain (v' :: vs))
    rw [Value.itemTokens.eq_3 _ _ (by simp), List.append_assoc]
    exact isChain_tokens later (by simp) v

theorem isChain_memberTokens {rest : List Token} (chain : rest.IsChain Follows) :
    ∀ members : List (Option String × Value),
      (Value.memberTokens members ++ rest).IsChain Follows
  | [] => (isChain_cons_of_ne (by simp)).mpr chain
  | [(k, v)] => by
    have closed : (Token.closeObject :: rest).IsChain Follows :=
      (isChain_cons_of_ne (by simp)).mpr chain
    simp only [Value.memberTokens, List.cons_append, List.append_assoc]
    rw [isChain_cons_of_ne (by simp), isChain_cons_of_ne (by simp)]
    exact isChain_tokens closed (by simp) v
  | (k, v) :: m :: ms => by
    have later : (Token.comma :: (Value.memberTokens (m :: ms) ++ rest)).IsChain Follows :=
      (isChain_cons_of_ne (by simp)).mpr (isChain_memberTokens chain (m :: ms))
    rw [Value.memberTokens.eq_3 _ _ _ (by simp)]
    simp only [List.cons_append, List.append_assoc]
    rw [isChain_cons_of_ne (by simp), isChain_cons_of_ne (by simp)]
    exact isChain_tokens later (by simp) v

end

/-- However a value is spelt, it is the value that is read. -/
theorem parse?_of_spelt {v : Value} {text : String} (spelt : Spelt v.tokens text.toList) :
    Value.parse? text = some v := by
  have chain : (v.tokens ++ []).IsChain Follows := isChain_tokens .nil (by simp) v
  rw [List.append_nil] at chain
  rw [Value.parse?, tokens?, tokensFrom_spelt spelt chain, Option.bind_some]
  exact ofTokens?_tokens v

theorem Spelt.written {ts us : List Token} {cs : List Char} (later : Spelt us cs)
    (closed : ∀ t ∈ ts, t.closed = true) : Spelt (ts ++ us) (ts.flatMap Token.written ++ cs) := by
  induction ts with
  | nil => exact later
  | cons t ts ih =>
    obtain ⟨here, rest⟩ := List.forall_mem_cons.mp closed
    rw [List.flatMap_cons, List.append_assoc]
    have none : Blank [] := List.forall_mem_nil _
    exact .cons none (.written here) (ih rest)

theorem spelt_render {v : Value} (closed : v.Closed) : Spelt v.tokens v.render.toList := by
  have none : Spelt [] [] := .nil (List.forall_mem_nil _)
  simpa [Value.render] using none.written closed

end Storypath.Json
