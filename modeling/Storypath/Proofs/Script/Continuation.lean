import Storypath.Proofs.Script.Search

/-! What resolving gives after its first continuation jump: the statements collected up to the
jump, and then what resolving its reference gives in the rest of the script. -/
namespace Storypath

/-- What a fault in the rest of a script is called in the whole: a label that is missing there
is a continuation target that was not found. -/
inductive ScriptFault.Continued (reference : String) : ScriptFault → ScriptFault → Prop
  | same {inRest inWhole : ScriptFault} (other : inRest.code ≠ "PARSE_LABEL_NOT_FOUND")
      (code : inWhole.code = inRest.code) (message : inWhole.message = inRest.message) :
      Continued reference inRest inWhole
  | notFound : Continued reference (.labelNotFound reference) (.jumpTargetNotFound reference)

/-- A result in the rest of a script and the one in the whole, `before` coming first. -/
inductive Continues (before : List Statement) (reference : String) :
    Except ScriptFault (List Statement) → Except ScriptFault (List Statement) → Prop
  | ok (statements : List Statement) :
      Continues before reference (.ok statements) (.ok (before ++ statements))
  | error {inRest inWhole : ScriptFault} (continued : inRest.Continued reference inWhole) :
      Continues before reference (.error inRest) (.error inWhole)

theorem Flaw.continued {reference : String} (whole rest : String) (d : Nat) (flaw : Flaw) :
    (flaw.fault rest).Continued reference ((flaw.shift d).fault whole) := by
  cases flaw with
  | wait start found => exact .same (by simp [Flaw.fault, ScriptFault.code]) rfl rfl
  | choice start flaw => exact .same (by simp [Flaw.fault, ScriptFault.code]) rfl rfl

variable {before : List Statement} {reference whole rest : String} {strict : Bool}

theorem continues_end (current saved : List Statement) (collecting matched : Bool)
    (target : Target) (unmet : matched = false → target.written = reference) :
    Continues before reference
      (search rest strict current saved collecting matched target [])
      (search whole strict (before ++ current) (before ++ saved) collecting true target []) := by
  cases collecting with
  | true => exact .ok current
  | false =>
    cases strict with
    | false => exact .ok current
    | true =>
      cases matched with
      | true => exact .error (.same (by simp [ScriptFault.code]) rfl rfl)
      | false =>
        obtain rfl := unmet rfl
        exact .error .notFound

/-- A search of outlines that differ in where they stand, with `before` in front of all that is
gathered: as long as nothing has been met, the target is the reference of the jump. -/
theorem continues_search (d : Nat) (es : List Entry) (current saved : List Statement)
    (collecting matched : Bool) (target : Target)
    (unmet : matched = false → collecting = false ∧ target.written = reference) :
    Continues before reference
      (search rest strict current saved collecting matched target es)
      (search whole strict (before ++ current) (before ++ saved) collecting true target
        (es.map (Entry.shift d))) := by
  induction es generalizing current saved collecting matched target with
  | nil =>
    exact continues_end current saved collecting matched target fun fresh => (unmet fresh).2
  | cons e es ih =>
    cases e with
    | flaw flaw => exact .error (flaw.continued whole rest d)
    | item item =>
      cases item with
      | text t =>
        have next := ih (current ++ [.text t]) saved collecting matched target unmet
        simpa [search, Entry.shift] using next
      | pause d =>
        have next := ih (current ++ [.pause d]) saved collecting matched target unmet
        simpa [search, Entry.shift] using next
      | choice prompt branches =>
        cases collecting with
        | true =>
          have told := @Continues.ok before reference (current ++ [.choice prompt branches])
          simpa [search, Entry.shift] using told
        | false =>
          have next := ih (current ++ [.choice prompt branches]) saved false matched target unmet
          simpa [search, Entry.shift] using next
      | brokenChoice =>
        cases collecting with
        | true => exact .ok current
        | false => exact ih current saved false matched target unmet
      | blockEnd =>
        cases collecting with
        | true => exact .ok current
        | false => exact ih current saved false matched target unmet
      | label l =>
        by_cases met : target.isMetBy l
        · have next := ih saved saved true true target (by simp)
          simpa [search, Entry.shift, met] using next
        · have next := ih current saved collecting matched target unmet
          simpa [search, Entry.shift, met] using next
      | jump r =>
        cases collecting with
        | true =>
          have met : matched = true := by
            cases matched with
            | true => rfl
            | false => exact absurd (unmet rfl).1 (by simp)
          have next := ih current current false matched (.ofReference r) (by simp [met])
          simpa [search, Entry.shift] using next
        | false => exact ih current saved false matched target unmet

namespace Phase

variable {options : ScriptOptions} {phase phase' : Phase} {t : Token} {item? : Option Item}

theorem take_jumpName (h : phase.read options t = .take item? .jumpName) :
    t.kind = .jumpBracket ∧ t.targetName = "" := by
  cases phase <;> simp only [read, brokenChoice] at h <;> (repeat' split at h) <;> simp_all

theorem putBack_ne_jumpName (h : phase.read options t = .putBack item? phase') :
    phase' ≠ .jumpName := by
  cases phase <;> simp only [read, brokenChoice] at h <;> (repeat' split at h) <;>
    simp_all <;> simp [← h.2]

theorem take_jump {reference : String}
    (h : phase.read options t = .take (some (.jump reference)) phase') :
    phase' = .between ∧
      ((t.kind = .jumpBracket ∧ t.targetName ≠ "" ∧ t.targetName = reference) ∨
        (phase = .jumpName ∧ t.literal = reference)) := by
  cases phase <;> simp only [read, brokenChoice] at h <;> (repeat' split at h) <;> simp_all

theorem putBack_jump {reference : String}
    (h : phase.read options t = .putBack (some (.jump reference)) phase') :
    phase' = .between ∧ phase = .jumpName ∧ t.kind = .endOfInput ∧ reference = "" := by
  cases phase <;> simp only [read, brokenChoice] at h <;> (repeat' split at h) <;> simp_all

end Phase

/-- The tokens of a jump: a bracket with a name, or a bare one and the next token that is not
white space, which is missing at the end of a script. -/
inductive JumpTokens : List Token → String → Prop
  | named {bracket : Token} (isBracket : bracket.kind = .jumpBracket)
      (name : bracket.targetName ≠ "") : JumpTokens [bracket] bracket.targetName
  | bare {bracket name : Token} {gap : List Token} (isBracket : bracket.kind = .jumpBracket)
      (noName : bracket.targetName = "") (blank : ∀ g ∈ gap, g.isWhitespace = true)
      (counts : name.isWhitespace = false) : JumpTokens (bracket :: gap ++ [name]) name.literal
  | missing {bracket : Token} {gap : List Token} (isBracket : bracket.kind = .jumpBracket)
      (noName : bracket.targetName = "") (blank : ∀ g ∈ gap, g.isWhitespace = true) :
      JumpTokens (bracket :: gap) ""

namespace Reading

variable {source : String} {options : ScriptOptions} {r r' : Reading}

def OpenJump (before : List Token) : Prop :=
  ∃ earlier bracket gap, before = earlier ++ bracket :: gap ∧ bracket.kind = .jumpBracket ∧
    bracket.targetName = "" ∧ ∀ g ∈ gap, g.isWhitespace = true

structure HasRead (source : String) (before : List Token) (r : Reading) : Prop where
  tokens : TokenStream.tokens source = before ++ r.feed.toCome
  jump : r.phase = .jumpName → OpenJump before

theorem hasRead_start (source : String) (target : Target) :
    (start source target).HasRead source [] where
  tokens := by
    rw [TokenStream.tokens_eq_listFrom, Feed.toCome_of_held_none rfl]
    rfl
  jump := by simp [start]

theorem hasRead_step {before : List Token} (sound : r.Sound options)
    (hasRead : r.HasRead source before) (steps : r.StepsTo options r') :
    ∃ before', r'.HasRead source before' := by
  cases steps with
  | @skip t feed taken blank =>
    have notEnd : t.kind ≠ .endOfInput := by
      intro h
      simp [Token.isWhitespace, h] at blank
    have toCome := (Feed.take_next sound.feed taken).2.1.eq_cons notEnd
    refine ⟨before ++ [t], by simpa [toCome] using hasRead.tokens, fun atName => ?_⟩
    obtain ⟨earlier, bracket, gap, rfl, isBracket, noName, blanks⟩ := hasRead.jump atName
    refine ⟨earlier, bracket, gap ++ [t], by simp, isBracket, noName, ?_⟩
    simpa [or_imp, forall_and] using ⟨blanks, blank⟩
  | @take t feed item? phase walk taken counts read moves =>
    have toCome := (Feed.take_next sound.feed taken).2.1.eq_cons (Phase.kind_ne_of_take read)
    refine ⟨before ++ [t], by simpa [toCome] using hasRead.tokens, fun atName => ?_⟩
    obtain rfl : phase = .jumpName := atName
    obtain ⟨isBracket, noName⟩ := Phase.take_jumpName read
    exact ⟨before, t, [], rfl, isBracket, noName, by simp⟩
  | @putBack t feed item? phase walk taken counts read moves =>
    obtain ⟨held, next, -⟩ := Feed.take_next sound.feed taken
    refine ⟨before, ?_, fun atName => absurd atName (Phase.putBack_ne_jumpName read)⟩
    rw [Feed.toCome_putBack held next]
    exact hasRead.tokens

/-- A reading just past a jump: the statements collected are kept, its reference is the target,
and the tokens of the jump are the last that have been read. -/
structure PastJump (source : String) (r : Reading) : Prop where
  between : r.phase = .between
  idle : r.walk.collecting = false
  matched : r.walk.matched = true
  kept : r.walk.kept = r.walk.gathered
  target : r.walk.target = .ofReference r.walk.target.written
  toCome : r.feed.toCome = TokenStream.listFrom r.feed.stream.rest r.feed.stream.offset
  tokens : ∃ earlier jump, JumpTokens jump r.walk.target.written ∧
    TokenStream.tokens source = earlier ++ jump ++ r.feed.toCome

theorem PastJump.toCome_eq (past : r.PastJump source) :
    r.feed.toCome = (TokenStream.tokens (String.ofList r.feed.stream.rest)).map
      (Token.shift r.feed.stream.offset) := by
  rw [past.toCome, TokenStream.tokens_eq_listFrom, String.toList_ofList,
    ← TokenStream.listFrom_add, Nat.zero_add]

theorem PastJump.entries_eq (past : r.PastJump source) :
    r.entries options = (Outline.ofSource options (String.ofList r.feed.stream.rest)).map
      (Entry.shift r.feed.stream.offset) := by
  rw [entries, past.between, Phase.entries_between, Feed.ahead, past.toCome_eq, List.filter_map,
    Outline.entries_shift]
  rfl

theorem PastJump.search_eq (past : r.PastJump source) (strict : Bool) (es : List Entry) :
    r.walk.search source strict es = search source strict r.walk.statements r.walk.statements
      false true (.ofReference r.walk.target.written) es := by
  rw [Walk.search, past.idle, past.matched, past.kept, ← past.target]
  rfl

theorem pastJump_step {before : List Token} (sound : r.Sound options)
    (hasRead : r.HasRead source before) (steps : r.StepsTo options r')
    (matched : r.walk.collecting = true → r.walk.matched = true)
    (busy : r.walk.collecting = true) (idle : r'.walk.collecting = false) :
    r'.PastJump source := by
  cases steps with
  | skip taken blank => simp [busy] at idle
  | @take t feed item? phase walk taken counts read moves =>
    obtain ⟨reference, rfl, rfl⟩ := moves.jump_of_stops busy idle
    obtain ⟨held, next, -⟩ := Feed.take_next sound.feed taken
    have toCome := Feed.toCome_of_held_none held
    have tokens := hasRead.tokens
    rw [next.eq_cons (Phase.kind_ne_of_take read)] at tokens
    obtain ⟨rfl, ⟨isBracket, name, rfl⟩ | ⟨atName, rfl⟩⟩ := Phase.take_jump read
    · exact ⟨rfl, rfl, matched busy, rfl, rfl, toCome, before, [t], .named isBracket name,
        by simpa using tokens⟩
    · obtain ⟨earlier, bracket, gap, rfl, isBracket, noName, blank⟩ := hasRead.jump atName
      exact ⟨rfl, rfl, matched busy, rfl, rfl, toCome, earlier, bracket :: gap ++ [t],
        .bare isBracket noName blank counts, by simpa using tokens⟩
  | @putBack t feed item? phase walk taken counts read moves =>
    obtain ⟨reference, rfl, rfl⟩ := moves.jump_of_stops busy idle
    obtain ⟨held, next, -⟩ := Feed.take_next sound.feed taken
    obtain ⟨rfl, atName, atEnd, rfl⟩ := Phase.putBack_jump read
    have toCome : (feed.putBack t).toCome =
        TokenStream.listFrom feed.stream.rest feed.stream.offset := by
      simp [Feed.toCome, Feed.putBack, atEnd]
    obtain ⟨earlier, bracket, gap, rfl, isBracket, noName, blank⟩ := hasRead.jump atName
    refine ⟨rfl, rfl, matched busy, rfl, rfl, toCome, earlier, bracket :: gap,
      .missing isBracket noName blank, ?_⟩
    rw [Feed.toCome_putBack held next]
    exact hasRead.tokens

def firstJump? (source : String) (options : ScriptOptions) (r : Reading) : Option Reading :=
  match _h : r.step source options with
  | .inl r' =>
    if r.walk.collecting && !r'.walk.collecting then some r' else r'.firstJump? source options
  | .inr _ => none
termination_by r.measure
decreasing_by exact measure_step _h

theorem firstJump?_eq_some {before : List Token} {jumped : Reading} (sound : r.Sound options)
    (hasRead : r.HasRead source before)
    (matched : r.walk.collecting = true → r.walk.matched = true)
    (h : r.firstJump? source options = some jumped) :
    Walk.Passes r.walk (r.entries options) jumped.walk (jumped.entries options) ∧
      jumped.PastJump source := by
  fun_induction firstJump? source options r generalizing before with
  | case1 r r' step stops =>
    obtain rfl := Option.some.inj h
    have steps := stepsTo_of_step step
    simp only [Bool.and_eq_true, Bool.not_eq_true'] at stops
    exact ⟨(passes_step sound steps).1,
      pastJump_step sound hasRead steps matched stops.1 stops.2⟩
  | case2 r r' step goes ih =>
    have steps := stepsTo_of_step step
    obtain ⟨passes, sound'⟩ := passes_step sound steps
    obtain ⟨before', hasRead'⟩ := hasRead_step sound hasRead steps
    obtain ⟨more, past⟩ := ih sound' hasRead' (passes.matched matched) h
    exact ⟨passes.trans more, past⟩
  | case3 r result step => simp at h

end Reading

structure Continuation where
  statements : List Statement
  reference : String
  rest : String

def firstContinuation? (source : String) (target : Target) (options : ScriptOptions) :
    Option Continuation :=
  ((Reading.start source target).firstJump? source options).map fun r =>
    ⟨r.walk.statements, r.walk.target.written, String.ofList r.feed.stream.rest⟩

namespace Continuation

variable {source : String} {target : Target} {options : ScriptOptions} {c : Continuation}

theorem exists_pastJump (jumps : firstContinuation? source target options = some c) :
    ∃ r : Reading, r.PastJump source ∧
      c = ⟨r.walk.statements, r.walk.target.written, String.ofList r.feed.stream.rest⟩ ∧
      Walk.Passes (.start target) (Outline.ofSource options source) r.walk (r.entries options) := by
  obtain ⟨r, h, rfl⟩ := Option.map_eq_some_iff.mp jumps
  obtain ⟨passes, past⟩ := Reading.firstJump?_eq_some (Reading.sound_start options source target)
    (Reading.hasRead_start source target) (fun busy => nomatch busy) h
  rw [Reading.entries_start] at passes
  exact ⟨r, past, rfl, passes⟩

theorem tokens_eq (jumps : firstContinuation? source target options = some c) :
    ∃ earlier jump d, JumpTokens jump c.reference ∧
      TokenStream.tokens source =
        earlier ++ jump ++ (TokenStream.tokens c.rest).map (Token.shift d) := by
  obtain ⟨r, past, rfl, -⟩ := exists_pastJump jumps
  obtain ⟨earlier, jump, isJump, tokens⟩ := past.tokens
  exact ⟨earlier, jump, r.feed.stream.offset, isJump, past.toCome_eq ▸ tokens⟩

theorem continues (room : (TokenStream.tokens source).length + 1 ≤ options.maxTokens)
    (jumps : firstContinuation? source target options = some c) :
    Continues c.statements c.reference (resolveReference c.rest c.reference options)
      (resolveTarget source target options) := by
  have roomInRest : (TokenStream.tokens c.rest).length + 1 ≤ options.maxTokens := by
    obtain ⟨earlier, jump, d, -, tokens⟩ := tokens_eq jumps
    have := congrArg List.length tokens
    simp only [List.length_append, List.length_map] at this
    omega
  rw [resolveReference, Reading.resolveTarget_eq source target room,
    Reading.resolveTarget_eq c.rest _ roomInRest]
  obtain ⟨r, past, rfl, passes⟩ := exists_pastJump jumps
  rw [passes.search_eq, past.search_eq, past.entries_eq]
  have related := @continues_search r.walk.statements r.walk.target.written source
    (String.ofList r.feed.stream.rest) options.strict r.feed.stream.offset
    (Outline.ofSource options (String.ofList r.feed.stream.rest)) [] [] false false
    (.ofReference r.walk.target.written) (fun _ => ⟨rfl, rfl⟩)
  rw [List.append_nil] at related
  exact related

end Continuation

/-- Resolving that jumps gives what was collected up to its first jump, followed by what the
reference of the jump gives in the text after it. -/
theorem resolveTarget_of_firstContinuation (source : String) (target : Target)
    (options : ScriptOptions) (c : Continuation)
    (room : (TokenStream.tokens source).length + 1 ≤ options.maxTokens)
    (jumps : firstContinuation? source target options = some c) :
    (∃ earlier jump d, JumpTokens jump c.reference ∧
      TokenStream.tokens source =
        earlier ++ jump ++ (TokenStream.tokens c.rest).map (Token.shift d)) ∧
    (∀ statements, resolveTarget source target options = .ok (c.statements ++ statements) ↔
      resolveReference c.rest c.reference options = .ok statements) ∧
    ((∃ fault, resolveTarget source target options = .error fault) ↔
      ∃ fault, resolveReference c.rest c.reference options = .error fault) ∧
    ∀ inWhole inRest, resolveTarget source target options = .error inWhole →
      resolveReference c.rest c.reference options = .error inRest →
      inRest.Continued c.reference inWhole := by
  refine ⟨Continuation.tokens_eq jumps, ?_⟩
  have continues := Continuation.continues room jumps
  generalize resolveTarget source target options = whole at continues
  generalize resolveReference c.rest c.reference options = rest at continues
  cases continues with
  | ok statements => simp [List.append_cancel_left_eq, eq_comm]
  | error continued =>
    refine ⟨by simp, by simp, ?_⟩
    intro inWhole inRest hw hr
    obtain rfl := Except.error.inj hw
    obtain rfl := Except.error.inj hr
    exact continued

def jumpAhead : String := "*a\nx\n[*b]\n*c\nno\n@end\n*b\ny\n@end\n"

theorem resolveReference_jumpAhead :
    firstContinuation? jumpAhead (.ofLabel "*a") ⟨4, 100, true⟩ =
        some ⟨[.text "x"], "*b", "]\n*c\nno\n@end\n*b\ny\n@end\n"⟩ ∧
      resolveReference "]\n*c\nno\n@end\n*b\ny\n@end\n" "*b" ⟨4, 100, true⟩ =
        .ok [.text "y"] := by
  have jumps : firstContinuation? jumpAhead (.ofLabel "*a") ⟨4, 100, true⟩ =
      some ⟨[.text "x"], "*b", "]\n*c\nno\n@end\n*b\ny\n@end\n"⟩ := by cbv
  obtain ⟨-, goesOn, -⟩ := resolveTarget_of_firstContinuation jumpAhead (.ofLabel "*a")
    ⟨4, 100, true⟩ _ (by cbv) jumps
  exact ⟨jumps, (goesOn [.text "y"]).mp (by cbv)⟩

end Storypath
