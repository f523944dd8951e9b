import Storypath.Proofs.Script.Grammar
import Storypath.Proofs.Script.Position
import Storypath.Proofs.Script.Reading

/-! Where strict reading stops. A construct is well formed if its tokens are all there, which is
said of the tokens alone. Main statement: a strict run that ends at a place in the script has gone
past well-formed constructs only, and the place is that of the token that begins the next one, which
cannot be completed to a well-formed construct. -/
namespace Storypath

namespace Outline

/-- A bracket with a name, or a bare one with any token for a name. -/
inductive LinkTokens : List Token → Prop
  | named {bracket : Token} (isBracket : bracket.kind = .jumpBracket)
      (name : bracket.targetName ≠ "") : LinkTokens [bracket]
  | bare {bracket : Token} (isBracket : bracket.kind = .jumpBracket)
      (noName : bracket.targetName = "") (name : Token) : LinkTokens [bracket, name]

inductive WayTokens : List Token → Prop
  | plain {marker : Token} {link : List Token} (isMarker : marker.kind = .branchMarker)
      (links : LinkTokens link) : WayTokens (marker :: link)
  | button {marker text : Token} {link : List Token} (isMarker : marker.kind = .branchMarker)
      (links : LinkTokens link) (isText : text.kind = .text) :
      WayTokens (marker :: (link ++ [text]))

/-- The tokens of one construct, white space apart, none of which is missing: a wait has a text, a
choice block a prompt, branches with links, and an end. -/
inductive WellFormed : List Token → Prop
  | single {t : Token}
      (alone : t.kind ∈ [.text, .label, .blockEnd, .branchMarker, .illegal]) : WellFormed [t]
  | jump {link : List Token} (links : LinkTokens link) : WellFormed link
  | wait {wait text : Token} (isWait : wait.kind = .wait) (isText : text.kind = .text) :
      WellFormed [wait, text]
  | choice {start close : Token} {ways : List (List Token)} (isStart : start.kind = .choiceBlockStart)
      (prompt : Token) (all : ∀ way ∈ ways, WayTokens way) (isEnd : close.kind = .blockEnd) :
      WellFormed (start :: prompt :: (ways.flatten ++ [close]))

variable {options : ScriptOptions} {t : Token} {ts rest : List Token}

theorem linkTokens_of_target (isBracket : t.kind = .jumpBracket) (ts : List Token) :
    (target t ts).2 = [] ∨ ∃ more, LinkTokens (t :: more) ∧ ts = more ++ (target t ts).2 := by
  by_cases bare : t.targetName = ""
  · cases ts with
    | nil => exact .inl (by simp [target, bare, name])
    | cons n ts => exact .inr ⟨[n], .bare isBracket bare n, by simp [target, bare, name]⟩
  · exact .inr ⟨[], .named isBracket bare, by simp [target, bare]⟩

theorem wayTokens_of_branch {marker : Token} (isMarker : marker.kind = .branchMarker) {b : Branch}
    (made : (branch ts).1 = some b) :
    (branch ts).2 = [] ∨ ∃ more, WayTokens (marker :: more) ∧ ts = more ++ (branch ts).2 := by
  cases ts with
  | nil => exact .inl rfl
  | cons t ts =>
    by_cases isBracket : t.kind = .jumpBracket
    · have left : (branch (t :: ts)).2 = (button (target t ts).2).2 := by simp [branch, isBracket]
      rw [left]
      rcases linkTokens_of_target isBracket ts with none | ⟨more, links, split⟩
      · exact .inl (by rw [none]; rfl)
      cases after : (target t ts).2 with
      | nil => exact .inl rfl
      | cons text rest =>
        rw [after] at split
        by_cases isText : text.kind = .text
        · exact .inr ⟨t :: (more ++ [text]), .button isMarker links isText,
            by simp [button, isText, split]⟩
        · exact .inr ⟨t :: more, .plain isMarker links, by simp [button, isText, split]⟩
    · simp [branch, isBracket] at made

theorem wayTokens_of_row (ts : List Token) (whole : (row ts).whole = true)
    (more : (row ts).rest ≠ []) :
    ∃ ways : List (List Token), (∀ way ∈ ways, WayTokens way) ∧
      ts = ways.flatten ++ (row ts).rest := by
  fun_induction row ts with
  | case1 => exact absurd rfl more
  | case2 t ts isMarker b made ih =>
    obtain ⟨ways, all, split⟩ := ih whole more
    rcases wayTokens_of_branch isMarker made with none | ⟨used, way, first⟩
    · rw [none] at more
      exact absurd (by simp [Row.after]) more
    · refine ⟨(t :: used) :: ways, by simpa [way] using all, ?_⟩
      calc
        t :: ts = t :: (used ++ (branch ts).2) := congrArg (t :: ·) first
        _ = t :: (used ++ (ways.flatten ++ (row (branch ts).2).rest)) := by rw [← split]
        _ = ((t :: used) :: ways).flatten ++ ((row (branch ts).2).after [b]).rest := by
          simp [Row.after]
  | case3 t ts isMarker none => simp at whole
  | case4 t ts other => exact ⟨[], by simp, rfl⟩

theorem wellFormed_of_block (isStart : t.kind = .choiceBlockStart)
    {made : String × List Branch} (ok : (block ts).1 = .ok made) :
    ∃ more, WellFormed (t :: more) ∧ ts = more ++ (block ts).2 := by
  cases ts with
  | nil => simp [block] at ok
  | cons prompt ts =>
    simp only [block] at ok ⊢
    cases whole : (row ts).whole with
    | false => simp [close, whole] at ok
    | true =>
      cases after : (row ts).rest with
      | nil => simp [close, whole, after] at ok
      | cons end_ rest =>
        by_cases isEnd : end_.kind = .blockEnd
        · obtain ⟨ways, all, split⟩ := wayTokens_of_row ts whole (by simp [after])
          refine ⟨prompt :: (ways.flatten ++ [end_]), .choice isStart prompt all isEnd, ?_⟩
          rw [after] at split
          simp [close, whole, after, isEnd, ← split]
        · simp [close, whole, after, isEnd] at ok

/-- A construct that strict reading lets pass is well formed, or it goes on to the end of the
script. -/
theorem wellFormed_of_construct (strict : options.strict = true)
    (counts : t.kind ≠ .whitespace ∧ t.kind ≠ .endOfInput) (ts : List Token)
    (passes : ∀ flaw, (construct options t ts).1 ≠ some (.flaw flaw)) :
    (construct options t ts).2 = [] ∨
      ∃ more, WellFormed (t :: more) ∧ ts = more ++ (construct options t ts).2 := by
  unfold construct at passes ⊢
  cases kind : t.kind with
  | whitespace => exact absurd kind counts.1
  | endOfInput => exact absurd kind counts.2
  | text | label | blockEnd | branchMarker | illegal =>
    exact .inr ⟨[], .single (by simp [kind]), rfl⟩
  | jumpBracket =>
    rcases linkTokens_of_target kind ts with none | ⟨more, links, split⟩
    · exact .inl none
    · exact .inr ⟨more, .jump links, split⟩
  | wait =>
    simp only [kind] at passes
    cases ts with
    | nil => simp [waitEntry, strict] at passes
    | cons text ts =>
      by_cases isText : text.kind = .text
      · exact .inr ⟨[text], .wait kind isText, by simp [waitEntry, isText]⟩
      · simp [waitEntry, isText, strict] at passes
  | choiceBlockStart =>
    simp only [kind] at passes
    cases made : (block ts).1 with
    | error flaw => simp [choiceEntry, made, strict] at passes
    | ok choice =>
      obtain ⟨more, wellFormed, split⟩ := wellFormed_of_block kind made
      exact .inr ⟨more, wellFormed, by simpa [choiceEntry, made] using split⟩

theorem target_of_linkTokens {more : List Token} (links : LinkTokens (t :: more))
    (rest : List Token) : t.kind = .jumpBracket ∧ (target t (more ++ rest)).2 = rest := by
  cases links with
  | named isBracket given => exact ⟨isBracket, by simp [target, given]⟩
  | bare isBracket noName n => exact ⟨isBracket, by simp [target, noName, name]⟩

theorem branch_of_linkTokens {link : List Token} (links : LinkTokens link) (rest : List Token) :
    ∃ b, branch (link ++ rest) = (some b, (button rest).2) := by
  obtain ⟨bracket, more, rfl⟩ : ∃ bracket more, link = bracket :: more := by
    cases links <;> exact ⟨_, _, rfl⟩
  obtain ⟨isBracket, left⟩ := target_of_linkTokens links rest
  exact ⟨⟨(target bracket (more ++ rest)).1, (button rest).1⟩, by simp [branch, isBracket, left]⟩

theorem row_of_wayTokens {end_ : Token} {ways : List (List Token)}
    (all : ∀ way ∈ ways, WayTokens way) (isEnd : end_.kind = .blockEnd) (rest : List Token) :
    (row (ways.flatten ++ end_ :: rest)).whole = true ∧
      (row (ways.flatten ++ end_ :: rest)).rest = end_ :: rest := by
  induction ways with
  | nil => simp [row_cons, isEnd]
  | cons way ways ih =>
    have later := ih fun way mem => all way (by simp [mem])
    -- What comes after a branch is a marker or the end, and so no text of a button.
    have unread : (button (ways.flatten ++ end_ :: rest)).2 = ways.flatten ++ end_ :: rest := by
      cases ways with
      | nil => simp [button, isEnd]
      | cons next ways =>
        cases all next (by simp) with
        | plain isMarker => simp [button, isMarker]
        | button isMarker => simp [button, isMarker]
    cases all way (by simp) with
    | @plain marker link isMarker links =>
      obtain ⟨b, made⟩ := branch_of_linkTokens links (ways.flatten ++ end_ :: rest)
      rw [unread] at made
      rw [List.flatten_cons, List.append_assoc, List.cons_append, row_cons, if_pos isMarker,
        markedRow, made]
      exact later
    | @button marker text link isMarker links isText =>
      obtain ⟨b, made⟩ := branch_of_linkTokens links (text :: (ways.flatten ++ end_ :: rest))
      have used : (Outline.button (text :: (ways.flatten ++ end_ :: rest))).2 =
          ways.flatten ++ end_ :: rest := by
        simp [Outline.button, isText]
      rw [used] at made
      rw [List.flatten_cons, List.append_assoc, List.cons_append, List.append_assoc,
        List.singleton_append, row_cons, if_pos isMarker, markedRow, made]
      exact later

/-- A well-formed construct is read to its end and no further, and passes. -/
theorem construct_of_wellFormed {more : List Token} (wellFormed : WellFormed (t :: more))
    (rest : List Token) :
    (construct options t (more ++ rest)).2 = rest ∧
      ∀ flaw, (construct options t (more ++ rest)).1 ≠ some (.flaw flaw) := by
  cases wellFormed with
  | single alone =>
    simp only [List.mem_cons, List.not_mem_nil, or_false] at alone
    rcases alone with kind | kind | kind | kind | kind <;> simp [construct, kind]
  | jump links =>
    obtain ⟨kind, left⟩ := target_of_linkTokens links rest
    simp [construct, kind, left]
  | wait isWait isText => simp [construct, isWait, waitEntry, isText]
  | @choice _ end_ ways isStart prompt all isEnd =>
    obtain ⟨whole, left⟩ := row_of_wayTokens all isEnd rest
    simp [construct, isStart, block, close, whole, left, isEnd, choiceEntry]

theorem WellFormed.exists_cons {head : List Token} (wellFormed : WellFormed head) :
    ∃ t more, head = t :: more := by
  cases wellFormed with
  | jump links => cases links <;> exact ⟨_, _, rfl⟩
  | _ => exact ⟨_, _, rfl⟩

theorem flaw_of_construct {flaw : Flaw} (made : (construct options t ts).1 = some (.flaw flaw)) :
    (t.kind = .wait ∧ ∃ found, flaw = .wait t.offset found) ∨
      t.kind = .choiceBlockStart ∧ ∃ why, flaw = .choice t.offset why := by
  unfold construct at made
  cases kind : t.kind with
  | wait =>
    refine .inl ⟨rfl, ?_⟩
    cases ts with
    | nil =>
      obtain ⟨-, rfl⟩ : options.strict = true ∧ .wait t.offset "" = flaw := by
        simpa [kind, waitEntry, apply_ite Prod.fst] using made
      exact ⟨_, rfl⟩
    | cons text ts =>
      by_cases isText : text.kind = .text <;> by_cases strict : options.strict = true <;>
        simp [kind, waitEntry, isText, strict] at made
      exact ⟨_, made.symm⟩
  | choiceBlockStart =>
    refine .inr ⟨rfl, ?_⟩
    cases parsed : (block ts).1 with
    | ok choice => simp [kind, choiceEntry, parsed] at made
    | error why =>
      by_cases strict : options.strict = true <;> simp [kind, choiceEntry, parsed, strict] at made
      exact ⟨_, made.symm⟩
  | _ => simp [kind] at made

theorem first_or_later {made? : Option Entry} {rest es : List Entry} {items : List Item} {flaw : Flaw}
    (made : made?.toList ++ rest = items.map .item ++ .flaw flaw :: es) :
    made? = some (.flaw flaw) ∨ (∀ flaw', made? ≠ some (.flaw flaw')) ∧
      ∃ later : List Item, rest = later.map .item ++ .flaw flaw :: es := by
  cases made? with
  | none => exact .inr ⟨by simp, items, made⟩
  | some e =>
    cases items with
    | nil => exact .inl (congrArg some (List.cons.inj made).1)
    | cons item items =>
      obtain ⟨rfl, later⟩ := List.cons.inj made
      exact .inr ⟨by simp, items, later⟩

/-- The constructs that come before the first flaw of a strict outline are well formed. -/
theorem exists_malformed {items : List Item} {flaw : Flaw} {es : List Entry}
    (strict : options.strict = true)
    (counts : ∀ t ∈ ts, t.kind ≠ .whitespace ∧ t.kind ≠ .endOfInput)
    (made : entries options ts = items.map .item ++ .flaw flaw :: es) :
    ∃ (earlier : List (List Token)) (t : Token) (later : List Token),
      ts = earlier.flatten ++ t :: later ∧ (∀ c ∈ earlier, WellFormed c) ∧
        (construct options t later).1 = some (.flaw flaw) := by
  fun_induction entries options ts generalizing items with
  | case1 => cases items <;> simp at made
  | case2 t ts ih =>
    rcases first_or_later made with flawed | ⟨passes, items', made'⟩
    · exact ⟨[], t, ts, rfl, by simp, flawed⟩
    rcases wellFormed_of_construct strict (counts t (by simp)) ts passes with
      none | ⟨more, wellFormed, split⟩
    · rw [none] at made'
      cases items' <;> simp at made'
    · obtain ⟨earlier, t', later, split', all, flawed⟩ :=
        ih (fun t' mem => counts t' (by rw [split]; simp [mem])) made'
      refine ⟨(t :: more) :: earlier, t', later, ?_, by simpa [wellFormed] using all, flawed⟩
      rw [List.flatten_cons, List.append_assoc, ← split', List.cons_append, ← split]

end Outline

namespace Walk

variable {w w' : Walk} {es es' : List Entry}

theorem Passes.exists_items (passes : Passes w es w' es') :
    ∃ items : List Item, es = items.map .item ++ es' := by
  induction passes with
  | none => exact ⟨[], rfl⟩
  | @item _ _ _ item _ _ _ _ ih =>
    obtain ⟨items, rfl⟩ := ih
    exact ⟨item :: items, rfl⟩

theorem Ends.exists_flaw {source : String} {strict : Bool} {fault : ScriptFault} {place : Location}
    (ends : Ends source strict w es (.error fault)) (placed : fault.place? = some place) :
    ∃ flaw later, es = .flaw flaw :: later ∧ fault = flaw.fault source := by
  generalize failed : Except.error fault = outcome at ends
  cases ends with
  | closed pass => simp at failed
  | refused flaw later => exact ⟨flaw, later, rfl, Except.error.inj failed⟩
  | finished =>
    cases busy : w.collecting <;> cases strict <;> cases matched : w.matched <;>
      simp [finish, busy, matched] at failed
    all_goals simp [failed, ScriptFault.place?] at placed

end Walk

namespace Grammar

theorem Lexeme.kind_ne {kind : TokenKind} {literal rest : List Char}
    (lexeme : Lexeme kind literal rest) : kind ≠ .endOfInput := by
  cases lexeme with
  | command more known => cases known <;> simp
  | _ => simp

theorem Lexeme.lineFeed_notMem {kind : TokenKind} {literal rest : List Char}
    (lexeme : Lexeme kind literal rest) (command : kind = .wait ∨ kind = .choiceBlockStart) :
    '\n' ∉ literal := by
  cases lexeme with
  | command more known => cases known <;> simp at command ⊢
  | _ => simp at command

end Grammar

theorem Token.pointsAt_of_mem {source : String} {t : Token} (mem : t ∈ TokenStream.tokens source)
    (command : t.kind = .wait ∨ t.kind = .choiceBlockStart) :
    (Location.ofOffset source t.offset).PointsAt source t.offset t.literal := by
  obtain ⟨front, back, whole, offset, lexeme⟩ := Grammar.exists_around mem
  rw [← offset, whole]
  exact Location.pointsAt_ofOffset front t.literal back (lexeme.lineFeed_notMem command)

/-- A place in a script is that of its first malformed construct, which begins with a token of that
kind: the constructs before it are well formed, and none begins there that is. -/
def FirstMalformed (source : String) (kind : TokenKind) (place : Location) : Prop :=
  ∃ (earlier : List (List Token)) (t : Token) (later : List Token),
    counting (TokenStream.tokens source) = earlier.flatten ++ t :: later ∧
    (∀ c ∈ earlier, Outline.WellFormed c) ∧
    (∀ head rest, t :: later = head ++ rest → ¬ Outline.WellFormed head) ∧
    t.kind = kind ∧ place.PointsAt source t.offset t.literal

theorem exists_firstMalformed {source : String} {options : ScriptOptions} {items : List Item}
    {flaw : Flaw} {later : List Entry} (strict : options.strict = true)
    (made : Outline.ofSource options source = items.map .item ++ .flaw flaw :: later) :
    ∃ place kind, (flaw.fault source).place? = some place ∧ FirstMalformed source kind place ∧
      ((kind = .wait ∧ (flaw.fault source).code = "PARSE_MALFORMED_WAIT") ∨
        kind = .choiceBlockStart ∧ (flaw.fault source).code = "PARSE_MALFORMED_CHOICE_BLOCK") := by
  have counts : ∀ t ∈ counting (TokenStream.tokens source),
      t.kind ≠ .whitespace ∧ t.kind ≠ .endOfInput := by
    intro t mem
    obtain ⟨mem, counts⟩ := List.mem_filter.mp mem
    obtain ⟨front, back, -, -, lexeme⟩ := Grammar.exists_around mem
    exact ⟨by simpa [Token.isWhitespace] using counts, lexeme.kind_ne⟩
  obtain ⟨earlier, t, rest, split, all, flawed⟩ := Outline.exists_malformed strict counts made
  have mem : t ∈ TokenStream.tokens source := by
    have counted : t ∈ counting (TokenStream.tokens source) := by simp [split]
    exact List.mem_of_mem_filter counted
  have none_ : ∀ head rest', t :: rest = head ++ rest' → ¬ Outline.WellFormed head := by
    intro head rest' same wellFormed
    obtain ⟨t', more, rfl⟩ := wellFormed.exists_cons
    obtain ⟨rfl, rfl⟩ : t = t' ∧ rest = more ++ rest' := by simpa using same
    exact (Outline.construct_of_wellFormed wellFormed rest').2 flaw flawed
  rcases Outline.flaw_of_construct flawed with ⟨kind, found, rfl⟩ | ⟨kind, why, rfl⟩
  · exact ⟨_, .wait, rfl, ⟨earlier, t, rest, split, all, none_, kind,
      Token.pointsAt_of_mem mem (.inl kind)⟩, .inl ⟨rfl, rfl⟩⟩
  · exact ⟨_, .choiceBlockStart, rfl, ⟨earlier, t, rest, split, all, none_, kind,
      Token.pointsAt_of_mem mem (.inr kind)⟩, .inr ⟨rfl, rfl⟩⟩

/-- A strict fault has a place in the script if and only if it is a malformed choice block or a
malformed wait, and the place is that of the first malformed construct, the one that it names. -/
theorem resolveTarget_place (source : String) (target : Target) (maxBranches maxTokens : Nat)
    (fault : ScriptFault)
    (failed : resolveTarget source target ⟨maxBranches, maxTokens, true⟩ = .error fault) :
    (fault.place?.isSome ↔
      fault.code = "PARSE_MALFORMED_CHOICE_BLOCK" ∨ fault.code = "PARSE_MALFORMED_WAIT") ∧
    ∀ place, fault.place? = some place →
      (fault.code = "PARSE_MALFORMED_CHOICE_BLOCK" ∧ FirstMalformed source .choiceBlockStart place) ∨
        (fault.code = "PARSE_MALFORMED_WAIT" ∧ FirstMalformed source .wait place) := by
  refine ⟨by cases fault <;> simp [ScriptFault.place?, ScriptFault.code], fun place placed => ?_⟩
  have sound := Reading.sound_start ⟨maxBranches, maxTokens, true⟩ source target
  obtain ⟨passes, soundLast⟩ := Reading.passes_last source _ sound
  rw [Reading.entries_start] at passes
  obtain ⟨items, outline⟩ := passes.exists_items
  have step := Reading.step_last source ⟨maxBranches, maxTokens, true⟩ (.start source target)
  rw [← resolveTarget, failed] at step
  rcases Reading.step_inr soundLast step with ⟨-, limit⟩ | ends
  · obtain rfl := Except.error.inj limit
    simp [ScriptFault.place?] at placed
  · obtain ⟨flaw, later, ahead, rfl⟩ := ends.exists_flaw placed
    rw [ahead] at outline
    obtain ⟨place', kind, placed', first, which⟩ := exists_firstMalformed rfl outline
    obtain rfl : place' = place := Option.some.inj (placed'.symm.trans placed)
    rcases which with ⟨rfl, code⟩ | ⟨rfl, code⟩
    · exact .inr ⟨code, first⟩
    · exact .inl ⟨code, first⟩

def lateStory : String := "*a\né\r @buttons\nGo?\n- [b] x\n- y\n@end\n"

theorem resolveTarget_lateStory :
    resolveTarget lateStory (.ofLabel "*a") ⟨4, 100, true⟩ =
        .error (.malformedChoice .branchWithoutTarget ⟨2, 4⟩) ∧
      FirstMalformed lateStory .choiceBlockStart ⟨2, 4⟩ := by
  have failed : resolveTarget lateStory (.ofLabel "*a") ⟨4, 100, true⟩ =
      .error (.malformedChoice .branchWithoutTarget ⟨2, 4⟩) := by cbv
  rcases (resolveTarget_place _ _ _ _ _ failed).2 _ rfl with ⟨-, first⟩ | ⟨other, -⟩
  · exact ⟨failed, first⟩
  · simp [ScriptFault.code] at other

end Storypath
