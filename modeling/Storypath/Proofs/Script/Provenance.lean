import Storypath.Proofs.Script.Grammar
import Storypath.Proofs.Script.Search
import Storypath.Proofs.Script.Strictness

/-! Where the statements of a segment come from. A search gathers, keeps and brings back, but at any
time what it has gathered and what it has kept leave out some of the statements it went past and do
nothing else to them; and what a statement tells is read off tokens that follow each other. Main
statement: a segment leaves out some of the statements of the whole script, and these take what they
tell from the script piece by piece. -/
namespace Storypath

namespace Item

def statement? : Item → Option Statement
  | .text t => some (.text t)
  | .pause d => some (.pause d)
  | .choice prompt branches => some (.choice prompt branches)
  | .brokenChoice | .label _ | .jump _ | .blockEnd => none

end Item

def Entry.statement? : Entry → Option Statement
  | .item i => i.statement?
  | .flaw _ => none

def Outline.statements (es : List Entry) : List Statement := es.filterMap Entry.statement?

theorem Outline.statements_cons (item : Item) (es : List Entry) :
    statements (.item item :: es) = item.statement?.toList ++ statements es := by
  cases made : item.statement? <;> simp [statements, Entry.statement?, made]

/-- What a search has gathered and kept are parts of the statements it went past, and so is what it
gives. -/
theorem search_sublist {source : String} {strict : Bool}
    {current saved passed result : List Statement} {collecting matched : Bool} {target : Target}
    {es : List Entry} (gathered : current.Sublist passed) (kept : saved.Sublist passed)
    (given : search source strict current saved collecting matched target es = .ok result) :
    result.Sublist (passed ++ Outline.statements es) := by
  induction es generalizing current saved passed collecting matched target with
  | nil =>
    have here : current = result := by
      cases collecting <;> cases strict <;> simp [search] at given <;> exact given
    simpa [Outline.statements, ← here] using gathered
  | cons e es ih =>
    cases e with
    | flaw flaw => simp [search] at given
    | item item =>
      rw [Outline.statements_cons, ← List.append_assoc]
      have kept' := kept.trans (List.sublist_append_left passed item.statement?.toList)
      have gathered' := gathered.trans (List.sublist_append_left passed item.statement?.toList)
      cases item with
      | text t => exact ih (gathered.append (.refl [_])) kept' given
      | pause d => exact ih (gathered.append (.refl [_])) kept' given
      | choice prompt branches =>
        have more := gathered.append (.refl [Statement.choice prompt branches])
        cases collecting with
        | false => exact ih more kept' given
        | true =>
          obtain rfl := Except.ok.inj given
          exact more.trans (List.sublist_append_left _ _)
      | brokenChoice | blockEnd =>
        cases collecting with
        | false => exact ih gathered' kept' given
        | true =>
          obtain rfl := Except.ok.inj given
          exact gathered'.trans (List.sublist_append_left _ _)
      | label l =>
        by_cases met : target.isMetBy l
        · -- What was gathered since is dropped, and both are what was kept.
          rw [search, if_pos met] at given
          exact ih kept' kept' given
        · rw [search, if_neg met] at given
          exact ih gathered' kept' given
      | jump reference =>
        cases collecting with
        | false => exact ih gathered' kept' given
        | true =>
          -- What is gathered is kept from here on, for the target of the jump.
          exact ih gathered' gathered' given

theorem search_unmet {source : String} {current saved : List Statement} {matched : Bool}
    {target : Target} {items : List Item} (unmet : ∀ item ∈ items, item.meets target = false) :
    search source false current saved false matched target (items.map .item) =
      .ok (current ++ Outline.statements (items.map .item)) := by
  induction items generalizing current with
  | nil => simp [search, Outline.statements]
  | cons item items ih =>
    have ih' := fun current => @ih current fun item mem => unmet item (by simp [mem])
    have here := unmet item (by simp)
    cases item with
    | label l =>
      rw [List.map_cons, search, if_neg (by simpa [Item.meets] using here), ih']
      rfl
    | _ => simp [search, ih', Outline.statements_cons, Item.statement?]

def Branch.literals (b : Branch) : List String :=
  b.targetLabel :: if b.buttonText = "" then [] else [b.buttonText]

def Statement.literals : Statement → List String
  | .text t => [t]
  | .pause d => [d]
  | .choice prompt branches => prompt :: branches.flatMap Branch.literals

def Item.literals (item : Item) : List String := item.statement?.toList.flatMap Statement.literals

namespace Outline

theorem literals_statements (items : List Item) :
    (statements (items.map .item)).flatMap Statement.literals = items.flatMap Item.literals := by
  induction items with
  | nil => rfl
  | cons item items ih =>
    rw [List.map_cons, statements_cons, List.flatMap_append, ih, List.flatMap_cons, Item.literals]

/-- The literals that are read off some tokens up to others, one at most of each token. A target is
read as empty where there are no tokens any more. -/
inductive ReadOff : List Token → List String → List Token → Prop
  | done (ts : List Token) : ReadOff ts [] ts
  | skip {t : Token} {ts rest : List Token} {literals : List String}
      (more : ReadOff ts literals rest) : ReadOff (t :: ts) literals rest
  | whole {t : Token} {ts rest : List Token} {literals : List String}
      (more : ReadOff ts literals rest) : ReadOff (t :: ts) (t.literal :: literals) rest
  | named {t : Token} {ts rest : List Token} {literals : List String} (own : t.targetName ≠ "")
      (more : ReadOff ts literals rest) : ReadOff (t :: ts) (t.targetName :: literals) rest
  | missing {rest : List Token} {literals : List String} (more : ReadOff [] literals rest) :
      ReadOff [] ("" :: literals) rest

namespace ReadOff

variable {ts mid rest : List Token} {first second literals : List String}

theorem trans (before : ReadOff ts first mid) (after : ReadOff mid second rest) :
    ReadOff ts (first ++ second) rest := by
  induction before with
  | done => exact after
  | skip _ ih => exact .skip (ih after)
  | whole _ ih => exact .whole (ih after)
  | named own _ ih => exact .named own (ih after)
  | missing _ ih => exact .missing (ih after)

theorem sublist (off : ReadOff ts literals rest) {fewer : List String}
    (sub : fewer.Sublist literals) : ReadOff ts fewer rest := by
  induction off generalizing fewer with
  | done =>
    obtain rfl := List.sublist_nil.mp sub
    exact .done _
  | skip _ ih => exact .skip (ih sub)
  | whole _ ih =>
    cases sub with
    | cons _ sub => exact .skip (ih sub)
    | cons_cons _ sub => exact .whole (ih sub)
  | named own _ ih =>
    cases sub with
    | cons _ sub => exact .skip (ih sub)
    | cons_cons _ sub => exact .named own (ih sub)
  | missing _ ih =>
    cases sub with
    | cons _ sub => exact ih sub
    | cons_cons _ sub => exact .missing (ih sub)

theorem rest_of_nil (off : ReadOff [] literals rest) : rest = [] := by
  generalize nothing : ([] : List Token) = ts at off
  induction off with
  | done => rfl
  | missing _ ih => exact ih rfl
  | _ => simp at nothing

theorem subset (off : ReadOff ts literals rest) : rest ⊆ ts := by
  induction off with
  | done ts => exact List.Subset.refl ts
  | skip _ ih | whole _ ih | named _ _ ih => exact List.subset_cons_of_subset _ ih
  | missing _ ih => exact ih

theorem nonempty (off : ReadOff ts literals rest) (full : ∀ t ∈ ts, t.literal ≠ "")
    (left : rest ≠ []) : "" ∉ literals := by
  induction off with
  | done => simp
  | skip _ ih => exact ih (fun t mem => full t (by simp [mem])) left
  | @whole t _ _ _ _ ih =>
    simpa [Ne.symm (full t (by simp))] using ih (fun t mem => full t (by simp [mem])) left
  | named own _ ih =>
    simpa [Ne.symm own] using ih (fun t mem => full t (by simp [mem])) left
  | missing more ih => exact absurd more.rest_of_nil left

end ReadOff

variable {options : ScriptOptions}

theorem readOff_name (ts : List Token) : ReadOff ts [(name ts).1] (name ts).2 := by
  cases ts with
  | nil => exact .missing (.done [])
  | cons t ts => exact .whole (.done ts)

theorem readOff_target (bracket : Token) (ts : List Token) :
    ReadOff (bracket :: ts) [(target bracket ts).1] (target bracket ts).2 := by
  by_cases own : bracket.targetName = ""
  · rw [target, if_pos own]
    exact .skip (readOff_name ts)
  · rw [target, if_neg own]
    exact .named own (.done ts)

theorem readOff_button (ts : List Token) :
    ReadOff ts (if (button ts).1 = "" then [] else [(button ts).1]) (button ts).2 := by
  cases ts with
  | nil => exact .done []
  | cons t ts =>
    by_cases text : t.kind = .text
    · by_cases empty : t.literal = ""
      · simpa [button, text, empty] using ReadOff.skip (.done ts)
      · simpa [button, text, empty] using ReadOff.whole (.done ts)
    · simpa [button, text] using ReadOff.done (t :: ts)

theorem readOff_branch (ts : List Token) :
    ReadOff ts ((branch ts).1.toList.flatMap Branch.literals) (branch ts).2 := by
  cases ts with
  | nil => exact .done []
  | cons t ts =>
    by_cases bracket : t.kind = .jumpBracket
    · simpa [branch, bracket, Branch.literals] using
        (readOff_target t ts).trans (readOff_button (target t ts).2)
    · simpa [branch, bracket] using ReadOff.done (t :: ts)

theorem readOff_row (ts : List Token) :
    ReadOff ts ((row ts).branches.flatMap Branch.literals) (row ts).rest := by
  fun_induction row ts with
  | case1 => exact .done []
  | case2 t ts marked b found ih =>
    have first := readOff_branch ts
    rw [found] at first
    simpa [Row.after] using ReadOff.skip (first.trans ih)
  | case3 t ts marked none =>
    have first := readOff_branch ts
    rw [none] at first
    exact .skip first
  | case4 t ts unmarked => exact .done (t :: ts)

theorem readOff_block {ts : List Token} (full : ∀ t ∈ ts, t.literal ≠ "") :
    match block ts with
    | (.ok (prompt, branches), rest) =>
      ReadOff ts (prompt :: branches.flatMap Branch.literals) rest ∧
        "" ∉ prompt :: branches.flatMap Branch.literals
    | (.error _, rest) => ReadOff ts [] rest := by
  cases ts with
  | nil => exact .done []
  | cons t ts =>
    have read : ReadOff (t :: ts) (t.literal :: (row ts).branches.flatMap Branch.literals)
      (row ts).rest := .whole (readOff_row ts)
    have past := read.sublist (List.nil_sublist _)
    cases whole : (row ts).whole with
    | false => simpa [block, close, whole] using past
    | true =>
      cases left : (row ts).rest with
      | nil => simpa [block, close, whole, left] using left ▸ past
      | cons t' rest =>
        rw [left] at read past
        by_cases ends : t'.kind = .blockEnd
        · have closed := read.trans (.skip (.done rest))
          rw [List.append_nil] at closed
          have made : block (t :: ts) = (.ok (t.literal, (row ts).branches), rest) := by
            simp [block, close, whole, left, ends]
          rw [made]
          exact ⟨closed, read.nonempty full (by simp)⟩
        · simpa [block, close, whole, left, ends] using past

/-- What comes of tokens where reading is not strict: nothing, or an item, whose literals are read
off the tokens. -/
inductive Comes (ts : List Token) : Option Entry × List Token → Prop
  | nothing {rest : List Token} (past : ReadOff ts [] rest) : Comes ts (none, rest)
  | item {item : Item} {rest : List Token} (off : ReadOff ts item.literals rest)
      (full : "" ∉ item.literals) (named : item ≠ .label "") : Comes ts (some (.item item), rest)

theorem Comes.skip {t : Token} {ts : List Token} {made : Option Entry × List Token}
    (comes : Comes ts made) : Comes (t :: ts) made := by
  cases comes with
  | nothing past => exact .nothing (.skip past)
  | item off full named => exact .item (.skip off) full named

theorem comes_waitEntry (lenient : options.strict = false) (start : Nat) {ts : List Token}
    (full : ∀ t ∈ ts, t.literal ≠ "") : Comes ts (waitEntry options start ts) := by
  cases ts with
  | nil => simpa [waitEntry, lenient] using Comes.nothing (.done [])
  | cons t ts =>
    have here : waitEntry options start (t :: ts) = (some (.item (.pause t.literal)), ts) := by
      by_cases text : t.kind = .text <;> simp [waitEntry, lenient, text]
    have told : "" ∉ (Item.pause t.literal).literals := by
      simpa [Item.literals, Item.statement?, Statement.literals] using Ne.symm (full t (by simp))
    rw [here]
    exact .item (.whole (.done ts)) told (by simp)

theorem comes_choiceEntry (lenient : options.strict = false) (start : Nat) {ts : List Token}
    (full : ∀ t ∈ ts, t.literal ≠ "") : Comes ts (choiceEntry options start (block ts)) := by
  have read := readOff_block full
  rcases made : block ts with ⟨flaw | ⟨prompt, branches⟩, rest⟩ <;> rw [made] at read
  · rw [choiceEntry, lenient]
    exact .item read (by simp [Item.literals, Item.statement?]) (by simp)
  · obtain ⟨off, full⟩ := read
    have cut : (prompt :: (branches.take options.maxBranches).flatMap Branch.literals).Sublist
        (prompt :: branches.flatMap Branch.literals) :=
      .cons_cons prompt ((List.take_sublist _ _).flatMap _)
    have same : (Item.choice prompt (branches.take options.maxBranches)).literals =
        prompt :: (branches.take options.maxBranches).flatMap Branch.literals := by
      simp [Item.literals, Item.statement?, Statement.literals]
    refine .item ?_ ?_ (by simp) <;> rw [same]
    · exact off.sublist cut
    · exact fun mem => full (cut.subset mem)

theorem comes_construct (lenient : options.strict = false) {t : Token} {ts : List Token}
    (full : ∀ t' ∈ t :: ts, t'.literal ≠ "") : Comes (t :: ts) (construct options t ts) := by
  have here : t.literal ≠ "" := full t (by simp)
  have later : ∀ t' ∈ ts, t'.literal ≠ "" := fun t' mem => full t' (by simp [mem])
  have past : ReadOff (t :: ts) [] ts := .skip (.done ts)
  unfold construct
  cases t.kind with
  | text =>
    have told : "" ∉ (Item.text t.literal).literals := by
      simpa [Item.literals, Item.statement?, Statement.literals] using Ne.symm here
    exact .item (.whole (.done ts)) told (by simp)
  | label => exact .item past (by simp [Item.literals, Item.statement?]) (by simpa using here)
  | blockEnd => exact .item past (by simp [Item.literals, Item.statement?]) (by simp)
  | jumpBracket =>
    exact .item ((readOff_target t ts).sublist (List.nil_sublist _))
      (by simp [Item.literals, Item.statement?]) (by simp)
  | wait => exact (comes_waitEntry lenient t.offset later).skip
  | choiceBlockStart => exact (comes_choiceEntry lenient t.offset later).skip
  | endOfInput | whitespace | branchMarker | illegal => exact .nothing past

/-- Where reading is not strict, all entries are items. Their literals are read off the tokens one
after the other, and none of them is the empty label. -/
theorem readOff_entries (lenient : options.strict = false) {ts : List Token}
    (full : ∀ t ∈ ts, t.literal ≠ "") :
    ∃ items : List Item, entries options ts = items.map .item ∧
      ReadOff ts (items.flatMap Item.literals) [] ∧ "" ∉ items.flatMap Item.literals ∧
      .label "" ∉ items := by
  fun_induction entries options ts with
  | case1 => exact ⟨[], rfl, .done [], by simp, by simp⟩
  | case2 t ts ih =>
    have comes := comes_construct lenient full
    rcases made : construct options t ts with ⟨found, rest⟩
    rw [made] at comes ih
    cases comes with
    | nothing past =>
      obtain ⟨items, all, off, told, named⟩ := ih fun t mem => full t (past.subset mem)
      exact ⟨items, by simp [all], past.trans off, told, named⟩
    | @item item _ off told named =>
      obtain ⟨items, all, off', told', named'⟩ := ih fun t mem => full t (off.subset mem)
      refine ⟨item :: items, by simp [all], ?_, ?_, ?_⟩
      · rw [List.flatMap_cons]
        exact off.trans off'
      · rw [List.flatMap_cons, List.mem_append, not_or]
        exact ⟨told, told'⟩
      · rw [List.mem_cons, not_or]
        exact ⟨Ne.symm named, named'⟩

end Outline

structure Span where
  start : Nat
  stop : Nat

structure Span.Holds (source text : String) (span : Span) : Prop where
  nonempty : span.start < span.stop
  cut : ∃ before after, source = before ++ text ++ after ∧ span.start = before.utf8ByteSize ∧
    span.stop = span.start + text.utf8ByteSize

/-- Texts stand in a script one after the other, each in a range of its own, none of them before
`start` and no two ranges with a byte in common. -/
def StandInOrder (source : String) (start : Nat) (texts : List String) : Prop :=
  ∃ spans : List Span, List.Forall₂ (Span.Holds source) texts spans ∧
    spans.Pairwise (fun first second => first.stop ≤ second.start) ∧
      ∀ span ∈ spans, start ≤ span.start

theorem StandInOrder.nil (source : String) (start : Nat) : StandInOrder source start [] :=
  ⟨[], .nil, .nil, by simp⟩

theorem StandInOrder.mono {source : String} {start start' : Nat} {texts : List String}
    (earlier : start' ≤ start) (stand : StandInOrder source start texts) :
    StandInOrder source start' texts := by
  obtain ⟨spans, all, apart, later⟩ := stand
  exact ⟨spans, all, apart, fun span mem => Nat.le_trans earlier (later span mem)⟩

theorem StandInOrder.cons {source text : String} {span : Span} {texts : List String}
    (holds : span.Holds source text) (stand : StandInOrder source span.stop texts) :
    StandInOrder source span.start (text :: texts) := by
  obtain ⟨spans, all, apart, later⟩ := stand
  refine ⟨span :: spans, .cons holds all, List.pairwise_cons.mpr ⟨later, apart⟩, ?_⟩
  rintro span' (_ | ⟨_, mem⟩)
  · exact Nat.le_refl _
  · exact Nat.le_trans (Nat.le_of_lt holds.nonempty) (later span' mem)

theorem StandInOrder.piece {before sign text after : String} {texts : List String}
    (full : text ≠ "") (stand : StandInOrder (before ++ (sign ++ text) ++ after)
      (before.utf8ByteSize + (sign ++ text).utf8ByteSize) texts) :
    StandInOrder (before ++ (sign ++ text) ++ after) before.utf8ByteSize (text :: texts) := by
  have some_ : text.utf8ByteSize ≠ 0 := by simpa using full
  have sizes : (before ++ sign).utf8ByteSize + text.utf8ByteSize =
      before.utf8ByteSize + (sign ++ text).utf8ByteSize := by
    simp [Nat.add_assoc]
  have holds : Span.Holds (before ++ (sign ++ text) ++ after) text
      ⟨(before ++ sign).utf8ByteSize, (before ++ sign).utf8ByteSize + text.utf8ByteSize⟩ :=
    ⟨by dsimp only; omega, before ++ sign, after, by simp [String.append_assoc], rfl, rfl⟩
  refine (StandInOrder.cons holds ?_).mono ?_
  · dsimp only
    rwa [sizes]
  · simp

theorem Token.literal_eq (t : Token) :
    t.literal = t.targetName ∨ t.literal = "[" ++ t.targetName := by
  unfold targetName
  split
  · split
    · next name bracket =>
      refine .inr (String.toList_inj.mp ?_)
      simp [bracket]
    · exact .inl rfl
  · exact .inl rfl

theorem Token.extent_append_after (c : Char) (cs : List Char) :
    extent c cs ++ String.ofList (after c cs) = String.ofList (c :: cs) := by
  rw [extent, after, ← String.ofList_append, List.cons_append, List.takeWhile_append_dropWhile]

theorem Outline.ReadOff.standInOrder {before : String} {cs : List Char} {offset : Nat}
    {literals : List String} {rest : List Token} (here : before.utf8ByteSize = offset)
    (off : ReadOff (TokenStream.significant cs offset) literals rest) (full : "" ∉ literals) :
    StandInOrder (before ++ String.ofList cs) offset literals := by
  -- Along the tokens: each is the piece of the script between its offset and the next one's.
  fun_induction TokenStream.listFrom cs offset generalizing before literals with
  | case1 offset =>
    rw [TokenStream.significant_nil] at off
    cases off with
    | done => exact .nil _ _
    | missing => simp at full
  | case2 offset c cs ih =>
    subst here
    let t := Token.starting c cs before.utf8ByteSize
    let stop := before.utf8ByteSize + t.literal.utf8ByteSize
    have cut : before ++ String.ofList (c :: cs) =
        before ++ t.literal ++ String.ofList (Token.after c cs) := by
      rw [String.append_assoc, ← Token.extent_append_after]
      rfl
    have later {literals : List String}
        (off : ReadOff (TokenStream.significant (Token.after c cs) stop) literals rest)
        (full : "" ∉ literals) :
        StandInOrder (before ++ String.ofList (c :: cs)) stop literals := by
      rw [cut]
      exact ih (String.utf8ByteSize_append ..) off full
    have first {text : String} {literals : List String} (sign : String)
        (named : t.literal = sign ++ text) (full : "" ≠ text)
        (stand : StandInOrder (before ++ String.ofList (c :: cs)) stop literals) :
        StandInOrder (before ++ String.ofList (c :: cs)) before.utf8ByteSize
          (text :: literals) := by
      simp only [stop, cut, named] at stand ⊢
      exact stand.piece (Ne.symm full)
    rw [TokenStream.significant_cons] at off
    by_cases blank : t.isWhitespace
    · rw [if_pos blank] at off
      exact (later off full).mono (Nat.le_add_right _ _)
    rw [if_neg blank] at off
    cases off with
    | done => exact .nil _ _
    | skip more => exact (later more full).mono (Nat.le_add_right _ _)
    | whole more =>
      rw [List.mem_cons, not_or] at full
      exact first "" (String.empty_append).symm full.1 (later more full.2)
    | named own more =>
      rw [List.mem_cons, not_or] at full
      rcases Token.literal_eq t with bare | bracket
      · exact first "" (bare.trans (String.empty_append).symm) full.1 (later more full.2)
      · exact first "[" bracket full.1 (later more full.2)

theorem Reading.run_ok_lenient {source : String} {options : ScriptOptions} {r : Reading}
    {statements : List Statement} (given : r.run source options = .ok statements) :
    r.run source { options with strict := false } = .ok statements := by
  obtain ⟨maxBranches, maxTokens, strict⟩ := options
  cases strict with
  | false => exact given
  | true =>
    rcases run_strict source maxBranches maxTokens r with same | ⟨fault, refused, -⟩
    · exact same.symm.trans given
    · exact absurd (refused.symm.trans given) (by simp)

theorem Outline.readOff_ofSource {options : ScriptOptions} (lenient : options.strict = false)
    (source : String) :
    ∃ items : List Item, ofSource options source = items.map .item ∧
      ReadOff (TokenStream.significant source.toList 0) (items.flatMap Item.literals) [] ∧
      "" ∉ items.flatMap Item.literals ∧ .label "" ∉ items := by
  have full : ∀ t ∈ TokenStream.significant source.toList 0, t.literal ≠ "" := fun t mem =>
    (Grammar.cuts_iff.mpr rfl).nonempty t (List.mem_filter.mp mem).1
  rw [ofSource_eq]
  exact readOff_entries lenient full

theorem sublist_of_resolved {source : String} {target : Target} {options : ScriptOptions}
    {statements : List Statement} (given : resolveTarget source target options = .ok statements) :
    statements.Sublist
      (Outline.statements (Outline.ofSource { options with strict := false } source)) := by
  let lenient := { options with strict := false }
  have given : (Reading.start source target).run source lenient = .ok statements :=
    Reading.run_ok_lenient given
  have sound := Reading.sound_start lenient source target
  have found := (Reading.ends_last_of_ok sound given).search_eq
  rw [← (Reading.passes_last source _ sound).1.search_eq, Reading.entries_start] at found
  exact search_sublist (.refl _) (.refl _) found

/-- A segment leaves out some of the statements of the whole script, which are those that reading
without strictness gives for the empty label, and changes neither these nor their order. What the
statements of the whole script tell stands in the script in order. -/
theorem resolveTarget_sublist (source : String) (target : Target) (options : ScriptOptions)
    (room : (TokenStream.tokens source).length + 1 ≤ options.maxTokens) :
    (∀ t ∈ TokenStream.tokens source, (Target.ofLabel "").isMetBy t.literal = false) ∧
    ∃ whole, resolve source "" { options with strict := false } = .ok whole ∧
      (∀ statements, resolveTarget source target options = .ok statements →
        statements.Sublist whole) ∧
      StandInOrder source 0 (whole.flatMap Statement.literals) := by
  let lenient := { options with strict := false }
  have room' : (TokenStream.tokens source).length + 1 ≤ lenient.maxTokens := room
  obtain ⟨items, outline, off, told, named⟩ :=
    Outline.readOff_ofSource (show lenient.strict = false from rfl) source
  have unmet : ∀ item ∈ items, item.meets (.ofLabel "") = false := by
    rintro (t | d | ⟨p, b⟩ | _ | l | t | _) mem <;> try rfl
    have : l ≠ "" := fun empty => named (empty ▸ mem)
    simpa [Item.meets, Target.isMetBy, Target.ofLabel] using this
  refine ⟨?_, Outline.statements (items.map .item), ?_, ?_, ?_⟩
  · intro t mem
    have full := (Grammar.cuts_iff.mpr (TokenStream.tokens_eq_listFrom source)).nonempty t mem
    simpa [Target.isMetBy, Target.ofLabel] using full
  · rw [resolve, Reading.resolveTarget_eq source _ room', outline]
    exact search_unmet unmet
  · intro statements given
    rw [← outline]
    exact sublist_of_resolved given
  · have stand := off.standInOrder (show "".utf8ByteSize = 0 from rfl) told
    rwa [String.ofList_toList, String.empty_append, ← Outline.literals_statements] at stand

def turningStory : String := "*a\nHi\n[b]\n@buttons\nGo?\n- [*c] Yes\n@end\n*b\nBye\n"

theorem resolveTarget_turningStory :
    (TokenStream.tokens turningStory).length + 1 ≤ 100 ∧
      [Statement.text "Hi", .text "Bye"].Sublist
        [.text "Hi", .choice "Go?" [⟨"*c", "Yes"⟩], .text "Bye"] ∧
      StandInOrder turningStory 0 ["Hi", "Go?", "*c", "Yes", "Bye"] := by
  have room : (TokenStream.tokens turningStory).length + 1 ≤ 100 := by cbv
  obtain ⟨-, whole, all, part, stand⟩ :=
    resolveTarget_sublist turningStory (.ofLabel "*a") ⟨4, 100, true⟩ room
  have told : resolve turningStory "" ⟨4, 100, false⟩ =
      .ok [.text "Hi", .choice "Go?" [⟨"*c", "Yes"⟩], .text "Bye"] := by cbv
  obtain rfl := Except.ok.inj (all.symm.trans told)
  exact ⟨room, part _ (by cbv), stand⟩

end Storypath
