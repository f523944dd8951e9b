import Mathlib
import Storypath.Proofs.Script.Grammar
import Storypath.Proofs.Script.Lookahead
import Storypath.Proofs.Script.Search
import Storypath.Proofs.Script.TokenLimit

/-! The two spellings of a reference, with its star and without. A run asks for the label that is
looked for and not for how it is written, unless it ends without having met it. Main statement: the two
spellings of what is asked for give the same, and so do the two spellings of a bracket that some run
reads as a jump: the bracket is then two tokens, the second of which is read as a name and never as a
label. -/
namespace Storypath

theorem Target.isMetBy_of_label {first first' : Target} (same : first.label = first'.label)
    (literal : String) : first.isMetBy literal = first'.isMetBy literal := by
  rw [isMetBy, same, isMetBy]

namespace Walk

/-- Walks that look for one label under two spellings: they differ in nothing else, and from the first
jump on in nothing at all. Up to there a walk has met its target exactly if it is collecting. -/
inductive Alike (first first' : Target) : Walk → Walk → Prop
  | first (gathered kept : List Statement) (met : Bool) :
      Alike first first' ⟨gathered, kept, met, met, first⟩ ⟨gathered, kept, met, met, first'⟩
  | same (w : Walk) : Alike first first' w w

variable {first first' : Target} {w w' : Walk}

theorem pass_alike (same : first.label = first'.label) (alike : Alike first first' w w')
    (item : Item) : Sum.LiftRel (Alike first first') Eq (w.pass item) (w'.pass item) := by
  cases alike with
  | same =>
    cases w.pass item with
    | inl w' => exact .inl (.same w')
    | inr statements => exact .inr rfl
  | first gathered kept met =>
    cases item with
    | text t | pause d => exact .inl (.first _ kept met)
    | label l =>
      by_cases meets : first'.isMetBy l
      · simpa [pass, Target.isMetBy_of_label same, meets] using .first kept kept true
      · simpa [pass, Target.isMetBy_of_label same, meets] using .first gathered kept met
    | choice prompt branches =>
      cases met with
      | true => exact .inr rfl
      | false => exact .inl (.first _ kept false)
    | brokenChoice | blockEnd =>
      cases met with
      | true => exact .inr rfl
      | false => exact .inl (.first gathered kept false)
    | jump reference =>
      cases met with
      | true => exact .inl (.same _)
      | false => exact .inl (.first gathered kept false)

end Walk

/-- The same statements, or faults with one code and one place whose messages differ at most in that
one has `written` where the other has `written'`. -/
inductive Respelled (written written' : String) :
    Except ScriptFault (List Statement) → Except ScriptFault (List Statement) → Prop
  | ok (statements : List Statement) : Respelled written written' (.ok statements) (.ok statements)
  | error {fault fault' : ScriptFault} (code : fault.code = fault'.code)
      (place : fault.place? = fault'.place?)
      (message : fault.message = fault'.message ∨ ∃ before after,
        fault.message = before ++ written ++ after ∧ fault'.message = before ++ written' ++ after) :
      Respelled written written' (.error fault) (.error fault')

theorem Respelled.same {written written' : String} (result : Except ScriptFault (List Statement)) :
    Respelled written written' result result := by
  cases result with
  | ok statements => exact .ok statements
  | error fault => exact .error rfl rfl (.inl rfl)

theorem Respelled.notFound {written written' : String} :
    Respelled written written' (.error (.labelNotFound written))
      (.error (.labelNotFound written')) :=
  .error rfl rfl (.inr ⟨"Label \"", "\" was not found.", rfl, rfl⟩)

theorem Walk.finish_alike {first first' : Target} {w w' : Walk} (alike : Alike first first' w w')
    (strict : Bool) :
    Respelled first.written first'.written (w.finish strict) (w'.finish strict) := by
  cases alike with
  | same => exact .same _
  | first gathered kept met =>
    cases met <;> cases strict
    · exact .same _
    · exact .notFound
    · exact .same _
    · exact .same _

namespace Reading

variable {source : String} {options : ScriptOptions} {first first' : Target} {r s : Reading}

structure Alike (first first' : Target) (r s : Reading) : Prop where
  feed : s.feed = r.feed
  phase : s.phase = r.phase
  walk : r.walk.Alike first first' s.walk

theorem after_alike {w w' : Walk} (same : first.label = first'.label)
    (alike : w.Alike first first' w') (feed : Feed) (phase : Phase) (item? : Option Item) :
    Sum.LiftRel (Alike first first') (Respelled first.written first'.written)
      (after feed phase w item?) (after feed phase w' item?) := by
  refine after_liftRel ⟨rfl, rfl, alike⟩ (fun item => ?_) item?
  refine (Walk.pass_alike same alike item).mono (fun w w' next => ⟨rfl, rfl, next⟩) ?_
  rintro told _ rfl
  exact .ok told

theorem step_alike (same : first.label = first'.label) (alike : Alike first first' r s) :
    Sum.LiftRel (Alike first first') (Respelled first.written first'.written)
      (r.step source options) (s.step source options) := by
  unfold step
  rw [alike.feed, alike.phase]
  cases r.feed.take options.maxTokens with
  | none => exact .inr (.same _)
  | some taken =>
    obtain ⟨t, feed⟩ := taken
    cases blank : t.isWhitespace with
    | true => simpa [blank] using ⟨rfl, rfl, alike.walk⟩
    | false =>
      simp only [blank, Bool.false_eq_true, if_false]
      cases r.phase.read options t with
      | take item? phase => exact after_alike same alike.walk feed phase item?
      | putBack item? phase => exact after_alike same alike.walk (feed.putBack t) phase item?
      | flaw flaw | refuse fault => exact .inr (.same _)
      | finish => exact .inr (Walk.finish_alike alike.walk options.strict)

end Reading

theorem resolveTarget_alike {first first' : Target} (same : first.label = first'.label)
    (source : String) (options : ScriptOptions) :
    Respelled first.written first'.written (resolveTarget source first options)
      (resolveTarget source first' options) :=
  Reading.run_liftRel (fun _ _ => Reading.step_alike same) ⟨rfl, rfl, .first [] [] false⟩

theorem Target.bareName_star (name : String) : bareName ("*" ++ name) = name := by
  simp [bareName]

theorem Target.bareName_of_head {reference : String} (bare : reference.toList.head? ≠ some '*') :
    bareName reference = reference := by
  unfold bareName
  split
  · next name star => simp [star] at bare
  · rfl

namespace Entry

inductive Alike : Entry → Entry → Prop
  | item (item : Item) : Alike (.item item) (.item item)
  | jump {reference reference' : String}
      (same : Target.bareName reference = Target.bareName reference') :
      Alike (.item (.jump reference)) (.item (.jump reference'))
  | flaw (flaw flaw' : Flaw) : Alike (.flaw flaw) (.flaw flaw')

theorem alike_shift (d : Nat) (e : Entry) : Alike e (e.shift d) := by
  cases e with
  | item item => exact .item item
  | flaw flaw => exact .flaw flaw _

end Entry

/-- Outlines that are alike give the same statements to targets with one label. -/
theorem toOption_search {source source' : String} {strict : Bool} {es es' : List Entry}
    (alike : List.Forall₂ Entry.Alike es es') (current saved : List Statement)
    (collecting matched : Bool) {target target' : Target} (same : target.label = target'.label) :
    (search source strict current saved collecting matched target es).toOption =
      (search source' strict current saved collecting matched target' es').toOption := by
  induction alike generalizing current saved collecting matched target target' with
  | nil => cases collecting <;> cases strict <;> rfl
  | cons here _ ih =>
    cases here with
    | flaw flaw flaw' => rfl
    | @jump reference reference' bare =>
      cases collecting with
      | true => exact ih current current false matched (by simp [Target.ofReference, bare])
      | false => exact ih current saved false matched same
    | item item =>
      cases item with
      | text t | pause d => exact ih _ saved collecting matched same
      | choice prompt branches =>
        cases collecting with
        | true => rfl
        | false => exact ih _ saved false matched same
      | brokenChoice | blockEnd =>
        cases collecting with
        | true => rfl
        | false => exact ih current saved false matched same
      | label l =>
        by_cases met : target'.isMetBy l
        · simpa [search, Target.isMetBy_of_label same, met] using ih saved saved true true same
        · simpa [search, Target.isMetBy_of_label same, met] using
            ih current saved collecting matched same
      | jump reference =>
        cases collecting with
        | true => exact ih current current false matched rfl
        | false => exact ih current saved false matched same

theorem eq_of_utf8Len {front front' back back' : List Char} (whole : front ++ back = front' ++ back')
    (size : String.utf8Len front = String.utf8Len front') : front = front' := by
  rcases List.append_eq_append_iff.mp whole with ⟨more, rfl, -⟩ | ⟨more, rfl, -⟩
  · have none : String.utf8Len more = 0 := by simpa [String.utf8Len_append] using size
    simp [String.utf8Len_eq_zero.mp none]
  · have none : String.utf8Len more = 0 := by simpa [String.utf8Len_append] using size
    simp [String.utf8Len_eq_zero.mp none]

namespace Grammar

theorem Lexeme.bracket_name {name : String} {rest : List Char}
    (lexeme : Lexeme .jumpBracket ("[" ++ name).toList rest) :
    Maximal LetterOrDigit name.toList rest := by
  rw [String.toList_append] at lexeme
  cases lexeme with
  | bracket more => exact more

theorem Cuts.around {before word after : String} {kind : TokenKind} {front back : List Token}
    (cuts : Cuts (before ++ word ++ after).toList 0
      (front ++ ⟨kind, word, before.utf8ByteSize⟩ :: back)) :
    (front.flatMap fun t => t.literal.toList) = before.toList ∧
      (front.map fun t => t.literal.utf8ByteSize).sum = before.utf8ByteSize ∧
      Lexeme kind word.toList after.toList ∧
      Cuts after.toList (before.utf8ByteSize + word.utf8ByteSize) back := by
  have size : before.utf8ByteSize = (front.map fun t => t.literal.utf8ByteSize).sum := by
    simpa using cuts.placed front _ back rfl
  have whole := cuts.whole
  rw [List.flatMap_append, List.flatMap_cons] at whole
  have sizes : String.utf8Len before.toList =
      String.utf8Len (front.flatMap fun t => t.literal.toList) := by
    rw [← String.utf8ByteSize_ofList, String.ofList_toList, size, ← utf8ByteSize_flatMap,
      String.utf8ByteSize_ofList]
  have here : (front.flatMap fun t => t.literal.toList) = before.toList :=
    eq_of_utf8Len (by simpa using whole) sizes.symm
  have there : (back.flatMap fun t => t.literal.toList) = after.toList := by
    simpa [here] using whole
  obtain ⟨rest, follows, lexeme, -, cutsBack⟩ := cuts_cons.mp cuts.drop
  obtain rfl : rest = after.toList := by simpa [there] using follows.symm
  exact ⟨here, size.symm, lexeme, by simpa [size] using cutsBack⟩

theorem cuts_star {name : String} {after : List Char} {offset : Nat} {back : List Token}
    (more : Maximal LetterOrDigit name.toList after)
    (cuts : Cuts after (offset + ("[" ++ name).utf8ByteSize) back) :
    Cuts ('[' :: '*' :: (name.toList ++ after)) offset
      (⟨.jumpBracket, "[", offset⟩ :: ⟨.label, "*" ++ name, offset + 1⟩ ::
        back.map (Token.shift 1)) := by
  have star : Maximal LetterOrDigit [] ('*' :: (name.toList ++ after)) :=
    ⟨by simp, by simp [LetterOrDigit]⟩
  have stop : offset + ("[" ++ name).utf8ByteSize + 1 =
      offset + 1 + ("*" ++ name).utf8ByteSize := by
    rw [String.utf8ByteSize_append, String.utf8ByteSize_append]
    have signs : "[".utf8ByteSize = "*".utf8ByteSize := rfl
    omega
  have named : Cuts ('*' :: (name.toList ++ after)) (offset + 1)
      (⟨.label, "*" ++ name, offset + 1⟩ :: back.map (Token.shift 1)) :=
    cuts_cons.mpr ⟨after, by simp, by simpa using .label more, rfl, stop ▸ cuts.shift 1⟩
  exact cuts_cons.mpr ⟨_, by simp, by simpa using .bracket star, rfl, named⟩

end Grammar

/-- A bracket with a name is cut into two tokens when a star comes between: a bare bracket and a label
that is no label. All tokens before it stay, and those after it stand one byte further on. -/
theorem tokens_star {before name after : String} {front back : List Token}
    (split : TokenStream.tokens (before ++ ("[" ++ name) ++ after) =
      front ++ ⟨.jumpBracket, "[" ++ name, before.utf8ByteSize⟩ :: back) :
    TokenStream.tokens (before ++ ("[*" ++ name) ++ after) =
      front ++ ⟨.jumpBracket, "[", before.utf8ByteSize⟩ ::
        ⟨.label, "*" ++ name, before.utf8ByteSize + 1⟩ :: back.map (Token.shift 1) := by
  rw [TokenStream.tokens_eq_listFrom] at split ⊢
  have cuts := Grammar.cuts_iff.mpr split.symm
  obtain ⟨here, size, lexeme, cutsBack⟩ := cuts.around
  have starred := Grammar.cuts_star lexeme.bracket_name cutsBack
  rw [← size, ← Nat.zero_add (List.sum _)] at starred
  have replaced := cuts.replace (by simp) starred
  rw [here, Nat.zero_add, size] at replaced
  have same : (before ++ ("[*" ++ name) ++ after).toList =
      before.toList ++ '[' :: '*' :: (name.toList ++ after.toList) := by simp
  rw [same]
  exact (Grammar.cuts_iff.mp replaced).symm

theorem Outline.entries_limit (maxBranches limit limit' : Nat) (strict : Bool) (ts : List Token) :
    entries ⟨maxBranches, limit, strict⟩ ts = entries ⟨maxBranches, limit', strict⟩ ts := by
  fun_induction entries ⟨maxBranches, limit, strict⟩ ts with
  | case1 => simp
  | case2 t ts ih =>
    have same : construct ⟨maxBranches, limit, strict⟩ t ts =
      construct ⟨maxBranches, limit', strict⟩ t ts := rfl
    rw [ih, entries_cons, same]

theorem resolveTarget_of_free {source : String} {target : Target} {maxBranches limit : Nat}
    {strict : Bool}
    (free : resolveTarget source target ⟨maxBranches, limit, strict⟩ ≠ .error (.tokenLimit limit)) :
    resolveTarget source target ⟨maxBranches, limit, strict⟩ =
      search source strict [] [] false false target
        (Outline.ofSource ⟨maxBranches, limit, strict⟩ source) := by
  let enough := (TokenStream.tokens source).length + 1
  have roomy : resolveTarget source target ⟨maxBranches, enough, strict⟩ =
      (Walk.start target).search source strict
        (Outline.ofSource ⟨maxBranches, enough, strict⟩ source) :=
    Reading.resolveTarget_eq source target (Nat.le_refl enough)
  have other := (@Reading.run_of_limit source (.start source target) maxBranches limit enough strict
    free (Nat.zero_le enough)).1
  -- The run that has room for all tokens does not end at its limit.
  split at other
  · rw [resolveTarget, ← other, ← resolveTarget, roomy, Outline.ofSource,
      Outline.entries_limit maxBranches enough limit]
    rfl
  · exact absurd rfl (Reading.run_code_ne source target (Nat.le_refl enough) other)

/-- Some run reads this token between two constructs, and it is a bracket with a name: a jump. -/
def ReadsJump (source : String) (options : ScriptOptions) (t : Token) : Prop :=
  t.kind = .jumpBracket ∧ t.targetName ≠ "" ∧ ∃ target r feed,
    Reading.Reached source options target r ∧ r.phase = .between ∧
      r.feed.take options.maxTokens = some (t, feed)

theorem ReadsJump.outline {source : String} {options : ScriptOptions} {t : Token}
    (reads : ReadsJump source options t) :
    ∃ front back, ∃ items : List Item, TokenStream.tokens source = front ++ t :: back ∧
      ∀ later, nextKind? later = some .jumpBracket →
        Outline.entries options (counting front ++ later) =
          items.map .item ++ Outline.entries options later := by
  obtain ⟨isBracket, -, target, r, feed, reached, between, taken⟩ := reads
  obtain ⟨front, items, behind⟩ := reached.behind
  have notEnd : t.kind ≠ .endOfInput := by simp [isBracket]
  have counts : ¬ t.isWhitespace = true := by simp [Token.isWhitespace, isBracket]
  have next := (Feed.take_next reached.sound.feed taken).2.1
  have ahead := Feed.next_ahead next
  rw [if_neg counts] at ahead
  refine ⟨front, feed.toCome, items, by rw [← next.eq_cons notEnd]; exact behind.tokens, ?_⟩
  intro later kind
  have made := behind.entries later
    (by rw [kind, ahead.eq_cons notEnd, nextKind?, List.head?_cons, Option.map_some, isBracket])
  rwa [between, Phase.entries_between] at made

theorem targetName_bracket (name : String) (offset : Nat) :
    (Token.mk .jumpBracket ("[" ++ name) offset).targetName = name := by
  simp [Token.targetName]

theorem bareName_of_mem {source name : String} {offset : Nat}
    (mem : (⟨.jumpBracket, "[" ++ name, offset⟩ : Token) ∈ TokenStream.tokens source) :
    Target.bareName name = name := by
  obtain ⟨-, back, -, -, lexeme⟩ := Grammar.exists_around mem
  refine Target.bareName_of_head fun star => ?_
  have letter := lexeme.bracket_name.within '*' (List.mem_of_mem_head? star)
  simp [Grammar.LetterOrDigit] at letter

theorem ReadsJump.alike_star {before name after : String} {options : ScriptOptions}
    (reads : ReadsJump (before ++ ("[" ++ name) ++ after) options
      ⟨.jumpBracket, "[" ++ name, before.utf8ByteSize⟩) :
    List.Forall₂ Entry.Alike (Outline.ofSource options (before ++ ("[" ++ name) ++ after))
      (Outline.ofSource options (before ++ ("[*" ++ name) ++ after)) := by
  have given := reads.2.1
  rw [targetName_bracket] at given
  obtain ⟨front, back, items, split, made⟩ := reads.outline
  have mem : (⟨.jumpBracket, "[" ++ name, before.utf8ByteSize⟩ : Token) ∈
      TokenStream.tokens (before ++ ("[" ++ name) ++ after) := by
    rw [split]
    exact List.mem_append_right _ List.mem_cons_self
  have plain : Outline.ofSource options (before ++ ("[" ++ name) ++ after) =
      items.map .item ++ .item (.jump name) :: Outline.entries options (counting back) := by
    have whole := made (⟨.jumpBracket, "[" ++ name, before.utf8ByteSize⟩ :: counting back) rfl
    rw [Outline.entries_cons, Outline.construct] at whole
    simpa [Outline.ofSource, split, counting, Token.isWhitespace, Outline.target,
      targetName_bracket, given] using whole
  have starred : Outline.ofSource options (before ++ ("[*" ++ name) ++ after) =
      items.map .item ++ .item (.jump ("*" ++ name)) ::
        (Outline.entries options (counting back)).map (Entry.shift 1) := by
    have whole := made (⟨.jumpBracket, "[", before.utf8ByteSize⟩ ::
      ⟨.label, "*" ++ name, before.utf8ByteSize + 1⟩ :: (counting back).map (Token.shift 1)) rfl
    have bare (offset : Nat) : (Token.mk .jumpBracket "[" offset).targetName = "" := by
      simp [Token.targetName]
    rw [Outline.entries_cons, Outline.construct] at whole
    simpa [Outline.ofSource, tokens_star split, counting, Token.isWhitespace, Outline.target,
      Outline.name, bare, Outline.entries_shift, List.filter_map, Function.comp_def] using whole
  rw [plain, starred]
  refine List.rel_append (List.forall₂_same.mpr ?_) (.cons (.jump ?_) ?_)
  · intro e mem
    obtain ⟨item, -, rfl⟩ := List.mem_map.mp mem
    exact .item item
  · rw [bareName_of_mem mem, Target.bareName_star]
  · exact List.forall₂_map_right_iff.mpr (List.forall₂_same.mpr fun e _ => e.alike_shift 1)

/-- A reference means the same with its star and without: both ways of asking for it give the same
statements, or faults that differ in its spelling at most. And a star put before the name of a bracket
that is read as a jump does not change what any target resolves to, if the limit on tokens is not
reached. -/
theorem resolveReference_spelling (options : ScriptOptions) :
    (∀ source reference name : String,
      (reference = "*" ++ name ∨ reference = name ∧ reference.toList.head? ≠ some '*') →
      Respelled reference ("*" ++ name) (resolveReference source reference options)
        (resolve source ("*" ++ name) options)) ∧
    ∀ before name after : String,
      ReadsJump (before ++ ("[" ++ name) ++ after) options
        ⟨.jumpBracket, "[" ++ name, before.utf8ByteSize⟩ →
      ∀ target : Target,
        resolveTarget (before ++ ("[" ++ name) ++ after) target options ≠
          .error (.tokenLimit options.maxTokens) →
        resolveTarget (before ++ ("[*" ++ name) ++ after) target options ≠
          .error (.tokenLimit options.maxTokens) →
        ∀ statements,
          resolveTarget (before ++ ("[" ++ name) ++ after) target options = .ok statements ↔
            resolveTarget (before ++ ("[*" ++ name) ++ after) target options = .ok statements := by
  refine ⟨fun source reference name spelt => ?_,
    fun before name after reads target free free' statements => ?_⟩
  · have bare : Target.bareName reference = name := by
      rcases spelt with rfl | ⟨rfl, head⟩
      · exact Target.bareName_star name
      · exact Target.bareName_of_head head
    have label : (Target.ofReference reference).label = (Target.ofLabel ("*" ++ name)).label := by
      rw [Target.ofReference, bare, Target.ofLabel]
    exact resolveTarget_alike label source options
  · have same := @toOption_search (before ++ ("[" ++ name) ++ after)
      (before ++ ("[*" ++ name) ++ after) options.strict _ _ reads.alike_star [] [] false false
      target target rfl
    rw [← resolveTarget_of_free free, ← resolveTarget_of_free free'] at same
    have some_ (result : Except ScriptFault (List Statement)) :
        result = .ok statements ↔ result.toOption = some statements := by
      cases result <;> simp [Except.toOption]
    rw [some_, some_, same]

def plainJump : String := "*a\nx\n" ++ ("[" ++ "b") ++ "]\n*b\ny\n"

def starredJump : String := "*a\nx\n" ++ ("[*" ++ "b") ++ "]\n*b\ny\n"

theorem resolveReference_spelling_plainJump :
    Respelled "c" ("*" ++ "c") (resolveReference plainJump "c" ⟨4, 12, true⟩)
        (resolve plainJump ("*" ++ "c") ⟨4, 12, true⟩) ∧
      ReadsJump plainJump ⟨4, 12, true⟩
        ⟨.jumpBracket, "[" ++ "b", "*a\nx\n".utf8ByteSize⟩ ∧
      resolveTarget starredJump (.ofLabel "*a") ⟨4, 12, true⟩ = .ok [.text "x", .text "y"] := by
  have reads : ReadsJump plainJump ⟨4, 12, true⟩
      ⟨.jumpBracket, "[" ++ "b", "*a\nx\n".utf8ByteSize⟩ :=
    ⟨rfl, by decide, .ofLabel "*a", _, _,
      .step (.step (.step (.step .start rfl) rfl) rfl) rfl, rfl, rfl⟩
  have plain : resolveTarget plainJump (.ofLabel "*a") ⟨4, 12, true⟩ =
      .ok [.text "x", .text "y"] := by cbv
  have free : resolveTarget starredJump (.ofLabel "*a") ⟨4, 12, true⟩ ≠ .error (.tokenLimit 12) := by
    have starred : resolveTarget starredJump (.ofLabel "*a") ⟨4, 12, true⟩ =
        .ok [.text "x", .text "y"] := by cbv
    simp [starred]
  obtain ⟨spelt, starred⟩ := resolveReference_spelling ⟨4, 12, true⟩
  refine ⟨spelt plainJump "c" "c" (.inr ⟨rfl, by decide⟩), reads, ?_⟩
  exact (starred _ _ _ reads (.ofLabel "*a") (by rw [← plainJump, plain]; simp) free _).mp plain

end Storypath
