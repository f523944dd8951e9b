import Storypath.Proofs.Script.Search
import Storypath.Proofs.Script.StoryTokens

/-! A story that was written as a script is read back from it: whichever segment is looked for,
resolving gives what the segment tells and, where it ends with a jump, what is told from there. -/
namespace Storypath

namespace Outline

/-- Tokens with these marks make these items, whatever follows them. -/
def Makes (options : ScriptOptions) (ms : List Mark) (items : List Item) : Prop :=
  ∀ ts more, ts.map Token.mark = ms →
    entries options (ts ++ more) = items.map .item ++ entries options more

variable {options : ScriptOptions} {ms ms' : List Mark} {items items' : List Item} {α : Type}

theorem Makes.none : Makes options [] [] := by
  intro ts more marked
  rw [List.map_eq_nil_iff.mp marked]
  rfl

theorem Makes.append (first : Makes options ms items) (second : Makes options ms' items') :
    Makes options (ms ++ ms') (items ++ items') := by
  intro ts more marked
  obtain ⟨ts₁, ts₂, rfl, marked₁, marked₂⟩ := List.map_eq_append_iff.mp marked
  rw [List.append_assoc, first ts₁ _ marked₁, second ts₂ _ marked₂, List.map_append,
    List.append_assoc]

theorem Makes.flatMap {f : α → List Mark} {g : α → List Item} {xs : List α}
    (h : ∀ a ∈ xs, Makes options (f a) (g a)) : Makes options (xs.flatMap f) (xs.flatMap g) := by
  induction xs with
  | nil => exact Makes.none
  | cons a xs ih => exact (h a (by simp)).append (ih fun b hb => h b (by simp [hb]))

end Outline

namespace Story

open Outline

variable {options : ScriptOptions}

def Part.item : Part → Item
  | .line l => .text l.text
  | .pause d => .pause d.text

def Ending.item : Ending → Item
  | .stop => .blockEnd
  | .jump link => .jump link.text
  | .choice prompt ways => .choice prompt.text (ways.map Way.branch)

def Segment.items (s : Segment) : List Item :=
  .label ("*" ++ s.name.text) :: (s.body.map Part.item ++ [s.ending.item])

theorem makes_label (n : Name) :
    Makes options [(.label, "*" ++ n.text)] [.label ("*" ++ n.text)] := by
  intro ts more marked
  obtain ⟨t, rfl, mark⟩ := List.map_eq_singleton_iff.mp marked
  obtain ⟨kind, literal⟩ := Prod.mk.inj mark
  simp [entries_cons, construct, kind, literal]

theorem makes_part (p : Part) : Makes options p.marks [p.item] := by
  intro ts more marked
  cases p with
  | line l =>
    obtain ⟨t, rfl, mark⟩ := List.map_eq_singleton_iff.mp marked
    obtain ⟨kind, literal⟩ := Prod.mk.inj mark
    simp [entries_cons, construct, kind, literal, Part.item]
  | pause d =>
    obtain ⟨t, ts, rfl, mark, marked⟩ := List.map_eq_cons_iff.mp marked
    obtain ⟨u, rfl, textMark⟩ := List.map_eq_singleton_iff.mp marked
    obtain ⟨kind, -⟩ := Prod.mk.inj mark
    obtain ⟨textKind, literal⟩ := Prod.mk.inj textMark
    simp [entries_cons, construct, waitEntry, kind, textKind, literal, Part.item]

theorem target_link (l : Link) {ts : List Token} (more : List Token)
    (marked : ts.map Token.mark = l.marks) :
    ∃ t ts', ts = t :: ts' ∧ t.kind = .jumpBracket ∧
      target t (ts' ++ more) = (l.text, more) := by
  obtain ⟨n, starred⟩ := l
  cases starred with
  | true =>
    obtain ⟨t, ts, rfl, mark, marked⟩ := List.map_eq_cons_iff.mp marked
    obtain ⟨u, rfl, nameMark⟩ := List.map_eq_singleton_iff.mp marked
    obtain ⟨kind, literal⟩ := Prod.mk.inj mark
    obtain ⟨-, name⟩ := Prod.mk.inj nameMark
    refine ⟨t, [u], rfl, kind, ?_⟩
    simp [target, Token.targetName, kind, literal, Outline.name, name, Link.text]
  | false =>
    obtain ⟨t, rfl, mark⟩ := List.map_eq_singleton_iff.mp marked
    obtain ⟨kind, literal⟩ := Prod.mk.inj mark
    refine ⟨t, [], rfl, kind, ?_⟩
    have named : t.targetName = n.text := by simp [Token.targetName, kind, literal]
    simp [target, named, n.nonempty, Link.text]

theorem makes_link (l : Link) : Makes options l.marks [.jump l.text] := by
  intro ts more marked
  obtain ⟨t, ts', rfl, kind, named⟩ := target_link l more marked
  simp [entries_cons, construct, kind, named]

theorem branch_way (w : Way) {ts more : List Token}
    (marked : ts.map Token.mark = w.link.marks ++ w.buttonMarks)
    (ends : ∀ t ∈ more.head?, t.kind ≠ .text) :
    branch (ts ++ more) = (some w.branch, more) := by
  obtain ⟨link, text, rfl, linkMarked, textMarked⟩ := List.map_eq_append_iff.mp marked
  obtain ⟨t, ts', rfl, kind, named⟩ := target_link w.link (text ++ more) linkMarked
  have button : Outline.button (text ++ more) = (w.buttonText, more) := by
    cases h : w.button with
    | none =>
      have : text = [] := by simpa [Way.buttonMarks, h] using textMarked
      cases more with
      | nil => simp [this, Outline.button, Way.buttonText, h]
      | cons u more => simp [this, Outline.button, ends u (by simp), Way.buttonText, h]
    | some l =>
      simp only [Way.buttonMarks, h, Option.toList_some, List.map_cons, List.map_nil] at textMarked
      obtain ⟨u, rfl, mark⟩ := List.map_eq_singleton_iff.mp textMarked
      obtain ⟨textKind, literal⟩ := Prod.mk.inj mark
      simp [Outline.button, textKind, literal, Way.buttonText, h]
  simp [branch, kind, named, button, Way.branch]

theorem kind_next_ne_text (ways : List Way) {ts more : List Token} {last : Token}
    (marked : ts.map Token.mark = ways.flatMap Way.marks) (ends : last.kind = .blockEnd) :
    ∀ t ∈ (ts ++ last :: more).head?, t.kind ≠ .text := by
  cases ways with
  | nil =>
    rw [List.map_eq_nil_iff.mp marked]
    simp [ends]
  | cons w ways =>
    obtain ⟨t, ts, rfl, mark, -⟩ := List.map_eq_cons_iff.mp marked
    obtain ⟨kind, -⟩ := Prod.mk.inj mark
    simp [kind]

theorem row_ways (ways : List Way) {ts more : List Token} {last : Token}
    (marked : ts.map Token.mark = ways.flatMap Way.marks) (ends : last.kind = .blockEnd) :
    row (ts ++ last :: more) = ⟨ways.map Way.branch, true, last :: more⟩ := by
  induction ways generalizing ts with
  | nil =>
    rw [List.map_eq_nil_iff.mp marked, List.nil_append, row_cons, if_neg (by simp [ends])]
    rfl
  | cons w ways ih =>
    obtain ⟨first, others, rfl, wayMarked, othersMarked⟩ := List.map_eq_append_iff.mp marked
    obtain ⟨t, ts, rfl, mark, wayMarked⟩ := List.map_eq_cons_iff.mp wayMarked
    obtain ⟨kind, -⟩ := Prod.mk.inj mark
    rw [List.append_assoc, List.cons_append, row_cons, if_pos kind, markedRow,
      branch_way w wayMarked (kind_next_ne_text ways othersMarked ends)]
    simp [ih othersMarked, Row.after]

theorem makes_ending (e : Ending) (fits : e.Fits options.maxBranches) :
    Makes options e.marks [e.item] := by
  intro ts more marked
  cases e with
  | stop =>
    obtain ⟨t, rfl, mark⟩ := List.map_eq_singleton_iff.mp marked
    obtain ⟨kind, -⟩ := Prod.mk.inj mark
    simp [entries_cons, construct, kind, Ending.item]
  | jump link => exact makes_link link ts more marked
  | choice prompt ways =>
    obtain ⟨t, ts, rfl, mark, marked⟩ := List.map_eq_cons_iff.mp marked
    obtain ⟨p, ts, rfl, promptMark, marked⟩ := List.map_eq_cons_iff.mp marked
    obtain ⟨branches, last, rfl, branchesMarked, marked⟩ := List.map_eq_append_iff.mp marked
    obtain ⟨last, rfl, lastMark⟩ := List.map_eq_singleton_iff.mp marked
    obtain ⟨kind, -⟩ := Prod.mk.inj mark
    obtain ⟨-, asked⟩ := Prod.mk.inj promptMark
    obtain ⟨ends, -⟩ := Prod.mk.inj lastMark
    have block : Outline.block (p :: (branches ++ last :: more)) =
        (.ok (prompt.text, ways.map Way.branch), more) := by
      simp [Outline.block, row_ways ways branchesMarked ends, close, ends, asked]
    have all : (ways.map Way.branch).take options.maxBranches = ways.map Way.branch :=
      List.take_of_length_le (by simpa [Ending.Fits] using fits)
    simp [entries_cons, construct, kind, block, choiceEntry, all, Ending.item]

theorem makes_segment (s : Segment) (fits : s.ending.Fits options.maxBranches) :
    Makes options s.marks s.items := by
  have body : Makes options (s.body.flatMap Part.marks) (s.body.map Part.item) := by
    rw [List.map_eq_flatMap]
    exact Makes.flatMap fun p _ => makes_part p
  exact (makes_label s.name).append (body.append (makes_ending s.ending fits))

theorem ofSource_script (story : Story)
    (fits : ∀ s ∈ story.segments, s.ending.Fits options.maxBranches) :
    ofSource options story.script = (story.segments.flatMap Segment.items).map .item := by
  have made := Makes.flatMap (fun s hs => makes_segment s (fits s hs))
    (TokenStream.significant story.script.toList 0) [] (marks_script story)
  rw [ofSource_eq]
  simpa using made

theorem label_link (l : Link) : (Target.ofReference l.text).label = "*" ++ l.name.text := by
  obtain ⟨n, starred⟩ := l
  cases starred with
  | true => simp [Target.ofReference, Target.bareName, Link.text]
  | false =>
    have bare : Target.bareName n.text = n.text := by
      unfold Target.bareName
      split
      · next cs chars => exact absurd (n.letters '*' (by simp [chars])) (by decide)
      · rfl
    simp [Target.ofReference, bare, Link.text]

variable {source : String} {strict : Bool} {current saved : List Statement}
  {collecting matched : Bool} {target : Target}

theorem search_body (body : List Part) (es : List Entry) :
    search source strict current saved collecting matched target
        (body.map (Entry.item ∘ Part.item) ++ es) =
      search source strict (current ++ body.map Part.statement) saved collecting matched target
        es := by
  induction body generalizing current with
  | nil => simp
  | cons p body ih => cases p <;> simp [Part.item, Part.statement, search, ih]

theorem map_items_append (s : Segment) (es : List Entry) :
    s.items.map .item ++ es = .item (.label ("*" ++ s.name.text)) ::
      (s.body.map (Entry.item ∘ Part.item) ++ .item s.ending.item :: es) := by
  simp [Segment.items]

theorem search_other (s : Segment) (es : List Entry) (other : target.label ≠ "*" ++ s.name.text) :
    ∃ current', search source strict current saved false matched target
        (s.items.map .item ++ es) =
      search source strict current' saved false matched target es := by
  have unmet : target.isMetBy ("*" ++ s.name.text) = false := by
    simpa [Target.isMetBy] using Ne.symm other
  rw [map_items_append, search]
  simp only [unmet, Bool.false_eq_true, if_false, search_body]
  cases s.ending <;> simp only [Ending.item, search, Bool.false_eq_true, if_false]
  all_goals exact ⟨_, rfl⟩

/-- What was saved stands before what the segment tells; what was gathered is dropped. -/
theorem search_told (segments : List Segment) (forward : Forward segments) (name : Name)
    (label : target.label = "*" ++ name.text) (there : ∃ s ∈ segments, s.name.text = name.text) :
    search source strict current saved false matched target
        ((segments.flatMap Segment.items).map .item) =
      .ok (saved ++ told segments name.text) := by
  induction segments generalizing current saved matched target name with
  | nil => simp at there
  | cons s later ih =>
    obtain ⟨ahead, forward⟩ := forward
    rw [List.flatMap_cons, List.map_append, told]
    by_cases here : s.name.text = name.text
    · have met : target.isMetBy ("*" ++ s.name.text) = true := by
        simp [Target.isMetBy, label, here]
      rw [map_items_append, search, if_pos met, search_body, if_pos here]
      cases h : s.ending with
      | stop => simp [Ending.item, search]
      | jump link =>
        rw [Ending.item, search, if_pos rfl, ih forward link.name (label_link link) (ahead link h),
          List.append_assoc]
      | choice prompt ways => simp [Ending.item, search]
    · have other : target.label ≠ "*" ++ s.name.text := by
        rw [label]
        simpa using Ne.symm here
      obtain ⟨current', eq⟩ := search_other s _ other
      have later : ∃ s' ∈ later, s'.name.text = name.text := by
        simpa [here] using there
      rw [eq, if_neg here, ih forward name label later]

theorem told_of_later {s : Segment} {later : List Segment}
    (distinct : ((s :: later).map fun s => s.name.text).Nodup) {name : String}
    (there : ∃ s' ∈ later, s'.name.text = name) : told (s :: later) name = told later name := by
  obtain ⟨s', mem, rfl⟩ := there
  have ne : s.name.text ≠ s'.name.text := by
    intro same
    rw [List.map_cons, List.nodup_cons] at distinct
    exact distinct.1 (List.mem_map.mpr ⟨s', mem, same.symm⟩)
  rw [told, if_neg ne]

theorem exists_of_forward {segments : List Segment} (forward : Forward segments) {s : Segment}
    (mem : s ∈ segments) {link : Link} (h : s.ending = .jump link) :
    ∃ s' ∈ segments, s'.name.text = link.name.text := by
  induction segments with
  | nil => simp at mem
  | cons first later ih =>
    have there : ∃ s' ∈ later, s'.name.text = link.name.text := by
      rcases List.mem_cons.mp mem with rfl | mem
      · exact forward.1 link h
      · exact ih forward.2 mem
    obtain ⟨s', mem', named⟩ := there
    exact ⟨s', List.mem_cons_of_mem _ mem', named⟩

/-- Each segment tells its body, and after that what its ending says. -/
theorem told_eq {segments : List Segment}
    (distinct : (segments.map fun s => s.name.text).Nodup) (forward : Forward segments)
    {s : Segment} (mem : s ∈ segments) :
    told segments s.name.text = s.body.map Part.statement ++
      match s.ending with
      | .stop => []
      | .jump link => told segments link.name.text
      | .choice prompt ways => [.choice prompt.text (ways.map Way.branch)] := by
  induction segments with
  | nil => simp at mem
  | cons first later ih =>
    rcases List.mem_cons.mp mem with rfl | mem
    · cases h : s.ending with
      | jump link =>
        rw [told, if_pos rfl, h]
        simp only [told_of_later distinct (forward.1 link h)]
      | _ => rw [told, if_pos rfl, h]
    · have tail := ih (List.nodup_cons.mp (by simpa using distinct)).2 forward.2 mem
      rw [told_of_later distinct ⟨s, mem, rfl⟩, tail]
      cases h : s.ending with
      | jump link => simp only [told_of_later distinct (exists_of_forward forward.2 mem h)]
      | _ => rfl

theorem resolve_told (story : Story) (name : Name) {options : ScriptOptions}
    (room : (TokenStream.tokens story.script).length < options.maxTokens)
    (fits : ∀ s ∈ story.segments, s.ending.Fits options.maxBranches)
    (there : ∃ s ∈ story.segments, s.name.text = name.text) :
    resolve story.script ("*" ++ name.text) options = .ok (told story.segments name.text) := by
  rw [resolve, Reading.resolveTarget_eq _ _ room, ofSource_script story fits]
  exact search_told story.segments story.forward name rfl there

end Story

/-- Every story is read back from the script that it is written as, strictly or not. -/
theorem resolve_script (story : Story) (options : ScriptOptions)
    (room : (TokenStream.tokens story.script).length < options.maxTokens)
    (fits : ∀ s ∈ story.segments, s.ending.Fits options.maxBranches)
    (segment : Story.Segment) (mem : segment ∈ story.segments) :
    ∃ tail, resolve story.script ("*" ++ segment.name.text) options =
        .ok (segment.body.map Story.Part.statement ++ tail) ∧
      match segment.ending with
      | .stop => tail = []
      | .jump link => resolve story.script ("*" ++ link.name.text) options = .ok tail
      | .choice prompt ways => tail = [.choice prompt.text (ways.map Story.Way.branch)] := by
  have told := Story.told_eq story.distinct story.forward mem
  refine ⟨_, (Story.resolve_told story segment.name room fits ⟨segment, mem, rfl⟩).trans
    (congrArg _ told), ?_⟩
  cases h : segment.ending with
  | stop => rfl
  | jump link =>
    exact Story.resolve_told story link.name room fits
      (Story.exists_of_forward story.forward mem h)
  | choice prompt ways => rfl

def Story.inn : Story where
  segments :=
    [⟨⟨"door", by simp, by simp⟩,
      [.line ⟨"You knock.", by simp, by simp⟩,
        .pause ⟨"2s", by simp, by simp⟩],
      .jump ⟨⟨"hall", by simp, by simp⟩, true⟩⟩,
    ⟨⟨"cellar", by simp, by simp⟩, [], .stop⟩,
    ⟨⟨"hall", by simp, by simp⟩, [.line ⟨"It is warm.", by simp, by simp⟩],
      .choice ⟨"Stay?", by simp, by simp⟩
        [⟨⟨⟨"cellar", by simp, by simp⟩, false⟩, none⟩]⟩]
  distinct := by decide
  forward := by
    refine ⟨?_, ?_, ?_, trivial⟩
    · rintro link ⟨⟩
      exact ⟨_, List.mem_cons_of_mem _ List.mem_cons_self, rfl⟩
    all_goals rintro link ⟨⟩

theorem resolve_script_inn :
    ∃ tail, resolve Story.inn.script "*door" ⟨1, 100, true⟩ =
        .ok ([.text "You knock.", .pause "2s"] ++ tail) ∧
      resolve Story.inn.script "*hall" ⟨1, 100, true⟩ = .ok tail :=
  resolve_script Story.inn ⟨1, 100, true⟩ (by cbv) (by decide) _ List.mem_cons_self

end Storypath
