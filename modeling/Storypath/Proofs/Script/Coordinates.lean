import Mathlib
import Storypath.Proofs.Script.Following
import Storypath.Proofs.Script.Position

/-! Lines and columns as coordinates of a script. A place is moved on by one character at a time, and
each move goes up in the order that compares lines before columns. Main statement: an offset between
two characters has one place, that of the line and column which have just the bytes before the offset
in front of them, and places come in the order of their offsets. -/
namespace Storypath

theorem lineFeed_notMem_of_mem_linesOf {cs line : List Char} (mem : line ∈ linesOf cs) :
    '\n' ∉ line := by
  induction cs generalizing line with
  | nil =>
    obtain rfl : line = [] := by simpa [linesOf] using mem
    simp
  | cons c cs ih =>
    by_cases feed : c = '\n'
    · rw [feed, linesOf_lineFeed, List.mem_cons] at mem
      rcases mem with rfl | mem
      · simp
      · exact ih mem
    · obtain ⟨below, lines⟩ := exists_linesOf cs
      rw [linesOf_cons feed, lines, List.modifyHead_cons, List.mem_cons] at mem
      rw [lines] at ih
      rcases mem with rfl | mem
      · simpa [Ne.symm feed] using ih (List.mem_cons_self ..)
      · exact ih (List.mem_cons_of_mem _ mem)

theorem linesOf_flatMap {above : List (List Char)} {front : List Char}
    (whole : ∀ line ∈ above, '\n' ∉ line) (last : '\n' ∉ front) :
    linesOf (above.flatMap (· ++ ['\n']) ++ front) = above ++ [front] := by
  induction above with
  | nil => exact List.splitOn_eq_singleton last
  | cons line above ih =>
    obtain ⟨first, later⟩ := List.forall_mem_cons.mp whole
    have cut : (line :: above).flatMap (· ++ ['\n']) ++ front =
        line ++ '\n' :: (above.flatMap (· ++ ['\n']) ++ front) := by simp
    rw [cut, linesOf, List.splitOn_append_cons_self_of_not_mem first]
    exact congrArg (line :: ·) (ih later)

namespace Location

/-- What a script has in front of a line and a column: the lines above, each with its line feed, and
the characters of the line itself before the column. -/
def front (source : String) (l : Location) : String :=
  String.ofList (((linesOf source.toList).take (l.line - 1)).flatMap (· ++ ['\n']) ++
    ((linesOf source.toList).getD (l.line - 1) []).take (l.column - 1))

/-- The line is one of the script, and the column is that of one of its characters or the one past
the last of them. -/
structure Within (source : String) (l : Location) : Prop where
  line : 1 ≤ l.line ∧ l.line ≤ (linesOf source.toList).length
  column : 1 ≤ l.column ∧ l.column ≤ ((linesOf source.toList).getD (l.line - 1) []).length + 1

def coordinates (l : Location) : Nat ×ₗ Nat := toLex (l.line, l.column)

theorem lt_advance (l : Location) (c : Char) : l.coordinates < (l.advance c).coordinates := by
  rw [coordinates, coordinates, Prod.Lex.toLex_lt_toLex]
  by_cases feed : c = '\n'
  · exact .inl (by simp [advance, feed])
  · exact .inr (by simp [advance, feed])

theorem le_foldl_advance (l : Location) (cs : List Char) :
    l.coordinates ≤ (cs.foldl advance l).coordinates := by
  induction cs generalizing l with
  | nil => exact le_rfl
  | cons c cs ih => exact (l.lt_advance c).le.trans (ih (l.advance c))

theorem lt_foldl_advance (l : Location) {cs : List Char} (more : cs ≠ []) :
    l.coordinates < (cs.foldl advance l).coordinates := by
  cases cs with
  | nil => exact absurd rfl more
  | cons c cs => exact (l.lt_advance c).trans_le ((l.advance c).le_foldl_advance cs)

theorem walk_of_le (l : Location) (cs : List Char) {offset : Nat}
    (past : String.utf8Len cs ≤ offset) : l.walk offset cs = cs.foldl advance l := by
  induction cs generalizing l offset with
  | nil => rfl
  | cons c cs ih =>
    have some_ := c.utf8Size_pos
    rw [String.utf8Len_cons] at past
    rw [walk_cons (by omega), ih _ (by omega), List.foldl_cons]

theorem exists_walk_eq (cs : List Char) {offset : Nat} (within : offset ≤ String.utf8Len cs) :
    ∃ before after, cs = before ++ after ∧ offset ≤ String.utf8Len before ∧
      (∀ before', before' <+: cs → offset ≤ String.utf8Len before' →
        String.utf8Len before ≤ String.utf8Len before') ∧
      ∀ l : Location, l.walk offset cs = before.foldl advance l := by
  induction cs generalizing offset with
  | nil => exact ⟨[], [], rfl, within, fun _ _ _ => Nat.zero_le _, fun l => rfl⟩
  | cons c cs ih =>
    by_cases here : offset = 0
    · subst here
      exact ⟨[], c :: cs, rfl, Nat.le_refl 0, fun _ _ _ => Nat.zero_le _,
        fun l => l.walk_zero (c :: cs)⟩
    · rw [String.utf8Len_cons] at within
      obtain ⟨before, after, split, enough, least, walked⟩ :=
        @ih (offset - c.utf8Size) (Nat.sub_le_iff_le_add.mpr within)
      refine ⟨c :: before, after, by rw [split]; rfl, ?_, ?_, fun l => ?_⟩
      · rw [String.utf8Len_cons]
        exact Nat.sub_le_iff_le_add.mp enough
      · intro before' along enough'
        cases before' with
        | nil => exact absurd (Nat.le_zero.mp enough') here
        | cons c' before' =>
          obtain ⟨rfl, more⟩ := List.cons_prefix_cons.mp along
          rw [String.utf8Len_cons] at enough' ⊢
          exact Nat.add_le_add_right (least before' more (Nat.sub_le_iff_le_add.mpr enough')) _
      · rw [walk_cons here, walked, List.foldl_cons]

theorem utf8Len_toList (s : String) : String.utf8Len s.toList = s.utf8ByteSize := by
  rw [← String.utf8ByteSize_ofList, String.ofList_toList]

variable {source before after : String} {p q : source.Pos}

theorem byteIdx_of_splits (splits : p.Splits before after) :
    p.offset.byteIdx = before.utf8ByteSize := by
  rw [splits.offset_eq_rawEndPos]
  rfl

theorem ofOffset_of_splits (splits : p.Splits before after) :
    ofOffset source p.offset.byteIdx = before.toList.foldl advance first := by
  rw [byteIdx_of_splits splits, splits.eq_append, ofOffset, String.toList_append, ← utf8Len_toList,
    walk_append _ _ _ (Nat.le_refl _), walk_of_le _ _ (Nat.le_refl _)]

theorem coordinates_lt_of_lt (less : p < q) :
    (ofOffset source p.offset.byteIdx).coordinates <
      (ofOffset source q.offset.byteIdx).coordinates := by
  obtain ⟨between, some_, front, -⟩ := (p.splits.lt_iff_exists_eq_append q.splits).mp less
  rw [ofOffset_of_splits p.splits, ofOffset_of_splits q.splits, front, String.toList_append,
    List.foldl_append]
  exact lt_foldl_advance _ (by simpa using some_)

theorem coordinates_lt_iff :
    (ofOffset source p.offset.byteIdx).coordinates <
      (ofOffset source q.offset.byteIdx).coordinates ↔ p < q := by
  refine ⟨fun less => ?_, coordinates_lt_of_lt⟩
  rcases Nat.lt_trichotomy p.offset.byteIdx q.offset.byteIdx with before | same | after
  · exact before
  · rw [same] at less
    exact absurd less (lt_irrefl _)
  · exact absurd less (lt_asymm (coordinates_lt_of_lt after))

theorem lineFeed_notMem_line (source : String) (i : Nat) :
    '\n' ∉ (linesOf source.toList).getD i [] := by
  by_cases there : i < (linesOf source.toList).length
  · rw [List.getD_eq_getElem _ _ there]
    exact lineFeed_notMem_of_mem_linesOf (List.getElem_mem there)
  · rw [List.getD_eq_default _ _ (Nat.le_of_not_lt there)]
    exact List.not_mem_nil

theorem linesOf_front (source : String) (l : Location) :
    linesOf (l.front source).toList = (linesOf source.toList).take (l.line - 1) ++
      [((linesOf source.toList).getD (l.line - 1) []).take (l.column - 1)] := by
  rw [front, String.toList_ofList]
  refine linesOf_flatMap (fun line mem => ?_) fun mem => ?_
  · exact lineFeed_notMem_of_mem_linesOf (List.mem_of_mem_take mem)
  · exact lineFeed_notMem_line source _ (List.mem_of_mem_take mem)

/-- What is in front of a line and a column tells which they are. -/
theorem eq_of_front {l l' : Location} (within : l.Within source) (within' : l'.Within source)
    (same : l.front source = l'.front source) : l = l' := by
  have lines := l.linesOf_front source
  rw [same, linesOf_front] at lines
  obtain ⟨above, last⟩ := List.append_inj' lines rfl
  have line : l'.line = l.line := by
    have count := congrArg List.length above
    rw [List.length_take, List.length_take] at count
    have := within.line
    have := within'.line
    omega
  have column : l'.column = l.column := by
    rw [line] at last
    have count := congrArg List.length (List.head_eq_of_cons_eq last)
    rw [List.length_take, List.length_take] at count
    have := within.column
    have room := within'.column
    rw [line] at room
    omega
  cases l
  cases l'
  simp_all

theorem front_ofOffset (splits : p.Splits before after) :
    (ofOffset source p.offset.byteIdx).Within source ∧
      (ofOffset source p.offset.byteIdx).front source = before := by
  obtain ⟨above, front, ⟨⟨below, lines⟩, whole⟩, place⟩ := ofOffset_between before after
  rw [← String.toList_append, ← splits.eq_append] at lines
  rw [← splits.eq_append, ← byteIdx_of_splits splits] at place
  rw [place]
  refine ⟨⟨by simp [lines], by simp [lines]⟩, String.toList_inj.mp ?_⟩
  rw [Location.front, String.toList_ofList, whole]
  simp [lines]

theorem exists_next_pos (source : String) {offset : Nat} (within : offset ≤ source.utf8ByteSize) :
    ∃ p : source.Pos, offset ≤ p.offset.byteIdx ∧
      (∀ q : source.Pos, offset ≤ q.offset.byteIdx → p ≤ q) ∧
      ofOffset source offset = ofOffset source p.offset.byteIdx := by
  rw [← utf8Len_toList] at within
  obtain ⟨before, after, split, enough, least, walked⟩ := exists_walk_eq source.toList within
  have whole : source = String.ofList before ++ String.ofList after := by
    refine String.toList_inj.mp ?_
    simp [split]
  have valid : (String.ofList before).rawEndPos.IsValid source :=
    String.Pos.Raw.isValid_iff_exists_append.mpr ⟨_, _, whole, rfl⟩
  let p : source.Pos := ⟨_, valid⟩
  have splits : p.Splits (String.ofList before) (String.ofList after) := ⟨whole, rfl⟩
  have size : p.offset.byteIdx = String.utf8Len before := by
    rw [byteIdx_of_splits splits, String.utf8ByteSize_ofList]
  refine ⟨p, size ▸ enough, fun q enough' => ?_, ?_⟩
  · rw [String.Pos.le_iff, String.Pos.Raw.le_iff, size]
    rw [byteIdx_of_splits q.splits, ← utf8Len_toList] at enough' ⊢
    refine least _ ⟨(source.sliceFrom q).copy.toList, ?_⟩ enough'
    rw [← String.toList_append, ← q.splits.eq_append]
  · rw [ofOffset_of_splits splits, String.toList_ofList, ofOffset, walked]

/-- The place of an offset between two characters is the line and the column that have just the bytes
before the offset in front of them, and no other. Places go up with their offsets, so that no two such
offsets have the same place. An offset within a character has the place of the next one between two
characters, and an offset past the end that of the end. -/
theorem ofOffset_identifies (source : String) :
    (∀ (p : source.Pos) (l : Location), l = ofOffset source p.offset.byteIdx ↔
      l.Within source ∧ (l.front source).toByteArray = source.toByteArray.extract 0 p.offset.byteIdx) ∧
    (∀ p q : source.Pos, (ofOffset source p.offset.byteIdx).coordinates <
      (ofOffset source q.offset.byteIdx).coordinates ↔ p < q) ∧
    (Function.Injective fun p : source.Pos => ofOffset source p.offset.byteIdx) ∧
    (∀ offset ≤ source.utf8ByteSize, ∃ p : source.Pos, offset ≤ p.offset.byteIdx ∧
      (∀ q : source.Pos, offset ≤ q.offset.byteIdx → p ≤ q) ∧
      ofOffset source offset = ofOffset source p.offset.byteIdx) ∧
    ∀ offset ≥ source.utf8ByteSize,
      ofOffset source offset = ofOffset source source.utf8ByteSize := by
  refine ⟨fun p l => ?_, fun p q => coordinates_lt_iff, fun p q same => ?_,
    fun offset => exists_next_pos source, fun offset past => ?_⟩
  · obtain ⟨within, front⟩ := front_ofOffset p.splits
    rw [← p.splits.toByteArray_left_eq, String.toByteArray_inj]
    constructor
    · rintro rfl
      exact ⟨within, front⟩
    · rintro ⟨within', front'⟩
      exact eq_of_front within' within (front'.trans front.symm)
  · rcases Nat.lt_trichotomy p.offset.byteIdx q.offset.byteIdx with less | here | more
    · exact absurd (congrArg coordinates same) (coordinates_lt_of_lt less).ne
    · exact String.Pos.ext (String.Pos.Raw.ext here)
    · exact absurd (congrArg coordinates same) (coordinates_lt_of_lt more).ne'
  · rw [← utf8Len_toList] at past ⊢
    rw [ofOffset, walk_of_le _ _ past, ofOffset, walk_of_le _ _ (Nat.le_refl _)]

example : ofOffset "a\nこb" 3 = ⟨2, 2⟩ ∧ ofOffset "a\nこb" 5 = ⟨2, 2⟩ := by decide

end Location
end Storypath
