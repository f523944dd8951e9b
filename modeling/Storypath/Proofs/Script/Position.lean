import Mathlib
import Storypath.Script.Location

/-! Places and lines. A script cut at every line feed gives its lines; the place of a byte offset
counts the lines above it and the characters in front of it on its own line. -/
namespace Storypath

def linesOf (cs : List Char) : List (List Char) := cs.splitOn '\n'

theorem linesOf_lineFeed (cs : List Char) : linesOf ('\n' :: cs) = [] :: linesOf cs := by
  simp [linesOf, List.splitOn, List.splitOnP_cons_eq_if_modifyHead]

theorem linesOf_cons {c : Char} (other : c ≠ '\n') (cs : List Char) :
    linesOf (c :: cs) = (linesOf cs).modifyHead (c :: ·) := by
  simp [linesOf, List.splitOn, List.splitOnP_cons_eq_if_modifyHead, other]

theorem exists_linesOf (cs : List Char) :
    ∃ below, linesOf cs = cs.takeWhile (· ≠ '\n') :: below := by
  induction cs with
  | nil => exact ⟨[], rfl⟩
  | cons c cs ih =>
    obtain ⟨below, lines⟩ := ih
    by_cases feed : c = '\n'
    · subst feed
      exact ⟨linesOf cs, by simp [linesOf_lineFeed]⟩
    · exact ⟨below, by simp [linesOf_cons feed, lines, feed]⟩

namespace Location

/-- The place between `before` and `after` has these whole lines above it and this in front of it
on its own line. -/
structure Between (before after : List Char) (above : List (List Char)) (front : List Char) :
    Prop where
  lines : ∃ below,
    linesOf (before ++ after) = above ++ (front ++ after.takeWhile (· ≠ '\n')) :: below
  whole : before = above.flatMap (· ++ ['\n']) ++ front

theorem walk_between (before after : List Char) :
    ∃ above front, Between before after above front ∧
      ∀ l : Location, l.walk (String.utf8Len before) (before ++ after) =
        ⟨l.line + above.length, (if above = [] then l.column else 1) + front.length⟩ := by
  induction before with
  | nil =>
    obtain ⟨below, lines⟩ := exists_linesOf after
    exact ⟨[], [], ⟨⟨below, lines⟩, rfl⟩, fun l => walk_zero l after⟩
  | cons c before ih =>
    obtain ⟨above, front, ⟨⟨below, lines⟩, whole⟩, walked⟩ := ih
    have first (l : Location) : l.walk (String.utf8Len (c :: before)) (c :: before ++ after) =
        (l.advance c).walk (String.utf8Len before) (before ++ after) := by
      have some_ := c.utf8Size_pos
      rw [String.utf8Len_cons, List.cons_append, walk_cons (by omega), Nat.add_sub_cancel]
    by_cases feed : c = '\n'
    · -- A line feed is a whole line, an empty one, above all the others.
      subst feed
      refine ⟨[] :: above, front, ⟨⟨below, ?_⟩, by simp [whole]⟩, fun l => ?_⟩
      · rw [List.cons_append, linesOf_lineFeed, lines, List.cons_append]
      · rw [first, walked]
        simp [advance, Nat.add_comm, Nat.add_left_comm]
    · -- Any other character goes in front of the first line above, or of what stands in front.
      cases above with
      | nil =>
        refine ⟨[], c :: front, ⟨⟨below, ?_⟩, by simpa using whole⟩, fun l => ?_⟩
        · rw [List.cons_append, linesOf_cons feed, lines]
          rfl
        · rw [first, walked]
          simp [advance, feed, Nat.add_comm, Nat.add_left_comm]
      | cons line above =>
        refine ⟨(c :: line) :: above, front, ⟨⟨below, ?_⟩, by simp [whole]⟩, fun l => ?_⟩
        · rw [List.cons_append, linesOf_cons feed, lines]
          rfl
        · rw [first, walked]
          simp [advance, feed]

/-- The place of an offset between two characters is one line and one column further than the whole
lines above it and the characters in front of it. -/
theorem ofOffset_between (before after : String) :
    ∃ above front, Between before.toList after.toList above front ∧
      ofOffset (before ++ after) before.utf8ByteSize = ⟨above.length + 1, front.length + 1⟩ := by
  obtain ⟨above, front, between, walked⟩ := walk_between before.toList after.toList
  refine ⟨above, front, between, ?_⟩
  have size : before.utf8ByteSize = String.utf8Len before.toList := by
    rw [← String.utf8ByteSize_ofList, String.ofList_toList]
  rw [ofOffset, String.toList_append, size, walked]
  simp [first, Nat.add_comm]

/-- A place points at a word at a byte offset of a script. The lines above it and what stands in front
of it on its own line make up what the script has before the offset. Cutting that off its line leaves
what the script has from there to the end of the line, and it begins with the word. -/
def PointsAt (l : Location) (source : String) (offset : Nat) (word : String) : Prop :=
  ∃ before after line, source = before ++ after ∧ before.utf8ByteSize = offset ∧
    1 ≤ l.line ∧ (linesOf source.toList)[l.line - 1]? = some line ∧
    1 ≤ l.column ∧ before.toList = ((linesOf source.toList).take (l.line - 1)).flatMap (· ++ ['\n']) ++
      line.take (l.column - 1) ∧
    line.drop (l.column - 1) = after.toList.takeWhile (· ≠ '\n') ∧
    word.toList <+: after.toList.takeWhile (· ≠ '\n')

theorem pointsAt_ofOffset (before word after : String) (oneLine : '\n' ∉ word.toList) :
    (ofOffset (before ++ (word ++ after)) before.utf8ByteSize).PointsAt
      (before ++ (word ++ after)) before.utf8ByteSize word := by
  obtain ⟨above, front, ⟨⟨below, lines⟩, whole⟩, place⟩ := ofOffset_between before (word ++ after)
  refine ⟨before, word ++ after, front ++ (word ++ after).toList.takeWhile (· ≠ '\n'), rfl, rfl, ?_⟩
  rw [place, String.toList_append, lines]
  refine ⟨by simp, by simp, by simp, by simpa using whole, by simp, ?_⟩
  rw [String.toList_append, List.takeWhile_append_of_pos fun c mem => ?_]
  · exact List.prefix_append _ _
  · simpa using fun feed : c = '\n' => oneLine (feed ▸ mem)

end Location
end Storypath
