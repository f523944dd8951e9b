import Mathlib
import Storypath.Proofs.Disk.PathText

/-! The names of a path that mean something, and how they grow with it. What is joined to a path
is one name more, and the folder in which it lies is spelt as the path was, without meaningless
names at its end. -/
namespace Storypath.Path

/-- A name that something can have in a folder: it holds no slash and does not lead elsewhere. -/
structure Names (name : String) : Prop where
  some_ : name ≠ ""
  dot : name ≠ "."
  dots : name ≠ ".."
  no_slash : '/' ∉ name.toList

instance (name : String) : Decidable (Names name) :=
  decidable_of_iff (name ≠ "" ∧ name ≠ "." ∧ name ≠ ".." ∧ '/' ∉ name.toList)
    ⟨fun ⟨some_, dot, dots, no_slash⟩ => ⟨some_, dot, dots, no_slash⟩,
      fun h => ⟨h.some_, h.dot, h.dots, h.no_slash⟩⟩

/-- The names of a path that mean something; the root and a single dot at the front of a relative
path stand for themselves. -/
def components (p : Path) : List String :=
  (if p.absolute then ["/"] else if p.names.head? = some "." then ["."] else []) ++
    p.names.filter fun name => name != "" && name != "."

variable {name : String}

theorem absolute_join (folder : String) (proper : Names name) :
    (ofText (join folder name)).absolute = (ofText folder).absolute := by
  obtain ⟨names, -, joined⟩ := ofText_join folder proper.no_slash
  rw [joined]

theorem components_join (folder : String) (proper : Names name) :
    (ofText (join folder name)).components = (ofText folder).components ++ [name] := by
  obtain ⟨names, spelt, joined⟩ := ofText_join folder proper.no_slash
  have meant : (names ++ [name]).filter (fun name => name != "" && name != ".") =
      (ofText folder).names.filter (fun name => name != "" && name != ".") ++ [name] := by
    rcases spelt with spelt | spelt <;>
      simp [spelt, List.filter_append, proper.some_, proper.dot]
  have front : (names ++ [name]).head? = some "." ↔ (ofText folder).names.head? = some "." := by
    rcases names with _ | ⟨first, names⟩
    · rw [spelt.resolve_left (names_ne_nil folder)]
      simp [proper.dot]
    · rcases spelt with spelt | spelt <;> simp [spelt]
  simp only [components, joined, meant, front, List.append_assoc]

theorem components_foldl_join (root : String) {way : List String}
    (proper : ∀ name ∈ way, Names name) :
    (ofText (way.foldl join root)).components = (ofText root).components ++ way := by
  induction way generalizing root with
  | nil => exact (List.append_nil _).symm
  | cons name way ih =>
    obtain ⟨here, rest⟩ := List.forall_mem_cons.mp proper
    rw [List.foldl_cons, ih _ rest, components_join root here, List.append_assoc]
    rfl

theorem chain_join (folder : String) (proper : Names name) :
    chain (ofText folder).absolute (ofText (join folder name)).names.reverse =
      (ofText (join folder name)).names.reverse ::
        chain (ofText folder).absolute (ofText folder).names.reverse := by
  obtain ⟨names, spelt, joined⟩ := ofText_join folder proper.no_slash
  have here (before : List String) : counts (ofText folder).absolute name before = true := by
    simp [counts, proper.some_, proper.dot]
  rw [joined, List.reverse_concat, chain, if_pos (here _)]
  rcases spelt with spelt | spelt
  · rw [spelt]
  · simp [spelt, chain, counts]

theorem tidy_join (folder : String) (proper : Names name) :
    tidy (join folder name) = join folder name := by
  rw [tidy, absolute_join folder proper, chain_join folder proper]
  simp only [textOfReversed, List.reverse_reverse, ← absolute_join folder proper]
  exact text_ofText _

theorem parent_join (folder : String) (proper : Names name) :
    parent (join folder name) = tidy folder := by
  rw [parent, above, absolute_join folder proper, chain_join folder proper, List.drop_one,
    List.tail_cons, tidy]

theorem join_join (root : String) (proper : Names name) {more : String}
    (front : more.toList.head? ≠ some '/') :
    join (join root name) more = join root (name ++ "/" ++ more) := by
  have some_ : name.toList ≠ [] := by simpa using proper.some_
  have head := head?_of_no_slash proper.no_slash
  have head' : (name ++ "/" ++ more).toList.head? ≠ some '/' := by
    rwa [String.append_assoc, String.toList_append, List.head?_append_of_ne_nil _ some_]
  have last (before : String) : (before ++ name).toList.getLast? ≠ some '/' := by
    rw [String.toList_append, List.getLast?_append_of_ne_nil _ some_]
    exact fun h => proper.no_slash (List.mem_of_mem_getLast? h)
  have ends : ¬ (join root name = "" || (join root name).toList.getLast? = some '/') := by
    unfold join
    rw [if_neg head]
    split <;> simp [proper.some_, last, -String.toList_append]
  rw [join, if_neg front, if_neg ends]
  unfold join
  rw [if_neg head, if_neg head']
  split <;> simp only [String.append_assoc]

theorem join_intercalate (root : String) {way : List String} (some_ : way ≠ [])
    (proper : ∀ name ∈ way, Names name) :
    join root ("/".intercalate way) = way.foldl join root := by
  induction way generalizing root with
  | nil => exact absurd rfl some_
  | cons name way ih =>
    obtain ⟨here, rest⟩ := List.forall_mem_cons.mp proper
    rcases way with _ | ⟨next, way⟩
    · simp
    have front : ("/".intercalate (next :: way)).toList.head? ≠ some '/' := by
      have next_ := proper next (by simp)
      obtain ⟨c, cs, spelt⟩ :=
        List.exists_cons_of_ne_nil (by simpa using next_.some_ : next.toList ≠ [])
      have head := head?_of_no_slash next_.no_slash
      cases way <;> simpa [String.intercalate_cons_cons, spelt] using head
    rw [String.intercalate_cons_cons, ← join_join root here front, ih _ (by simp) rest]
    rfl

theorem components_skip {absolute : Bool} {before : List String}
    (skip : counts absolute name before = false) :
    (Path.mk absolute (name :: before).reverse).components =
      (Path.mk absolute before.reverse).components := by
  have meant : name = "" ∨ name = "." := by
    by_contra meant
    rw [not_or] at meant
    simp [counts, meant] at skip
  rcases before.eq_nil_or_concat with rfl | ⟨before, first, rfl⟩
  · have front : absolute = false → name ≠ "." := by
      rintro rfl rfl
      simp [counts] at skip
    rcases meant with rfl | rfl <;> cases absolute <;> simp_all [components]
  · rcases meant with rfl | rfl <;> simp [components, List.filter_cons]

theorem components_chain (absolute : Bool) (names : List String) :
    ∃ skipped, names = skipped ++ (chain absolute names).head?.getD [] ∧
      (Path.mk absolute names.reverse).components =
        (Path.mk absolute ((chain absolute names).head?.getD []).reverse).components := by
  induction names with
  | nil => cases absolute <;> exact ⟨[], rfl, rfl⟩
  | cons name before ih =>
    by_cases here : counts absolute name before
    · exact ⟨[], by simp [chain, here], by simp [chain, here]⟩
    · obtain ⟨skipped, split, same⟩ := ih
      have skip : chain absolute (name :: before) = chain absolute before := by simp [chain, here]
      refine ⟨name :: skipped, ?_, ?_⟩
      · rw [skip, List.cons_append, ← split]
      · rw [components_skip (by simpa using here), skip, same]

theorem tidy_eq (path : String) :
    tidy path = textOfReversed (ofText path).absolute
      ((chain (ofText path).absolute (ofText path).names.reverse).head?.getD []) := by
  unfold tidy
  rcases chain_eq (ofText path).absolute (ofText path).names.reverse with
    none | ⟨skipped, n, before, -, -, -, some_⟩
  · rw [none]
    cases (ofText path).absolute <;> rfl
  · rw [some_]
    rfl

theorem components_tidy (path : String) :
    (ofText (tidy path)).components = (ofText path).components := by
  obtain ⟨skipped, split, same⟩ :=
    components_chain (ofText path).absolute (ofText path).names.reverse
  rw [List.reverse_reverse] at same
  rw [tidy_eq, same]
  generalize (chain (ofText path).absolute (ofText path).names.reverse).head?.getD [] = kept
    at split ⊢
  have names : (ofText path).names = kept.reverse ++ skipped.reverse := by
    rw [← List.reverse_append, ← split, List.reverse_reverse]
  rcases kept with _ | ⟨n, before⟩
  · cases (ofText path).absolute <;> decide
  have spelt := spelt_ofText path
  have speltKept : (Path.mk (ofText path).absolute (n :: before).reverse).Spelt := by
    refine ⟨by simp, fun name h => spelt.no_slash name ?_, fun relative => ?_⟩
    · rw [names]
      exact List.mem_append_left _ h
    · have front := spelt.front relative
      rw [names, List.head?_append_of_ne_nil _ (by simp)] at front
      refine front.imp_left fun single => ?_
      rcases List.append_eq_singleton_iff.mp single with ⟨none, -⟩ | ⟨kept, -⟩
      · simp at none
      · exact kept
  rw [textOfReversed, ofText_text speltKept]

end Storypath.Path
