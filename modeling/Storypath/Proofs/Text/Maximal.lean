/-! Rows of characters of one class that go as far as they can. Main statements: such a row is what
is taken from a text while its characters are of the class. -/
namespace Storypath.Grammar

/-- A row of characters of a class that goes as far as it can. -/
structure Maximal (p : Char → Prop) (run rest : List Char) : Prop where
  within : ∀ c ∈ run, p c
  stops : ∀ c ∈ rest.head?, ¬ p c

variable {p : Char → Prop} {run rest : List Char}

theorem Maximal.takeWhile {q : Char → Bool} (more : Maximal p run rest)
    (same : ∀ c, q c = true ↔ p c) : (run ++ rest).takeWhile q = run := by
  rw [List.takeWhile_append_of_pos fun c mem => (same c).mpr (more.within c mem)]
  cases rest with
  | nil => simp
  | cons c rest =>
    have stops : q c ≠ true := fun fits => more.stops c rfl ((same c).mp fits)
    simp [stops]

theorem Maximal.dropWhile {q : Char → Bool} (more : Maximal p run rest)
    (same : ∀ c, q c = true ↔ p c) : (run ++ rest).dropWhile q = rest := by
  have whole := List.takeWhile_append_dropWhile (p := q) (l := run ++ rest)
  rw [more.takeWhile same] at whole
  exact List.append_cancel_left whole

theorem maximal_takeWhile {q : Char → Bool} (same : ∀ c, q c = true ↔ p c) (cs : List Char) :
    Maximal p (cs.takeWhile q) (cs.dropWhile q) where
  within c mem := (same c).mp (List.all_eq_true.mp (List.all_takeWhile (p := q)) c mem)
  stops c mem fits := by
    have stops := List.head?_dropWhile_not q cs
    rw [Option.mem_def.mp mem] at stops
    simp [(same c).mpr fits] at stops

end Storypath.Grammar
