import Storypath.Disk.Path

/-! The text of a path and its names. A path is spelt by its names with slashes between them, and
the folders above it are spelt by names at its front. -/
namespace Storypath.Path

theorem splitSlashes_eq (cs : List Char) : splitSlashes cs = cs.splitOn '/' := by
  fun_induction splitSlashes cs with
  | case1 => rfl
  | case2 cs ih => simpa [List.splitOn, List.splitOnP_cons_eq_if_modifyHead] using ih
  | case3 c cs ne none ih =>
    rw [none] at ih
    exact absurd ih.symm (List.splitOnP_ne_nil _ _)
  | case4 c cs ne n ns split ih =>
    have other : (c == '/') = false := by simpa using ne
    rw [split, List.splitOn] at ih
    simp [List.splitOn, List.splitOnP_cons_eq_if_modifyHead, other, ← ih]

theorem splitSlashes_append (cs more : List Char) :
    splitSlashes (cs ++ '/' :: more) = splitSlashes cs ++ splitSlashes more := by
  simp only [splitSlashes_eq]
  exact List.splitOnP_append_cons cs more (by simp)

/-- A path as it is read from a text: it has a name, no name holds a slash, and a relative path
begins with a name. -/
structure Spelt (p : Path) : Prop where
  some_name : p.names ≠ []
  no_slash : ∀ name ∈ p.names, '/' ∉ name.toList
  front : p.absolute = false → p.names = [""] ∨ p.names.head? ≠ some ""

theorem toList_text (p : Path) :
    p.text.toList =
      (if p.absolute then ['/'] else []) ++ ['/'].intercalate (p.names.map String.toList) := by
  unfold text
  by_cases absolute : p.absolute <;> simp [absolute, String.toList_intercalate]

theorem map_splitSlashes_intercalate {names : List String} (some_name : names ≠ [])
    (no_slash : ∀ name ∈ names, '/' ∉ name.toList) :
    (splitSlashes (['/'].intercalate (names.map String.toList))).map String.ofList = names := by
  rw [splitSlashes_eq,
    List.splitOn_intercalate _ (by simpa using no_slash) (by simpa using some_name)]
  simp [Function.comp_def]

theorem Spelt.head?_text {p : Path} (spelt : p.Spelt) (relative : p.absolute = false) :
    p.text.toList.head? ≠ some '/' := by
  rw [toList_text, relative]
  obtain ⟨name, names, h⟩ := List.exists_cons_of_ne_nil spelt.some_name
  have front := spelt.front relative
  have no_slash := spelt.no_slash name (by simp [h])
  rw [h] at front ⊢
  rcases hc : name.toList with _ | ⟨c, cs⟩
  · obtain rfl : name = "" := by simpa using hc
    obtain rfl : names = [] := by simpa using front
    simp
  · have first : c ≠ '/' := by
      rintro rfl
      simp [hc] at no_slash
    cases names <;> simp [hc, first, List.intercalate_cons_cons]

theorem ofText_text {p : Path} (spelt : p.Spelt) : ofText p.text = p := by
  obtain ⟨absolute, names⟩ := p
  have split := map_splitSlashes_intercalate spelt.some_name spelt.no_slash
  cases absolute with
  | true => simp [ofText, toList_text, split]
  | false =>
    have front := spelt.head?_text rfl
    rw [toList_text] at front
    unfold ofText
    rw [toList_text]
    simp only [Bool.false_eq_true, if_false, List.nil_append] at front ⊢
    split
    · next cs h => simp [h] at front
    · rw [split]

theorem splitSlashes_ne_nil (cs : List Char) : splitSlashes cs ≠ [] := by
  rw [splitSlashes_eq]
  exact List.splitOnP_ne_nil _ _

theorem not_mem_of_mem_splitSlashes {cs name : List Char} (h : name ∈ splitSlashes cs) :
    '/' ∉ name := by
  fun_induction splitSlashes cs generalizing name with
  | case1 => simp_all
  | case2 cs ih =>
    rcases List.mem_cons.mp h with rfl | h
    · simp
    · exact ih h
  | case3 c cs ne none ih => exact absurd none (splitSlashes_ne_nil cs)
  | case4 c cs ne n ns split ih =>
    rw [split] at ih
    rcases List.mem_cons.mp h with rfl | h
    · have other : ¬ '/' = c := fun same => ne same.symm
      simpa [other] using ih (List.mem_cons_self ..)
    · exact ih (List.mem_cons_of_mem _ h)

theorem head_splitSlashes {c : Char} (cs : List Char) (noSlash : c ≠ '/') :
    ∃ name names, splitSlashes (c :: cs) = (c :: name) :: names := by
  obtain ⟨name, names, split⟩ := List.exists_cons_of_ne_nil (splitSlashes_ne_nil cs)
  refine ⟨name, names, ?_⟩
  rw [splitSlashes.eq_3 _ _ (by simpa using noSlash), split]

theorem names_ne_nil (text : String) : (ofText text).names ≠ [] := by
  unfold ofText
  split <;> simp [splitSlashes_ne_nil]

theorem spelt_ofText (text : String) : (ofText text).Spelt where
  some_name := names_ne_nil text
  no_slash name h := by
    have split : ∃ cs, (ofText text).names = (splitSlashes cs).map String.ofList := by
      unfold ofText
      split <;> exact ⟨_, rfl⟩
    obtain ⟨cs, split⟩ := split
    rw [split] at h
    obtain ⟨n, hn, rfl⟩ := List.mem_map.mp h
    simpa using not_mem_of_mem_splitSlashes hn
  front relative := by
    unfold ofText at relative ⊢
    split at relative
    · simp at relative
    · next noSlash =>
      rcases h : text.toList with _ | ⟨c, cs⟩
      · exact .inl rfl
      · obtain ⟨name, names, first⟩ := head_splitSlashes cs fun same => noSlash cs (same ▸ h)
        exact .inr (by simp [first])

theorem text_ofText (text : String) : (ofText text).text = text := by
  apply String.toList_injective
  have join (cs : List Char) : ['/'].intercalate (splitSlashes cs) = cs := by
    rw [splitSlashes_eq, List.intercalate_splitOn]
  rw [toList_text]
  unfold ofText
  split
  · next cs h => simp [Function.comp_def, join, h]
  · next cs h => simp [Function.comp_def, join]

theorem intercalate_front {names : List (List Char)} (some_name : names ≠ [])
    (more : List (List Char)) :
    ['/'].intercalate names <+: ['/'].intercalate (names ++ more) := by
  induction names with
  | nil => exact absurd rfl some_name
  | cons name names ih =>
    rcases names with _ | ⟨next, names⟩
    · rcases more with _ | ⟨next, more⟩
      · exact List.prefix_rfl
      · simp [List.intercalate_cons_cons]
    · simpa [List.intercalate_cons_cons] using ih (by simp)

/-- One path spells a folder above what another spells: its names are at the front of the other's,
which have a name after them. The root is spelt without a name. -/
structure Above (outer path : String) : Prop where
  front : outer.toList <+: path.toList
  ne : outer ≠ ""
  absolute : (ofText outer).absolute = (ofText path).absolute
  names : ∃ ns rest, (ofText path).names = ns ++ rest ∧ (∃ name ∈ rest, name ≠ "") ∧
    ((ofText outer).names = ns ∨ ns = [] ∧ (ofText outer).names = [""])

inductive Ladder (absolute : Bool) : String → List (List String) → Prop
  | bottom (path : String) : Ladder absolute path []
  | rung {path : String} {names : List String} {above : List (List String)}
      (isAbove : Above (textOfReversed absolute names) path)
      (rest : Ladder absolute (textOfReversed absolute names) above) :
      Ladder absolute path (names :: above)

theorem chain_eq (absolute : Bool) (names : List String) :
    chain absolute names = (if absolute then [[]] else []) ∨
      ∃ skipped n before, names = skipped ++ n :: before ∧ n ≠ "" ∧
        chain absolute (n :: before) = (n :: before) :: chain absolute before ∧
        chain absolute names = (n :: before) :: chain absolute before := by
  induction names with
  | nil => exact .inl rfl
  | cons n before ih =>
    by_cases here : counts absolute n before
    · have all : chain absolute (n :: before) = (n :: before) :: chain absolute before := by
        simp [chain, here]
      refine .inr ⟨[], n, before, rfl, ?_, all, all⟩
      rintro rfl
      simp [counts] at here
    · have skip : chain absolute (n :: before) = chain absolute before := by simp [chain, here]
      rw [skip]
      rcases ih with none | ⟨skipped, m, before', rfl, ne, all, chain_⟩
      · exact .inl none
      · exact .inr ⟨n :: skipped, m, before', rfl, ne, all, chain_⟩

theorem above_root {path : String} (absolute : (ofText path).absolute = true)
    (some_ : ∃ name ∈ (ofText path).names, name ≠ "") : Above (textOfReversed true []) path where
  front := by
    rw [← text_ofText path, toList_text, absolute]
    simp [textOfReversed, toList_text]
  ne := by decide
  absolute := absolute.symm
  names := ⟨[], _, rfl, some_, .inr ⟨rfl, by decide⟩⟩

theorem above_text {p q : Path} (spelt : p.Spelt) (rest : List String)
    (absolute : q.absolute = p.absolute) (names : p.names = q.names ++ rest)
    (some_name : ∃ name ∈ q.names, name ≠ "") (some_ : ∃ name ∈ rest, name ≠ "") :
    q.Spelt ∧ Above q.text p.text := by
  obtain ⟨first, more, cons⟩ := List.exists_cons_of_ne_nil
    (List.ne_nil_of_mem some_name.choose_spec.1)
  have speltOuter : q.Spelt := by
    refine ⟨by simp [cons], fun name h => spelt.no_slash name (by simp [names, h]),
      fun relative => ?_⟩
    rcases spelt.front (absolute ▸ relative) with single | front
    · obtain ⟨name, h, ne⟩ := some_
      have : name ∈ p.names := by simp [names, h]
      simp [single, ne] at this
    · exact .inr (by simpa [names, cons] using front)
  refine ⟨speltOuter, ?_, ?_, ?_, q.names, rest, ?_, some_, .inl ?_⟩
  · rw [toList_text, toList_text, absolute, names, List.map_append]
    exact (List.prefix_append_right_inj _).mpr (intercalate_front (by simp [cons]) _)
  · intro empty
    have : q = ofText "" := by rw [← ofText_text speltOuter, empty]
    obtain ⟨name, h, ne⟩ := some_name
    simp [this, ofText, splitSlashes, ne] at h
  · rw [ofText_text speltOuter, ofText_text spelt, absolute]
  · rw [ofText_text spelt, names]
  · rw [ofText_text speltOuter]

theorem ladder_text {p : Path} (spelt : p.Spelt) : Ladder p.absolute p.text p.above := by
  unfold above
  rcases chain_eq p.absolute p.names.reverse with none | ⟨skipped, n, before, split, ne, -, here⟩
  · rw [none]
    cases p.absolute <;> exact .bottom _
  rw [here, List.drop_one, List.tail_cons]
  have names : p.names = before.reverse ++ n :: skipped.reverse := by
    rw [← List.reverse_reverse p.names, split]
    simp
  rcases chain_eq p.absolute before with none | ⟨skipped', m, before', rfl, ne', again, above⟩
  · rw [none]
    cases absolute : p.absolute with
    | false => exact .bottom _
    | true =>
      refine .rung (above_root ?_ ?_) (.bottom _) <;> rw [ofText_text spelt]
      · exact absolute
      · exact ⟨n, by simp [names], ne⟩
  · rw [above]
    have outer := above_text (q := ⟨p.absolute, (m :: before').reverse⟩) spelt
      (skipped'.reverse ++ n :: skipped.reverse) rfl (by simp [names])
      ⟨m, by simp, ne'⟩ ⟨n, by simp, ne⟩
    have shorter : before'.length + 1 < p.names.length := by
      simp only [names, List.length_append, List.length_reverse, List.length_cons]
      omega
    have ladder := ladder_text outer.1
    simp only [Path.above, List.reverse_reverse, again, List.drop_one, List.tail_cons] at ladder
    exact .rung outer.2 ladder
termination_by p.names.length
decreasing_by simpa using shorter

/-- The folders above a path are spelt each above the one before. -/
theorem ladder_above (path : String) :
    Ladder (ofText path).absolute path (ofText path).above := by
  have ladder := ladder_text (spelt_ofText path)
  rwa [text_ofText] at ladder

theorem ofText_append {text : String} (some_ : text ≠ "") (more : List Char) :
    ofText (String.ofList (text.toList ++ '/' :: more)) =
      ⟨(ofText text).absolute, (ofText text).names ++ (splitSlashes more).map String.ofList⟩ := by
  obtain ⟨c, cs, h⟩ := List.exists_cons_of_ne_nil (by simpa using some_ : text.toList ≠ [])
  by_cases slash : c = '/'
  · subst slash
    simp [ofText, h, splitSlashes_append]
  · have relative (more : List Char) : ofText (String.ofList (c :: more)) =
        ⟨false, (splitSlashes (c :: more)).map String.ofList⟩ := by
      simp [ofText, slash]
    have here : text = String.ofList (c :: cs) := by rw [← h, String.ofList_toList]
    rw [h, List.cons_append, relative, here, relative, ← List.cons_append, splitSlashes_append,
      List.map_append]

theorem head?_of_no_slash {text : String} (no_slash : '/' ∉ text.toList) :
    text.toList.head? ≠ some '/' := fun h => no_slash (List.mem_of_mem_head? h)

theorem ofText_join (folder : String) {name : String} (no_slash : '/' ∉ name.toList) :
    ∃ names, ((ofText folder).names = names ∨ (ofText folder).names = names ++ [""]) ∧
      ofText (join folder name) = ⟨(ofText folder).absolute, names ++ [name]⟩ := by
  have single : (splitSlashes name.toList).map String.ofList = [name] := by
    rw [splitSlashes_eq, List.splitOn, List.splitOnP_eq_singleton]
    · simp
    · intro c hc
      exact beq_false_of_ne fun same => no_slash (same ▸ hc)
  have front := head?_of_no_slash no_slash
  unfold join
  rw [if_neg front]
  by_cases empty : folder = ""
  · subst empty
    refine ⟨[], .inr rfl, ?_⟩
    rw [if_pos (by simp), String.empty_append]
    unfold ofText
    split
    · next cs h => simp [h] at front
    · exact congrArg (Path.mk false) single
  by_cases slash : folder.toList.getLast? = some '/'
  · obtain ⟨cs, h⟩ := List.getLast?_eq_some_iff.mp slash
    have joined : folder ++ name = String.ofList (cs ++ '/' :: name.toList) := by
      apply String.toList_injective
      simp [h]
    rw [if_pos (by simp [slash]), joined]
    by_cases root : cs = []
    · subst root
      exact ⟨[], .inr (by simp [ofText, h, splitSlashes]), by simp [ofText, h, single]⟩
    · have some_ : String.ofList cs ≠ "" := by simpa using root
      have here := ofText_append some_ []
      have there := ofText_append some_ name.toList
      rw [String.toList_ofList] at here there
      rw [← h, String.ofList_toList] at here
      rw [single] at there
      exact ⟨(ofText (String.ofList cs)).names, .inr (by simp [here, splitSlashes]),
        by rw [there, here]⟩
  · have joined : folder ++ "/" ++ name = String.ofList (folder.toList ++ '/' :: name.toList) := by
      apply String.toList_injective
      simp
    have here := ofText_append empty name.toList
    rw [single] at here
    exact ⟨_, .inl rfl, by rw [if_neg (by simp [empty, slash]), joined, here]⟩

end Storypath.Path
