import Storypath.Proofs.Script.Search

/-! The meaning of a segment, said of the outline alone: it is told hop by hop. A hop looks for
its target, tells what stands after the last label that meets it, and ends where a jump, an end
or a choice block does; a jump sets the target of the next hop. -/
namespace Storypath

/-- The items from where a hop starts looking to where it ends, and what it tells of them:
`first` is the first label that meets the target and `last` the last one. -/
inductive Hop (target : Target) : List Item → List Statement → Prop
  | mk {before body early late : List Item} {first last : String}
      (unmetBefore : ∀ i ∈ before, i.meets target = false) (metFirst : target.isMetBy first)
      (unclosed : ∀ i ∈ body, i.closes = false)
      (split : Item.label first :: body = early ++ Item.label last :: late)
      (metLast : target.isMetBy last) (unmetLate : ∀ i ∈ late, i.meets target = false) :
      Hop target (before ++ Item.label first :: body) (late.filterMap Item.told?)

/-- The pieces that the hops tell, one for each hop; a choice ends the piece of the last. -/
inductive Hops : Target → List Entry → List (List Statement) → Prop
  | input {target : Target} {items : List Item} {piece : List Statement}
      (hop : Hop target items piece) : Hops target (items.map .item) [piece]
  | blockEnd {target : Target} {items : List Item} {piece : List Statement} {rest : List Entry}
      (hop : Hop target items piece) :
      Hops target (items.map .item ++ .item .blockEnd :: rest) [piece]
  | brokenChoice {target : Target} {items : List Item} {piece : List Statement}
      {rest : List Entry} (hop : Hop target items piece) :
      Hops target (items.map .item ++ .item .brokenChoice :: rest) [piece]
  | choice {target : Target} {items : List Item} {piece : List Statement} {rest : List Entry}
      {prompt : String} {branches : List Branch} (hop : Hop target items piece) :
      Hops target (items.map .item ++ .item (.choice prompt branches) :: rest)
        [piece ++ [.choice prompt branches]]
  | jump {target : Target} {items : List Item} {piece : List Statement} {rest : List Entry}
      {reference : String} {pieces : List (List Statement)} (hop : Hop target items piece)
      (next : Hops (.ofReference reference) rest pieces) :
      Hops target (items.map .item ++ .item (.jump reference) :: rest) (piece :: pieces)

namespace Hop

variable {target : Target} {items : List Item} {piece : List Statement} {item : Item}

theorem of_label {before : List Item} {l : String}
    (unmet : ∀ i ∈ before, i.meets target = false) (met : target.isMetBy l) :
    Hop target (before ++ [.label l]) [] :=
  @mk target before [] [] [] l l unmet met (by simp) rfl met (by simp)

theorem extend (hop : Hop target items piece) (unclosed : item.closes = false)
    (unmet : item.meets target = false) :
    Hop target (items ++ [item]) (piece ++ item.told?.toList) := by
  obtain @⟨before, body, early, late, first, last, unmetBefore, metFirst, open_, split, metLast,
    unmetLate⟩ := hop
  have here : late.filterMap Item.told? ++ item.told?.toList =
      (late ++ [item]).filterMap Item.told? := by
    cases h : item.told? <;> simp [h]
  rw [here, List.append_assoc, List.cons_append]
  refine @mk target before (body ++ [item]) early (late ++ [item]) first last unmetBefore metFirst
    ?_ ?_ metLast ?_
  · simpa [or_imp, forall_and] using ⟨open_, unclosed⟩
  · rw [← List.cons_append, split, List.append_assoc, List.cons_append]
  · simpa [or_imp, forall_and] using ⟨unmetLate, unmet⟩

theorem again {l : String} (hop : Hop target items piece) (met : target.isMetBy l) :
    Hop target (items ++ [.label l]) [] := by
  obtain @⟨before, body, early, late, first, last, unmetBefore, metFirst, open_, split, -, -⟩ :=
    hop
  rw [List.append_assoc, List.cons_append]
  refine @mk target before (body ++ [.label l]) (.label first :: body) [] first l
    unmetBefore metFirst ?_ rfl met (by simp)
  simpa [or_imp, forall_and, Item.closes] using open_

theorem kind_ne_of_mem (hop : Hop target items piece) {s : Statement} (h : s ∈ piece) :
    s.kind ≠ .choicePrompt := by
  obtain @⟨before, body, early, late, first, last, -, -, -, -, -, -⟩ := hop
  obtain ⟨item, -, told⟩ := List.mem_filterMap.mp h
  cases item <;> simp [Item.told?] at told <;> simp [← told, Statement.kind]

end Hop

namespace Walk

variable {w w' : Walk} {items : List Item} {item : Item}

/-- Where a walk stands within a hop that has read `items`: it looks for the target, or it
collects what the hop tells. -/
inductive Stands (w : Walk) (items : List Item) : Prop
  | looking (idle : w.collecting = false) (unmet : ∀ i ∈ items, i.meets w.target = false)
  | telling {piece : List Statement} (busy : w.collecting = true)
      (hop : Hop w.target items piece) (told : w.statements = w.kept.reverse ++ piece)

theorem stands_start (target : Target) : (start target).Stands [] :=
  .looking rfl (by simp)

theorem Stands.pass (stands : w.Stands items) (pass : w.pass item = .inl w') :
    (w'.target = w.target ∧ w'.kept = w.kept ∧ w'.Stands (items ++ [item])) ∨
      ∃ reference piece, item = .jump reference ∧ Hop w.target items piece ∧
        w'.target = .ofReference reference ∧ w'.kept.reverse = w.kept.reverse ++ piece ∧
        w'.Stands [] := by
  by_cases met : item.meets w.target
  · obtain ⟨l, rfl, met⟩ : ∃ l, item = .label l ∧ w.target.isMetBy l := by
      cases item <;> simp_all [Item.meets]
    rw [pass_met met, Sum.inl.injEq] at pass
    subst pass
    have hop : Hop w.target (items ++ [.label l]) [] := by
      cases stands with
      | looking idle unmet => exact .of_label unmet met
      | telling busy hop told => exact hop.again met
    exact .inl ⟨rfl, rfl, .telling rfl hop (by simp [statements])⟩
  · rw [Bool.not_eq_true] at met
    cases stands with
    | looking idle unmet =>
      obtain ⟨gathered, h⟩ := pass_idle idle met
      obtain rfl := Sum.inl.inj (h.symm.trans pass)
      refine .inl ⟨rfl, rfl, .looking idle ?_⟩
      simpa [or_imp, forall_and] using ⟨unmet, met⟩
    | telling busy hop told =>
      by_cases closes : item.closes
      · obtain ⟨reference, rfl⟩ : ∃ reference, item = .jump reference := by
          cases item <;> simp_all [Item.closes, Walk.pass, close, gather]
        rw [pass_jump busy, Sum.inl.injEq] at pass
        subst pass
        exact .inr ⟨reference, _, rfl, hop, rfl, told, .looking rfl (by simp)⟩
      · rw [Bool.not_eq_true] at closes
        obtain rfl := Sum.inl.inj ((pass_unclosed closes met).symm.trans pass)
        refine .inl ⟨rfl, rfl, .telling busy (hop.extend closes met) ?_⟩
        rw [← List.append_assoc, ← told]
        cases item <;> simp [statements, Item.told?]

theorem Stands.hops_of_ends {source : String} {strict : Bool} {es : List Entry}
    {result : List Statement} (stands : w.Stands items) (busy : w.collecting = true)
    (ends : Ends source strict w es (.ok result)) :
    ∃ pieces, Hops w.target (items.map .item ++ es) pieces ∧
      result = w.kept.reverse ++ pieces.flatten := by
  cases stands with
  | looking idle unmet => simp [busy] at idle
  | @telling piece _ hop told =>
    generalize ended : Except.ok result = outcome at ends
    cases ends with
    | refused => simp at ended
    | finished =>
      obtain rfl : result = w.statements := by simpa [finish, busy] using ended
      exact ⟨[piece], by simpa using Hops.input hop, by simpa using told⟩
    | @closed item es statements pass =>
      obtain rfl := Except.ok.inj ended
      obtain ⟨-, ⟨prompt, branches, rfl, rfl⟩ | ⟨rfl | rfl, rfl⟩⟩ := pass_inr pass
      · exact ⟨[piece ++ [.choice prompt branches]], .choice hop, by simp [told]⟩
      · exact ⟨[piece], .brokenChoice hop, by simpa using told⟩
      · exact ⟨[piece], .blockEnd hop, by simpa using told⟩

theorem Passes.hops {source : String} {strict : Bool} {es es' : List Entry}
    {result : List Statement} (passes : Passes w es w' es') (stands : w.Stands items)
    (busy : w'.collecting = true) (ends : Ends source strict w' es' (.ok result)) :
    ∃ pieces, Hops w.target (items.map .item ++ es) pieces ∧
      result = w.kept.reverse ++ pieces.flatten := by
  induction passes generalizing items with
  | none => exact stands.hops_of_ends busy ends
  | item pass _ ih =>
    rcases stands.pass pass with
      ⟨target, kept, stands⟩ | ⟨reference, piece, rfl, hop, target, kept, stands⟩
    · obtain ⟨pieces, hops, rfl⟩ := ih stands busy ends
      exact ⟨pieces, by simpa [target] using hops, by rw [kept]⟩
    · obtain ⟨pieces, hops, rfl⟩ := ih stands busy ends
      refine ⟨piece :: pieces, ?_, by simp [kept]⟩
      rw [target] at hops
      exact .jump hop hops

variable {es : List Entry}

theorem passes_unmet (idle : w.collecting = false)
    (unmet : ∀ i ∈ items, i.meets w.target = false) :
    ∃ gathered, Passes w (items.map .item ++ es) { w with gathered := gathered } es := by
  induction items generalizing w with
  | nil => exact ⟨w.gathered, .none w es⟩
  | cons item items ih =>
    obtain ⟨gathered, pass⟩ := pass_idle idle (unmet item (by simp))
    obtain ⟨gathered', more⟩ := @ih { w with gathered := gathered } idle
      (fun i h => unmet i (by simp [h]))
    exact ⟨gathered', .item pass more⟩

theorem passes_unclosed (unclosed : ∀ i ∈ items, i.closes = false) :
    ∃ w', Passes w (items.map .item ++ es) w' es ∧ w'.target = w.target ∧ w'.kept = w.kept := by
  induction items generalizing w with
  | nil => exact ⟨w, .none w es, rfl, rfl⟩
  | cons item items ih =>
    have rest (i : Item) (h : i ∈ items) := unclosed i (by simp [h])
    by_cases met : item.meets w.target
    · obtain ⟨l, rfl, met⟩ : ∃ l, item = .label l ∧ w.target.isMetBy l := by
        cases item <;> simp_all [Item.meets]
      obtain ⟨w', more, target, kept⟩ := ih rest
      exact ⟨w', .item (pass_met met) more, target, kept⟩
    · have pass := pass_unclosed (unclosed item (by simp)) (by simpa using met)
      obtain ⟨w', more, target, kept⟩ := ih rest
      exact ⟨w', .item pass more, target, kept⟩

theorem passes_told (unclosed : ∀ i ∈ items, i.closes = false)
    (unmet : ∀ i ∈ items, i.meets w.target = false) :
    Passes w (items.map .item ++ es)
      { w with gathered := (items.filterMap Item.told?).reverse ++ w.gathered } es := by
  induction items generalizing w with
  | nil => exact .none w es
  | cons item items ih =>
    have pass := pass_unclosed (unclosed item (by simp)) (unmet item (by simp))
    have more := @ih { w with gathered := item.told?.toList ++ w.gathered }
      (fun i h => unclosed i (by simp [h])) (fun i h => unmet i (by simp [h]))
    have gathered : ((item :: items).filterMap Item.told?).reverse ++ w.gathered =
        (items.filterMap Item.told?).reverse ++ (item.told?.toList ++ w.gathered) := by
      cases h : item.told? <;> simp [h]
    rw [gathered]
    exact .item pass more

theorem passes_hop {piece : List Statement} (hop : Hop w.target items piece)
    (idle : w.collecting = false) :
    ∃ w', Passes w (items.map .item ++ es) w' es ∧ w'.kept = w.kept ∧ w'.collecting = true ∧
      w'.statements = w.kept.reverse ++ piece := by
  generalize ht : w.target = target at hop
  obtain @⟨before, body, early, late, first, last, unmetBefore, metFirst, unclosed, split, metLast,
    unmetLate⟩ := hop
  have open_ : ∀ i ∈ early ++ Item.label last :: late, i.closes = false := by
    rw [← split]
    simpa [Item.closes] using unclosed
  subst ht
  obtain ⟨gathered, passes₁⟩ := @passes_unmet w before
    ((Item.label first :: body).map .item ++ es) idle unmetBefore
  obtain ⟨w₂, passes₂, target₂, kept₂⟩ := @passes_unclosed { w with gathered := gathered } early
    ((Item.label last :: late).map .item ++ es) (fun i h => open_ i (by simp [h]))
  have pass₃ := @pass_met w₂ last (by rw [target₂]; exact metLast)
  have passes₄ := @passes_told
    { w₂ with gathered := w₂.kept, collecting := true, matched := true } late es
    (fun i h => open_ i (by simp [h])) (by simpa [target₂] using unmetLate)
  refine ⟨{ w₂ with gathered := (late.filterMap Item.told?).reverse ++ w₂.kept, collecting := true,
                    matched := true }, ?_, kept₂, rfl, by simp [statements, kept₂]⟩
  rw [List.map_append, List.append_assoc]
  refine passes₁.trans ?_
  rw [split, List.map_append, List.append_assoc]
  exact passes₂.trans (.item pass₃ passes₄)

/-- The hops of an outline are what a walk along it gives. -/
theorem ends_hops {target : Target} {pieces : List (List Statement)}
    (hops : Hops target es pieces) (source : String) (strict : Bool) (at_ : w.target = target)
    (idle : w.collecting = false) :
    ∃ w' es', Passes w es w' es' ∧ w'.collecting = true ∧
      Ends source strict w' es' (.ok (w.kept.reverse ++ pieces.flatten)) := by
  induction hops generalizing w with
  | input hop =>
    subst at_
    obtain ⟨w', passes, -, busy, told⟩ := @passes_hop w _ [] _ hop idle
    refine ⟨w', [], by simpa using passes, busy, ?_⟩
    rw [List.flatten_singleton, ← told]
    simpa [finish, busy] using @Ends.finished source strict w'
  | @blockEnd _ _ _ rest hop =>
    subst at_
    obtain ⟨w', passes, -, busy, told⟩ := @passes_hop w _ (.item .blockEnd :: rest) _ hop idle
    rw [List.flatten_singleton, ← told]
    exact ⟨w', _, passes, busy, .closed (pass_blockEnd busy)⟩
  | @brokenChoice _ _ _ rest hop =>
    subst at_
    obtain ⟨w', passes, -, busy, told⟩ := @passes_hop w _ (.item .brokenChoice :: rest) _ hop idle
    rw [List.flatten_singleton, ← told]
    exact ⟨w', _, passes, busy, .closed (pass_brokenChoice busy)⟩
  | @choice _ _ _ rest prompt branches hop =>
    subst at_
    obtain ⟨w', passes, -, busy, told⟩ :=
      @passes_hop w _ (.item (.choice prompt branches) :: rest) _ hop idle
    rw [List.flatten_singleton, ← List.append_assoc, ← told]
    exact ⟨w', _, passes, busy, .closed (pass_choice busy)⟩
  | @jump _ _ _ rest reference _ hop next ih =>
    subst at_
    obtain ⟨w₁, passes₁, -, busy₁, told₁⟩ :=
      @passes_hop w _ (.item (.jump reference) :: rest) _ hop idle
    obtain ⟨w₂, es₂, passes₂, busy₂, ends⟩ := @ih (w₁.turn reference) rfl rfl
    refine ⟨w₂, es₂, passes₁.trans (.item (pass_jump busy₁) passes₂), busy₂, ?_⟩
    rw [List.flatten_cons, ← List.append_assoc, ← told₁]
    exact ends

end Walk

theorem Hops.kind_ne_of_mem_dropLast {target : Target} {es : List Entry}
    {pieces : List (List Statement)} (hops : Hops target es pieces) {s : Statement}
    (h : s ∈ pieces.flatten.dropLast) : s.kind ≠ .choicePrompt := by
  induction hops with
  | input hop | blockEnd hop | brokenChoice hop =>
    rw [List.flatten_singleton] at h
    exact hop.kind_ne_of_mem (List.dropLast_subset _ h)
  | choice hop =>
    rw [List.flatten_singleton, List.dropLast_concat] at h
    exact hop.kind_ne_of_mem h
  | @jump _ _ piece _ _ pieces hop next ih =>
    rw [List.flatten_cons] at h
    by_cases none : pieces.flatten = []
    · rw [none, List.append_nil] at h
      exact hop.kind_ne_of_mem (List.dropLast_subset _ h)
    · rw [List.dropLast_append_of_ne_nil none] at h
      rcases List.mem_append.mp h with h | h
      · exact hop.kind_ne_of_mem h
      · exact ih h

namespace Reading

variable {source : String} {options : ScriptOptions} {r : Reading}

/-- A run with room for all tokens gives the hops that the outline has. -/
theorem run_of_hops {pieces : List (List Statement)} (sound : r.Sound options)
    (room : r.feed.Room options.maxTokens) (idle : r.walk.collecting = false)
    (hops : Hops r.walk.target (r.entries options) pieces) :
    r.run source options = .ok (r.walk.kept.reverse ++ pieces.flatten) := by
  obtain ⟨w', es', passes, -, ends⟩ := Walk.ends_hops hops source options.strict rfl idle
  rw [run_eq_search source sound room, passes.search_eq, ends.search_eq]

end Reading

/-- Where resolving stops at the end of what it collects, only its last statement can be a choice. -/
theorem kind_ne_of_stops {source : String} {target : Target} {options : ScriptOptions}
    {statements : List Statement} (resolved : resolveTarget source target options = .ok statements)
    (stops : options.strict = true ∨
      ((Reading.start source target).last source options).walk.collecting = true) :
    ∀ s ∈ statements.dropLast, s.kind ≠ .choicePrompt := by
  have sound := Reading.sound_start options source target
  have ends := Reading.ends_last_of_ok sound resolved
  have passes := (Reading.passes_last source _ sound).1
  have busy : ((Reading.start source target).last source options).walk.collecting = true := by
    rcases stops with strict | busy
    · rw [strict] at ends
      exact ends.collecting_of_strict
    · exact busy
  obtain ⟨pieces, hops, rfl⟩ := passes.hops (Walk.stands_start target) busy ends
  exact fun s => hops.kind_ne_of_mem_dropLast

def twoHops : String := "*a\nx\n*a\ny\n[*b]\n*c\nno\n@end\n*b\nz\n@end\n"

end Storypath
