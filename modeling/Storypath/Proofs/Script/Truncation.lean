import Mathlib
import Storypath.Proofs.Script.BranchLimit

/-! The limit on branches cuts choices short and does nothing else. No choice has more branches than
the script has tokens, so that a limit of that size cuts nothing. Main statement: a run with any
limit reads the same tokens as the run with such a limit, and gives what that run gives, cut short. -/
namespace Storypath

open TokenStream (tokens)

namespace Outline

variable {options : ScriptOptions} {prompt : String} {branches : List Branch}

theorem length_branches_row_le (ts : List Token) : (row ts).branches.length ≤ ts.length := by
  fun_induction row ts with
  | case1 => simp
  | case2 t ts _ b _ ih =>
    have := length_branch_le ts
    simp only [Row.after, List.length_append, List.length_cons, List.length_nil]
    omega
  | case3 => simp
  | case4 => simp

theorem branches_of_close {prompt' : String} {r : Row} {rest : List Token}
    (closed : close prompt' r = (.ok (prompt, branches), rest)) : r.branches = branches := by
  by_cases whole : r.whole
  · cases left : r.rest with
    | nil => simp [close, whole, left] at closed
    | cons t ts =>
      by_cases ends : t.kind = .blockEnd
      · have same : (prompt', r.branches) = (prompt, branches) ∧ ts = rest := by
          simpa [close, whole, left, ends] using closed
        exact congrArg Prod.snd same.1
      · simp [close, whole, left, ends] at closed
  · simp [close, whole] at closed

theorem length_branches_block_le {ts rest : List Token}
    (closed : block ts = (.ok (prompt, branches), rest)) : branches.length ≤ ts.length := by
  cases ts with
  | nil => simp [block] at closed
  | cons t ts =>
    have least := length_branches_row_le ts
    rw [branches_of_close closed] at least
    exact Nat.le_succ_of_le least

theorem length_branches_construct_le {t : Token} {ts : List Token}
    (makes : (construct options t ts).1 = some (.item (.choice prompt branches))) :
    branches.length ≤ ts.length := by
  cases kind : t.kind with
  | choiceBlockStart =>
    rw [construct, kind] at makes
    rcases read : block ts with ⟨flaw | ⟨prompt', branches'⟩, rest⟩
    · by_cases strict : options.strict <;> simp [choiceEntry, read, strict] at makes
    · obtain ⟨rfl, rfl⟩ : prompt' = prompt ∧ branches'.take options.maxBranches = branches := by
        simpa [choiceEntry, read] using makes
      exact Nat.le_trans (List.length_take_le' _ _) (length_branches_block_le read)
  | wait =>
    rw [construct, kind] at makes
    cases ts with
    | nil => by_cases strict : options.strict <;> simp [waitEntry, strict] at makes
    | cons t' ts =>
      by_cases text : t'.kind = .text <;> by_cases strict : options.strict <;>
        simp [waitEntry, text, strict] at makes
  | _ => simp [construct, kind] at makes

/-- No choice has more branches than there are tokens. -/
theorem length_branches_entries_le {ts : List Token}
    (mem : .item (.choice prompt branches) ∈ entries options ts) :
    branches.length ≤ ts.length := by
  fun_induction entries options ts with
  | case1 => simp at mem
  | case2 t ts ih =>
    rw [List.mem_append, Option.mem_toList] at mem
    rw [List.length_cons]
    rcases mem with here | later
    · exact Nat.le_succ_of_le (length_branches_construct_le here)
    · have := length_construct_le options t ts
      have := ih later
      omega

theorem cut_of_mem_ofSource {n : Nat} {source : String} {item : Item}
    (enough : (tokens source).length ≤ n) (mem : .item item ∈ ofSource options source) :
    item.cut n = item := by
  cases item with
  | choice prompt branches =>
    have few : branches.length ≤ n := calc
      branches.length ≤ ((tokens source).filter fun t => !t.isWhitespace).length :=
        length_branches_entries_le mem
      _ ≤ (tokens source).length := List.length_filter_le _ _
      _ ≤ n := enough
    simp [Item.cut, List.take_of_length_le few]
  | _ => rfl

end Outline

theorem length_branches_of_cutResult {m : Nat} {result : Except ScriptFault (List Statement)}
    {statements : List Statement} (cut : cutResult m result = .ok statements) :
    ∀ s ∈ statements, s.branches.length ≤ m := by
  cases result with
  | error fault => simp [cutResult, Except.map] at cut
  | ok whole =>
    obtain rfl := Except.ok.inj cut
    intro s mem
    obtain ⟨s', -, rfl⟩ := List.mem_map.mp mem
    cases s' with
    | choice prompt branches => exact List.length_take_le m branches
    | text t | pause d => exact Nat.zero_le m

namespace Walk

variable {n : Nat} {w w' : Walk} {es es' : List Entry}

theorem Passes.cut_eq (passes : Passes w es w' es') (same : w.cut n = w)
    (ahead : ∀ item, .item item ∈ es → item.cut n = item) :
    w'.cut n = w' ∧ ∀ item, .item item ∈ es' → item.cut n = item := by
  induction passes with
  | none => exact ⟨same, ahead⟩
  | @item w w' _ item es _ pass _ ih =>
    have cut := w.pass_cut (m := n) item
    rw [same, ahead item (by simp), pass] at cut
    exact ih (Sum.inl.inj cut).symm fun item mem => ahead item (by simp [mem])

theorem Ends.cut_eq {source : String} {strict : Bool}
    {result : Except ScriptFault (List Statement)} (ends : Ends source strict w es result)
    (same : w.cut n = w) (ahead : ∀ item, .item item ∈ es → item.cut n = item) :
    cutResult n result = result := by
  cases ends with
  | @closed item es statements pass =>
    have cut := w.pass_cut (m := n) item
    rw [same, ahead item (by simp), pass] at cut
    exact congrArg Except.ok (Sum.inr.inj cut).symm
  | refused => rfl
  | finished =>
    have cut : (w.cut n).finish strict = cutResult n (w.finish strict) := w.finish_cut
    rw [same] at cut
    exact cut.symm

end Walk

namespace Reading

variable {m n maxTokens : Nat} {strict : Bool} {options : ScriptOptions} {r : Reading}

theorem cut_run_start {source : String} (target : Target)
    (enough : (tokens source).length ≤ n) :
    cutResult n ((start source target).run source options) =
      (start source target).run source options := by
  obtain ⟨passes, sound⟩ := passes_last source _ (sound_start options source target)
  rw [entries_start] at passes
  obtain ⟨same, ahead⟩ := passes.cut_eq (n := n) rfl
    fun item mem => Outline.cut_of_mem_ofSource enough mem
  rcases step_inr sound (step_last source options (start source target)) with ⟨-, limit⟩ | ends
  · rw [limit]
    rfl
  · exact ends.cut_eq same ahead

theorem code_ne_of_run (sound : r.Sound options) {source : String} {fault : ScriptFault}
    (fails : r.run source options = .error fault) : fault.code ≠ "CHOICE_TOO_MANY_BRANCHES" := by
  intro crowded
  have step := step_last source options r
  rw [fails] at step
  rcases step_inr (passes_last source r sound).2 step with ⟨-, limit⟩ | ends
  · obtain rfl := Except.error.inj limit
    simp [ScriptFault.code] at crowded
  · simpa [crowded] using ends.code_mem

/-- The places at which a run reads a token, and the one that it has come to at its end. -/
def feeds (source : String) (options : ScriptOptions) (r : Reading) : List Feed :=
  r.feed ::
    match _h : r.step source options with
    | .inl r' => r'.feeds source options
    | .inr _ => ((r.feed.take options.maxTokens).map Prod.snd).toList
termination_by r.measure
decreasing_by exact measure_step _h

theorem feeds_of_inl {source : String} {r' : Reading} (h : r.step source options = .inl r') :
    r.feeds source options = r.feed :: r'.feeds source options := by
  rw [feeds]
  split
  · next r'' h' => rw [h, Sum.inl.injEq] at h'; rw [h']
  · next result h' => simp [h] at h'

theorem feeds_of_inr {source : String} {result : Except ScriptFault (List Statement)}
    (h : r.step source options = .inr result) :
    r.feeds source options =
      r.feed :: ((r.feed.take options.maxTokens).map Prod.snd).toList := by
  rw [feeds]
  split
  · next r'' h' => simp [h] at h'
  · rfl

theorem feeds_cut (lower : m ≤ n) (source : String) {r : Reading}
    (sound : r.Sound ⟨n, maxTokens, strict⟩) :
    (r.cut m).feeds source ⟨m, maxTokens, strict⟩ = r.feeds source ⟨n, maxTokens, strict⟩ := by
  fun_induction last source ⟨n, maxTokens, strict⟩ r with
  | case1 r r' step ih =>
    have step' := step_cut lower source sound.fits
    rw [step] at step'
    rw [feeds_of_inl step', feeds_of_inl step, ih (passes_step sound (stepsTo_of_step step)).2]
    rfl
  | case2 r result step =>
    have step' := step_cut lower source sound.fits
    rw [step] at step'
    rw [feeds_of_inr step', feeds_of_inr step]
    rfl

end Reading

/-- The limit on branches cuts each choice short and does nothing else. No result has a choice with
more branches than the limit, none is that a choice has too many, and the same tokens are read up to
the same place, whatever the limit is. -/
theorem resolveTarget_truncated (source : String) (target : Target) (strict : Bool)
    (maxTokens m n : Nat) (enough : (tokens source).length ≤ n) :
    resolveTarget source target ⟨m, maxTokens, strict⟩ =
        cutResult m (resolveTarget source target ⟨n, maxTokens, strict⟩) ∧
      (∀ statements, resolveTarget source target ⟨m, maxTokens, strict⟩ = .ok statements →
        ∀ s ∈ statements, s.branches.length ≤ m) ∧
      (∀ fault, resolveTarget source target ⟨m, maxTokens, strict⟩ = .error fault →
        fault.code ≠ "CHOICE_TOO_MANY_BRANCHES") ∧
      (Reading.start source target).feeds source ⟨m, maxTokens, strict⟩ =
        (Reading.start source target).feeds source ⟨n, maxTokens, strict⟩ := by
  let start := Reading.start source target
  have sound (limit : Nat) : start.Sound ⟨limit, maxTokens, strict⟩ :=
    Reading.sound_start _ source target
  have truncated : start.run source ⟨m, maxTokens, strict⟩ =
      cutResult m (start.run source ⟨n, maxTokens, strict⟩) := by
    rcases Nat.le_total m n with lower | higher
    · exact (Reading.run_cut lower source (sound n)).2
    · -- Neither limit cuts anything, so that the two runs give the same.
      have fewer := (Reading.run_cut higher source (sound m)).2
      rw [Reading.cut_run_start target enough] at fewer
      exact (Reading.cut_run_start target (Nat.le_trans enough higher)).symm.trans
        (congrArg (cutResult m) fewer.symm)
  refine ⟨truncated, ?_, ?_, ?_⟩
  · intro statements given
    exact length_branches_of_cutResult (truncated.symm.trans given)
  · intro fault fails
    exact Reading.code_ne_of_run (sound m) fails
  · rcases Nat.le_total m n with lower | higher
    · exact Reading.feeds_cut lower source (sound n)
    · exact (Reading.feeds_cut higher source (sound m)).symm

def crowdedStory : String := "*a\n@buttons\nGo?\n- [b] Yes\n- [*c]\n- [d] No\n@end\n"

theorem resolveTarget_crowdedStory :
    (tokens crowdedStory).length ≤ 25 ∧
      resolveTarget crowdedStory (.ofLabel "*a") ⟨1, 100, true⟩ =
        .ok [.choice "Go?" [⟨"b", "Yes"⟩]] := by
  have few : (tokens crowdedStory).length ≤ 25 := by cbv
  have whole : resolveTarget crowdedStory (.ofLabel "*a") ⟨25, 100, true⟩ =
      .ok [.choice "Go?" [⟨"b", "Yes"⟩, ⟨"*c", ""⟩, ⟨"d", "No"⟩]] := by cbv
  have truncated := (resolveTarget_truncated crowdedStory (.ofLabel "*a") true 100 1 25 few).1
  rw [whole] at truncated
  exact ⟨few, truncated⟩

end Storypath
