import Mathlib
import Storypath.Proofs.Script.Reading

/-! Reading a script strictly or not. The two readings go the same steps until the strict one
meets a malformed construct or misses a target, which only it refuses. -/
namespace Storypath

/-- A result that only strict reading gives: a fault other than the limit on tokens. -/
def Refused (result : Except ScriptFault (List Statement)) : Prop :=
  ∃ fault, result = .error fault ∧ fault.code ≠ "PARSE_GUARD_EXCEEDED"

theorem refused_flaw (source : String) (flaw : Flaw) : Refused (.error (flaw.fault source)) :=
  ⟨_, rfl, by cases flaw <;> simp [Flaw.fault, ScriptFault.code]⟩

theorem Walk.finish_strict (w : Walk) :
    w.finish true = w.finish false ∨ Refused (w.finish true) := by
  by_cases busy : w.collecting
  · exact .inl (by simp [finish, busy])
  by_cases matched : w.matched
  · exact .inr ⟨.jumpTargetNotFound w.target.written, by simp [finish, busy, matched],
      by simp [ScriptFault.code]⟩
  · exact .inr ⟨.labelNotFound w.target.written, by simp [finish, busy, matched],
      by simp [ScriptFault.code]⟩

namespace Phase

theorem read_strict (maxBranches maxTokens : Nat) (phase : Phase) (t : Token) :
    phase.read ⟨maxBranches, maxTokens, true⟩ t = phase.read ⟨maxBranches, maxTokens, false⟩ t ∨
      ∃ flaw, phase.read ⟨maxBranches, maxTokens, true⟩ t = .flaw flaw := by
  cases phase <;> simp only [read, brokenChoice] <;> (repeat' split) <;> simp_all

theorem read_ne_flaw (maxBranches maxTokens : Nat) (phase : Phase) (t : Token) (flaw : Flaw) :
    phase.read ⟨maxBranches, maxTokens, false⟩ t ≠ .flaw flaw := by
  cases phase <;> simp only [read, brokenChoice] <;> (repeat' split) <;> simp_all

end Phase

namespace Reading

variable {source : String} {maxBranches maxTokens : Nat}

/-- A strict step is the step of the other reading, or the strict reading ends there. -/
theorem step_strict (source : String) (maxBranches maxTokens : Nat) (r : Reading) :
    r.step source ⟨maxBranches, maxTokens, true⟩ = r.step source ⟨maxBranches, maxTokens, false⟩ ∨
      ∃ result, r.step source ⟨maxBranches, maxTokens, true⟩ = .inr result ∧ Refused result := by
  unfold step
  cases r.feed.take maxTokens with
  | none => exact .inl rfl
  | some taken =>
    obtain ⟨t, feed⟩ := taken
    by_cases blank : t.isWhitespace
    · exact .inl (by simp [blank])
    rcases Phase.read_strict maxBranches maxTokens r.phase t with same | ⟨flaw, refused⟩
    · simp only [same, blank]
      cases r.phase.read ⟨maxBranches, maxTokens, false⟩ t with
      | finish => simpa [eq_comm] using r.walk.finish_strict
      | _ => exact .inl rfl
    · exact .inr ⟨_, by simp [refused, blank], refused_flaw source flaw⟩

theorem run_strict (source : String) (maxBranches maxTokens : Nat) (r : Reading) :
    r.run source ⟨maxBranches, maxTokens, true⟩ = r.run source ⟨maxBranches, maxTokens, false⟩ ∨
      Refused (r.run source ⟨maxBranches, maxTokens, true⟩) := by
  fun_induction run source ⟨maxBranches, maxTokens, true⟩ r with
  | case1 r r' step ih =>
    rcases step_strict source maxBranches maxTokens r with same | ⟨result, ends, -⟩
    · rwa [run_of_inl (same.symm.trans step)]
    · simp [ends] at step
  | case2 r result step =>
    rcases step_strict source maxBranches maxTokens r with same | ⟨result', ends, refused⟩
    · exact .inl (run_of_inr (same.symm.trans step)).symm
    · obtain rfl := Sum.inr.inj (ends.symm.trans step)
      exact .inr refused

theorem fault_of_step {r : Reading} {fault : ScriptFault}
    (sound : r.Sound ⟨maxBranches, maxTokens, false⟩)
    (fails : r.step source ⟨maxBranches, maxTokens, false⟩ = .inr (.error fault)) :
    fault = .tokenLimit maxTokens := by
  unfold step at fails
  split at fails
  · simpa [eq_comm] using fails
  next t feed _ =>
  have fits := Phase.fits_read sound.fits t
  have noFlaw := Phase.read_ne_flaw maxBranches maxTokens r.phase t
  split at fails
  · simp at fails
  generalize r.phase.read ⟨maxBranches, maxTokens, false⟩ t = reply at fails fits noFlaw
  cases reply with
  | take item? phase | putBack item? phase =>
    cases item? with
    | none => simp [after] at fails
    | some item => cases hp : r.walk.pass item <;> simp [after, hp] at fails
  | flaw flaw => exact absurd rfl (noFlaw flaw)
  | refuse fault => exact absurd fits not_false
  | finish => simp [Walk.finish] at fails

theorem fault_of_run {r : Reading} {fault : ScriptFault}
    (sound : r.Sound ⟨maxBranches, maxTokens, false⟩)
    (fails : r.run source ⟨maxBranches, maxTokens, false⟩ = .error fault) :
    fault = .tokenLimit maxTokens :=
  fault_of_step (passes_last source r sound).2 (by rw [step_last, fails])

end Reading

/-- What strict reading gives, reading without strictness gives too, and nothing but the limit
on tokens makes the latter fail. -/
theorem resolveTarget_lenient (source : String) (target : Target) (maxBranches maxTokens : Nat) :
    (∀ statements, resolveTarget source target ⟨maxBranches, maxTokens, true⟩ = .ok statements →
      resolveTarget source target ⟨maxBranches, maxTokens, false⟩ = .ok statements) ∧
    (∀ fault, resolveTarget source target ⟨maxBranches, maxTokens, true⟩ = .error fault →
      fault.code = "PARSE_GUARD_EXCEEDED" →
      resolveTarget source target ⟨maxBranches, maxTokens, false⟩ = .error fault) ∧
    ∀ fault, resolveTarget source target ⟨maxBranches, maxTokens, false⟩ = .error fault →
      fault.code = "PARSE_GUARD_EXCEEDED" := by
  refine ⟨fun statements given => ?_, fun fault failed code => ?_, fun fault failed => ?_⟩
  · rcases Reading.run_strict source maxBranches maxTokens (.start source target) with
      same | ⟨fault, refused, -⟩
    · exact same.symm.trans given
    · exact absurd (refused.symm.trans given) (by simp)
  · rcases Reading.run_strict source maxBranches maxTokens (.start source target) with
      same | ⟨fault', refused, other⟩
    · exact same.symm.trans failed
    · obtain rfl := Except.error.inj (refused.symm.trans failed)
      exact absurd code other
  · obtain rfl := Reading.fault_of_run (Reading.sound_start _ source target) failed
    rfl

def unevenStory : String := "*a\nHi\n@end\n*b\n@wait\n*c\n@buttons\nGo?\n"

theorem resolveTarget_unevenStory :
    resolveTarget unevenStory (.ofLabel "*a") ⟨4, 9, false⟩ = .ok [.text "Hi"] ∧
      resolveTarget unevenStory (.ofLabel "*a") ⟨4, 2, false⟩ = .error (.tokenLimit 2) ∧
      (ScriptFault.tokenLimit 2).code = "PARSE_GUARD_EXCEEDED" := by
  have stopped := (resolveTarget_lenient unevenStory (.ofLabel "*a") 4 2).2.1
    (.tokenLimit 2) (by cbv) rfl
  exact ⟨(resolveTarget_lenient unevenStory (.ofLabel "*a") 4 9).1 _ (by cbv), stopped,
    (resolveTarget_lenient unevenStory (.ofLabel "*a") 4 2).2.2 _ stopped⟩

end Storypath
