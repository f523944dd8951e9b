import Mathlib
import Storypath.Proofs.Script.Reading

/-! Resolving in two passes: the outline of a script is read first, and then searched for the
target. The one pass of resolving gives the same, result and fault alike. -/
namespace Storypath

/-- Searches the entries of an outline: `current` are the statements gathered, `saved` those at
the last jump, and `matched` tells whether any target has been met. -/
def search (source : String) (strict : Bool) (current saved : List Statement)
    (collecting matched : Bool) (target : Target) :
    List Entry → Except ScriptFault (List Statement)
  | [] =>
    if collecting then .ok current
    else if strict then
      .error (if matched then .jumpTargetNotFound target.written else .labelNotFound target.written)
    else .ok current
  | .flaw flaw :: _ => .error (flaw.fault source)
  | .item (.text t) :: es =>
    search source strict (current ++ [.text t]) saved collecting matched target es
  | .item (.pause d) :: es =>
    search source strict (current ++ [.pause d]) saved collecting matched target es
  | .item (.choice prompt branches) :: es =>
    if collecting then .ok (current ++ [.choice prompt branches])
    else search source strict (current ++ [.choice prompt branches]) saved false matched target es
  | .item .brokenChoice :: es | .item .blockEnd :: es =>
    if collecting then .ok current
    else search source strict current saved false matched target es
  | .item (.label l) :: es =>
    if target.isMetBy l then search source strict saved saved true true target es
    else search source strict current saved collecting matched target es
  | .item (.jump reference) :: es =>
    if collecting then
      search source strict current current false matched (.ofReference reference) es
    else search source strict current saved false matched target es

namespace Walk

def search (source : String) (strict : Bool) (w : Walk) (es : List Entry) :
    Except ScriptFault (List Statement) :=
  Storypath.search source strict w.statements w.kept.reverse w.collecting w.matched w.target es

variable {source : String} {strict : Bool} {w w' : Walk} {item : Item} {es es' : List Entry}

theorem search_pass (pass : w.pass item = .inl w') :
    w.search source strict (.item item :: es) = w'.search source strict es := by
  cases item with
  | text t | pause d =>
    obtain rfl := Sum.inl.inj pass
    simp [search, Storypath.search, statements, gather]
  | choice prompt branches =>
    by_cases collecting : w.collecting
    · simp [Walk.pass, close, gather, collecting] at pass
    · obtain rfl : w.gather (.choice prompt branches) = w' := by
        simpa [Walk.pass, close, gather, collecting] using pass
      simp [search, Storypath.search, statements, gather, collecting]
  | brokenChoice | blockEnd =>
    by_cases collecting : w.collecting
    · simp [Walk.pass, close, collecting] at pass
    · obtain rfl : w = w' := by simpa [Walk.pass, close, collecting] using pass
      simp [search, Storypath.search, collecting]
  | label l =>
    by_cases met : w.target.isMetBy l
    · simp only [Walk.pass, met, if_true, Sum.inl.injEq] at pass
      simp [← pass, search, Storypath.search, statements, met]
    · obtain rfl : w = w' := by simpa [Walk.pass, met] using pass
      simp [search, Storypath.search, met]
  | jump reference =>
    by_cases collecting : w.collecting
    · simp only [Walk.pass, collecting, if_true, Sum.inl.injEq] at pass
      simp [← pass, search, Storypath.search, statements, collecting]
    · obtain rfl : w = w' := by simpa [Walk.pass, collecting] using pass
      simp [search, Storypath.search, collecting]

theorem Passes.search_eq (passes : Passes w es w' es') :
    w.search source strict es = w'.search source strict es' := by
  induction passes with
  | none => rfl
  | item pass _ ih => rw [search_pass pass, ih]

theorem search_closed {result : List Statement} (pass : w.pass item = .inr result) :
    w.search source strict (.item item :: es) = .ok result := by
  obtain ⟨busy, ⟨prompt, branches, rfl, rfl⟩ | ⟨rfl | rfl, rfl⟩⟩ := pass_inr pass
  all_goals simp [search, Storypath.search, busy]

theorem Ends.search_eq {result : Except ScriptFault (List Statement)}
    (ends : Ends source strict w es result) : w.search source strict es = result := by
  cases ends with
  | closed pass => exact search_closed pass
  | refused flaw es => rfl
  | finished =>
    by_cases collecting : w.collecting <;> cases strict <;> by_cases matched : w.matched <;>
      simp [search, Storypath.search, finish, collecting, matched]

end Walk

namespace Reading

/-- What resolving gives from here on, if the limit on tokens is out of reach. -/
theorem run_eq_search {options : ScriptOptions} {r : Reading} (source : String)
    (sound : r.Sound options) (room : r.feed.Room options.maxTokens) :
    r.run source options = r.walk.search source options.strict (r.entries options) := by
  rw [(passes_last source r sound).1.search_eq, (ends_last source r sound room).search_eq]

theorem resolveTarget_eq {options : ScriptOptions} (source : String) (target : Target)
    (room : (TokenStream.tokens source).length + 1 ≤ options.maxTokens) :
    resolveTarget source target options =
      (Walk.start target).search source options.strict (Outline.ofSource options source) := by
  rw [resolveTarget, run_eq_search source (sound_start options source target)
    (room_start source target room), entries_start]
  rfl

end Reading

/-- One pass gives what two passes give, the first of which does not know the target. -/
theorem resolveTarget_eq_search (source : String) (target : Target) (options : ScriptOptions)
    (room : (TokenStream.tokens source).length + 1 ≤ options.maxTokens) :
    resolveTarget source target options =
      search source options.strict [] [] false false target (Outline.ofSource options source) :=
  Reading.resolveTarget_eq source target room

def brokenBlock : String := "*a\n@buttons\nGo?\n- *b\nx\n"

theorem resolveTarget_brokenBlock :
    resolveTarget brokenBlock (.ofLabel "*b") ⟨4, 100, false⟩ =
      search brokenBlock false [] [] false false (.ofLabel "*b")
        (Outline.ofSource ⟨4, 100, false⟩ brokenBlock) :=
  resolveTarget_eq_search brokenBlock (.ofLabel "*b") ⟨4, 100, false⟩ (by cbv)

end Storypath
