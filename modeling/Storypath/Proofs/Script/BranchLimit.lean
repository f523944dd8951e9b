import Storypath.Proofs.Script.Reading

/-! The limit on branches. Two readings of a script that keep more or fewer branches of a choice go
the same steps, token for token, and what the second gathers is what the first does with its choices
cut short. Main statement: a run with a lower limit is a run with a higher one that has been cut. -/
namespace Storypath

def Statement.cut (m : Nat) : Statement → Statement
  | .text t => .text t
  | .choice prompt branches => .choice prompt (branches.take m)
  | .pause d => .pause d

def Item.cut (m : Nat) : Item → Item
  | .choice prompt branches => .choice prompt (branches.take m)
  | .text t => .text t
  | .pause d => .pause d
  | .brokenChoice => .brokenChoice
  | .label l => .label l
  | .jump reference => .jump reference
  | .blockEnd => .blockEnd

def Block.cut (m : Nat) (b : Block) : Block :=
  { b with branches := (b.branches.toList.take m).toArray }

def Phase.cut (m : Nat) : Phase → Phase
  | .between => .between
  | .jumpName => .jumpName
  | .duration start => .duration start
  | .prompt start => .prompt start
  | .marker b => .marker (b.cut m)
  | .bracket b => .bracket (b.cut m)
  | .branchName b => .branchName (b.cut m)
  | .button b target => .button (b.cut m) target
  | .closing b => .closing (b.cut m)

def Reply.cut (m : Nat) : Reply → Reply
  | .take item? phase => .take (item?.map (Item.cut m)) (phase.cut m)
  | .putBack item? phase => .putBack (item?.map (Item.cut m)) (phase.cut m)
  | .flaw f => .flaw f
  | .refuse f => .refuse f
  | .finish => .finish

def Walk.cut (m : Nat) (w : Walk) : Walk :=
  { w with gathered := w.gathered.map (Statement.cut m), kept := w.kept.map (Statement.cut m) }

def Reading.cut (m : Nat) (r : Reading) : Reading := ⟨r.feed, r.phase.cut m, r.walk.cut m⟩

def cutResult (m : Nat) (result : Except ScriptFault (List Statement)) :
    Except ScriptFault (List Statement) :=
  result.map (List.map (Statement.cut m))

variable {m n maxTokens : Nat} {strict : Bool}

theorem take_append_take (branches : List Branch) (branch : Branch) :
    (branches.take m ++ [branch]).take m = (branches ++ [branch]).take m := by
  rw [List.take_append, List.take_append, List.take_take, Nat.min_self, List.length_take]
  congr 2
  omega

theorem Block.size_cut_le (b : Block) : (b.cut m).branches.size ≤ m := by
  rw [cut, List.size_toArray, List.length_take]
  exact Nat.min_le_left _ _

theorem Block.add_eq (b : Block) (limit : Nat) (branch : Branch) :
    b.add limit branch = ⟨b.start, b.prompt, (b.add limit branch).branches⟩ := by
  unfold add
  split <;> rfl

/-- A branch that only the higher limit leaves room for is cut off again. -/
theorem Block.cut_add (lower : m ≤ n) {b : Block} (fits : b.branches.size ≤ n)
    (branch : Branch) : (b.cut m).add m branch = (b.add n branch).cut m := by
  have same : ((b.cut m).add m branch).branches.toList =
      (b.add n branch).branches.toList.take m := by
    rw [Phase.toList_branches_add _ _ _ b.size_cut_le, Phase.toList_branches_add _ _ _ fits,
      List.take_take, Nat.min_eq_left lower, cut, List.toList_toArray, take_append_take]
  rw [add_eq, ← @Array.toArray_toList _ ((b.cut m).add m branch).branches, same, add_eq b]
  rfl

theorem Phase.read_cut (lower : m ≤ n) {phase : Phase} (fits : phase.Fits ⟨n, maxTokens, strict⟩)
    (t : Token) :
    (phase.cut m).read ⟨m, maxTokens, strict⟩ t =
      (phase.read ⟨n, maxTokens, strict⟩ t).cut m := by
  cases phase with
  | closing b =>
    have fits' : (b.cut m).branches.toList.length ≤ m := b.size_cut_le
    have fits : b.branches.toList.length ≤ n := fits
    simp only [cut, read, brokenChoice, Statement.choice?, if_pos fits, if_pos fits']
    split
    · simp [Reply.cut, Item.cut, cut, Block.cut]
    · split <;> rfl
  | button b target =>
    simp only [cut, read, Block.cut_add lower fits]
    split <;> rfl
  | prompt start =>
    simp only [cut, read, brokenChoice]
    repeat' split
    · rfl
    · rfl
    · simp [Reply.cut, cut, Block.cut]
  | _ =>
    simp only [cut, read, brokenChoice]
    repeat' split
    all_goals rfl

theorem Walk.pass_cut (w : Walk) (item : Item) :
    (w.cut m).pass (item.cut m) =
      (w.pass item).map (Walk.cut m) (List.map (Statement.cut m)) := by
  cases item with
  | text t | pause d => rfl
  | choice prompt branches | brokenChoice | blockEnd =>
    by_cases busy : w.collecting <;>
      simp [pass, close, cut, gather, statements, busy, Item.cut, Statement.cut]
  | label l =>
    by_cases met : w.target.isMetBy l <;> simp [pass, cut, met, Item.cut]
  | jump reference =>
    by_cases busy : w.collecting <;> simp [pass, cut, busy, Item.cut]

theorem Walk.finish_cut (w : Walk) : (w.cut m).finish strict = cutResult m (w.finish strict) := by
  by_cases busy : w.collecting <;> cases strict <;> by_cases matched : w.matched <;>
    simp [finish, cut, statements, cutResult, Except.map, busy, matched]

namespace Reading

theorem after_cut (feed : Feed) (phase : Phase) (walk : Walk) (item? : Option Item) :
    after feed (phase.cut m) (walk.cut m) (item?.map (Item.cut m)) =
      (after feed phase walk item?).map (cut m) (cutResult m) := by
  cases item? with
  | none => rfl
  | some item =>
    simp only [after, Option.map_some, Walk.pass_cut]
    cases walk.pass item <;> rfl

theorem step_cut (lower : m ≤ n) (source : String) {r : Reading}
    (fits : r.phase.Fits ⟨n, maxTokens, strict⟩) :
    (r.cut m).step source ⟨m, maxTokens, strict⟩ =
      (r.step source ⟨n, maxTokens, strict⟩).map (cut m) (cutResult m) := by
  simp only [step, cut]
  cases r.feed.take maxTokens with
  | none => rfl
  | some taken =>
    obtain ⟨t, feed⟩ := taken
    by_cases blank : t.isWhitespace
    · simp [blank, cut]
    simp only [blank, Phase.read_cut lower fits t]
    cases r.phase.read ⟨n, maxTokens, strict⟩ t with
    | take item? phase | putBack item? phase => exact after_cut ..
    | flaw f | refuse f => rfl
    | finish => exact congrArg Sum.inr (Walk.finish_cut _)

/-- The run with the lower limit ends where the run with the higher one does, and gives what that
run gives, cut short. -/
theorem run_cut (lower : m ≤ n) (source : String) {r : Reading}
    (sound : r.Sound ⟨n, maxTokens, strict⟩) :
    (r.cut m).last source ⟨m, maxTokens, strict⟩ =
        (r.last source ⟨n, maxTokens, strict⟩).cut m ∧
      (r.cut m).run source ⟨m, maxTokens, strict⟩ =
        cutResult m (r.run source ⟨n, maxTokens, strict⟩) :=
  run_map (cut m) (cutResult m) (Sound ⟨n, maxTokens, strict⟩)
    (fun _ _ sound step => (passes_step sound (stepsTo_of_step step)).2)
    (fun _ sound => step_cut lower source sound.fits) sound

end Reading

end Storypath
