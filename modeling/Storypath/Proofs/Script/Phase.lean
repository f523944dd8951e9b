import Storypath.Proofs.Script.Outline

/-! Phases against the outline: what has been read of a construct and the tokens ahead make
the same entries before and after a token is read. -/
namespace Storypath

namespace Outline

inductive Next : List Token → Token → List Token → Prop
  | token {t : Token} {ts : List Token} (h : t.kind ≠ .endOfInput) : Next (t :: ts) t ts
  | atEnd {t : Token} (h : t.kind = .endOfInput) (blank : t.literal = "") : Next [] t []

theorem Next.eq_cons {t : Token} {ts rest : List Token} (next : Next ts t rest)
    (notEnd : t.kind ≠ .endOfInput) : ts = t :: rest := by
  cases next with
  | token h => rfl
  | atEnd h blank => exact absurd h notEnd

end Outline

namespace Block

def finished (options : ScriptOptions) (b : Block) (r : Outline.Row) :
    Option Entry × List Token :=
  Outline.choiceEntry options b.start (Outline.close b.prompt (r.after b.branches.toList))

end Block

namespace Phase

def Fits (options : ScriptOptions) : Phase → Prop
  | .marker b | .bracket b | .branchName b | .button b _ | .closing b =>
    b.branches.size ≤ options.maxBranches
  | _ => True

/-- How the tokens ahead complete what has been read so far. -/
def completed (options : ScriptOptions) : Phase → List Token → Option Entry × List Token
  | .between, ts => (none, ts)
  | .jumpName, ts => (some (.item (.jump (Outline.name ts).1)), (Outline.name ts).2)
  | .duration start, ts => Outline.waitEntry options start ts
  | .prompt start, ts => Outline.choiceEntry options start (Outline.block ts)
  | .marker b, ts => b.finished options (Outline.row ts)
  | .bracket b, ts => b.finished options (Outline.markedRow ts)
  | .branchName b, ts =>
    let text := Outline.button (Outline.name ts).2
    b.finished options ((Outline.row text.2).after [⟨(Outline.name ts).1, text.1⟩])
  | .button b target, ts =>
    let text := Outline.button ts
    b.finished options ((Outline.row text.2).after [⟨target, text.1⟩])
  | .closing b, ts => b.finished options ⟨[], true, ts⟩

def entries (options : ScriptOptions) (phase : Phase) (ts : List Token) : List Entry :=
  (phase.completed options ts).1.toList ++ Outline.entries options (phase.completed options ts).2

end Phase

def Reply.Fits (options : ScriptOptions) : Reply → Prop
  | .take _ phase | .putBack _ phase => phase.Fits options
  | .refuse _ => False
  | .flaw _ | .finish => True

def Reply.entries (options : ScriptOptions) (ahead rest : List Token) : Reply → List Entry
  | .take item? phase => (item?.map Entry.item).toList ++ phase.entries options rest
  | .putBack item? phase => (item?.map Entry.item).toList ++ phase.entries options ahead
  | .flaw f => [.flaw f]
  | .refuse _ | .finish => []

namespace Phase
open Outline

variable {options : ScriptOptions} {ahead rest : List Token} {t : Token}

theorem entries_between (ts : List Token) :
    entries options .between ts = Outline.entries options ts := rfl

/-- A broken block is an entry of its own, and what broke it is read again. -/
theorem entries_brokenChoice (start : Nat) (flaw : ChoiceFlaw) :
    (brokenChoice options.strict start flaw).entries options ahead rest =
      (choiceEntry options start (.error flaw, ahead)).1.toList ++
        Outline.entries options (choiceEntry options start (.error flaw, ahead)).2 := by
  unfold brokenChoice choiceEntry
  by_cases strict : options.strict <;> simp [strict, Reply.entries, entries_between]

theorem entries_read_between (next : Next ahead t rest) :
    entries options .between ahead =
      (read options .between t).entries options ahead rest := by
  cases next with
  | token h =>
    rw [entries_between, entries_cons]
    cases hk : t.kind with
    | jumpBracket =>
      by_cases hn : t.targetName = "" <;>
        simp [read, hk, hn, construct, target, Reply.entries, entries, completed]
    | endOfInput => exact absurd hk h
    | _ => simp [read, hk, construct, Reply.entries, entries, completed]
  | atEnd h blank => simp [read, h, Reply.entries, entries_between]

theorem entries_read_jumpName (next : Next ahead t rest) :
    entries options .jumpName ahead =
      (read options .jumpName t).entries options ahead rest := by
  cases next with
  | token h => simp [read, h, Reply.entries, entries, completed, name]
  | atEnd h blank => simp [read, h, Reply.entries, entries, completed, name]

theorem entries_read_duration (start : Nat) (next : Next ahead t rest) :
    entries options (.duration start) ahead =
      (read options (.duration start) t).entries options ahead rest := by
  cases next with
  | token h =>
    by_cases ht : t.kind = .text <;> by_cases strict : options.strict <;>
      simp [read, h, ht, strict, Reply.entries, entries, completed, waitEntry]
  | atEnd h blank =>
    by_cases strict : options.strict <;>
      simp [read, h, strict, blank, Reply.entries, entries, completed, waitEntry]

theorem entries_read_prompt (start : Nat) (next : Next ahead t rest) :
    entries options (.prompt start) ahead =
      (read options (.prompt start) t).entries options ahead rest := by
  cases next with
  | token h => simp [read, h, Reply.entries, entries, completed, block, Block.finished, Row.after]
  | atEnd h blank => simp only [read, h, if_true, entries_brokenChoice]; rfl

theorem entries_read_marker (b : Block) (next : Next ahead t rest) :
    entries options (.marker b) ahead =
      (read options (.marker b) t).entries options ahead rest := by
  cases next with
  | token h =>
    by_cases hm : t.kind = .branchMarker <;>
      simp [read, hm, Reply.entries, entries, completed, row_cons]
  | atEnd h blank => simp [read, h, Reply.entries, entries, completed]

theorem entries_read_bracket (b : Block) (next : Next ahead t rest) :
    entries options (.bracket b) ahead =
      (read options (.bracket b) t).entries options ahead rest := by
  cases next with
  | token h =>
    by_cases hb : t.kind = .jumpBracket
    · by_cases hn : t.targetName = "" <;>
        simp [read, hb, hn, Reply.entries, entries, completed, markedRow, branch, target]
    · simp only [read, hb, if_false, entries_brokenChoice]
      simp [entries, completed, markedRow, branch, hb, Block.finished, close, Row.after]
  | atEnd h blank =>
    simp only [read, h, reduceCtorEq, if_false, entries_brokenChoice]
    simp [entries, completed, markedRow, branch, Block.finished, close, Row.after]

theorem entries_read_branchName (b : Block) (next : Next ahead t rest) :
    entries options (.branchName b) ahead =
      (read options (.branchName b) t).entries options ahead rest := by
  cases next with
  | token h => simp [read, h, Reply.entries, entries, completed, name]
  | atEnd h blank => simp [read, h, Reply.entries, entries, completed, name]

theorem choiceEntry_close_take (start : Nat) (prompt : String) (r : Row) (before : List Branch) :
    choiceEntry options start (close prompt (r.after (before.take options.maxBranches))) =
      choiceEntry options start (close prompt (r.after before)) := by
  have cut : (before.take options.maxBranches ++ r.branches).take options.maxBranches =
      (before ++ r.branches).take options.maxBranches := by
    rw [List.take_append, List.take_append, List.take_take, List.length_take, Nat.min_self]
    congr 2
    omega
  unfold close Row.after
  by_cases whole : r.whole
  · cases hr : r.rest with
    | nil => simp [whole, choiceEntry]
    | cons t ts => by_cases ht : t.kind = .blockEnd <;> simp [whole, ht, choiceEntry, cut]
  · simp [whole, choiceEntry]

theorem toList_branches_add (b : Block) (limit : Nat) (branch : Branch)
    (fits : b.branches.size ≤ limit) :
    (b.add limit branch).branches.toList = (b.branches.toList ++ [branch]).take limit := by
  by_cases room : b.branches.size < limit
  · rw [List.take_of_length_le (by simp; omega)]
    simp [Block.add, room]
  · have full : b.branches.toList.length = limit := by simp; omega
    simp [Block.add, ← full]

theorem finished_add (b : Block) (branch : Branch) (r : Row)
    (fits : b.branches.size ≤ options.maxBranches) :
    (b.add options.maxBranches branch).finished options r =
      b.finished options (r.after [branch]) := by
  have same : (b.add options.maxBranches branch).start = b.start ∧
      (b.add options.maxBranches branch).prompt = b.prompt := by
    unfold Block.add
    split <;> simp
  unfold Block.finished
  rw [same.1, same.2, toList_branches_add b _ branch fits, choiceEntry_close_take]
  simp [Row.after]

theorem entries_read_button {b : Block} (target : String)
    (fits : b.branches.size ≤ options.maxBranches) (next : Next ahead t rest) :
    entries options (.button b target) ahead =
      (read options (.button b target) t).entries options ahead rest := by
  cases next with
  | token h =>
    by_cases ht : t.kind = .text <;>
      simp [read, ht, Reply.entries, entries, completed, Outline.button, finished_add, fits]
  | atEnd h blank =>
    simp [read, h, Reply.entries, entries, completed, Outline.button, finished_add, fits]

theorem entries_read_closing {b : Block} (fits : b.branches.size ≤ options.maxBranches)
    (next : Next ahead t rest) :
    entries options (.closing b) ahead =
      (read options (.closing b) t).entries options ahead rest := by
  cases next with
  | token h =>
    by_cases he : t.kind = .blockEnd
    · have kept : b.branches.toList.take options.maxBranches = b.branches.toList :=
        List.take_of_length_le (by simpa using fits)
      simp [read, he, Statement.choice?, fits, Reply.entries, entries, completed,
        Block.finished, close, Row.after, choiceEntry, kept]
    · simp only [read, he, if_false, entries_brokenChoice]
      simp [entries, completed, Block.finished, close, Row.after, he]
  | atEnd h blank =>
    simp only [read, h, reduceCtorEq, if_false, entries_brokenChoice]
    simp [entries, completed, Block.finished, close, Row.after]

/-- A token read completes what it completes in the outline, and leaves the rest to come. -/
theorem entries_read {phase : Phase} (fits : phase.Fits options) (next : Next ahead t rest) :
    phase.entries options ahead = (phase.read options t).entries options ahead rest := by
  cases phase with
  | between => exact entries_read_between next
  | jumpName => exact entries_read_jumpName next
  | duration start => exact entries_read_duration start next
  | prompt start => exact entries_read_prompt start next
  | marker b => exact entries_read_marker b next
  | bracket b => exact entries_read_bracket b next
  | branchName b => exact entries_read_branchName b next
  | button b target => exact entries_read_button target fits next
  | closing b => exact entries_read_closing fits next

theorem size_branches_add {b : Block} {limit : Nat} (branch : Branch)
    (fits : b.branches.size ≤ limit) : (b.add limit branch).branches.size ≤ limit := by
  by_cases room : b.branches.size < limit
  · simp only [Block.add, room, if_true, Array.size_push]
    omega
  · simpa [Block.add, room] using fits

/-- No reply leads to a block with more branches than are kept, so no choice is refused. -/
theorem fits_read {phase : Phase} (fits : phase.Fits options) (t : Token) :
    (phase.read options t).Fits options := by
  cases phase <;> simp only [read, brokenChoice] <;> (repeat' split) <;>
    simp_all [Reply.Fits, Fits, size_branches_add, Statement.choice?]

end Phase
end Storypath
