import Storypath.Script.Statement
import Storypath.Script.TokenStream

/-! Constructs of a script and how tokens add up to them. Reading looks at one token at a
time: the phase says which token may come next, and a token that does not fit is put back and
read again in the phase that follows. -/
namespace Storypath

structure ScriptOptions where
  maxBranches : Nat := 4
  maxTokens : Nat := 1000000
  strict : Bool := false
  deriving DecidableEq

inductive Item where
  | text (text : String)
  | pause (duration : String)
  | choice (prompt : String) (branches : List Branch)
  | brokenChoice
  | label (literal : String)
  | jump (reference : String)
  | blockEnd
  deriving DecidableEq

structure Block where
  start : Nat
  prompt : String
  branches : Array Branch

/-- A branch beyond the limit is read and dropped. -/
def Block.add (b : Block) (limit : Nat) (branch : Branch) : Block :=
  if b.branches.size < limit then { b with branches := b.branches.push branch } else b

inductive Phase where
  | between
  | jumpName
  | duration (start : Nat)
  | prompt (start : Nat)
  | marker (block : Block)
  | bracket (block : Block)
  | branchName (block : Block)
  | button (block : Block) (target : String)
  | closing (block : Block)

inductive Flaw where
  | wait (start : Nat) (found : String)
  | choice (start : Nat) (flaw : ChoiceFlaw)
  deriving DecidableEq

def Flaw.fault (source : String) : Flaw → ScriptFault
  | .wait start found => .malformedWait found (.ofOffset source start)
  | .choice start flaw => .malformedChoice flaw (.ofOffset source start)

/-- What a phase does with a token: it takes it or puts it back, going on to a phase and
perhaps completing a construct, or it ends the reading, also because a statement cannot be
made. -/
inductive Reply where
  | take (item? : Option Item) (phase : Phase)
  | putBack (item? : Option Item) (phase : Phase)
  | flaw (flaw : Flaw)
  | refuse (fault : ScriptFault)
  | finish

namespace Phase

/-- How many phases a token that is put back can still pass through. -/
def rank : Phase → Nat
  | .between => 0
  | .jumpName | .duration _ | .prompt _ | .bracket _ | .closing _ => 1
  | .marker _ => 2
  | .button .. => 3
  | .branchName _ => 4

theorem rank_le (phase : Phase) : phase.rank ≤ 4 := by
  cases phase <;> simp [rank]

def brokenChoice (strict : Bool) (start : Nat) (flaw : ChoiceFlaw) : Reply :=
  if strict then .flaw (.choice start flaw) else .putBack (some .brokenChoice) .between

/-- What each phase does with a token that is not white space. -/
def read (options : ScriptOptions) (phase : Phase) (t : Token) : Reply :=
  match phase with
  | .between =>
    match t.kind with
    | .endOfInput => .finish
    | .text => .take (some (.text t.literal)) .between
    | .label => .take (some (.label t.literal)) .between
    | .jumpBracket =>
      if t.targetName = "" then .take none .jumpName
      else .take (some (.jump t.targetName)) .between
    | .choiceBlockStart => .take none (.prompt t.offset)
    | .wait => .take none (.duration t.offset)
    | .blockEnd => .take (some .blockEnd) .between
    | .whitespace | .branchMarker | .illegal => .take none .between
  | .jumpName =>
    if t.kind = .endOfInput then .putBack (some (.jump "")) .between
    else .take (some (.jump t.literal)) .between
  | .duration start =>
    if t.kind = .text then .take (some (.pause t.literal)) .between
    else if options.strict then .flaw (.wait start t.literal)
    else if t.kind = .endOfInput then .putBack none .between
    else .take (some (.pause t.literal)) .between
  | .prompt start =>
    if t.kind = .endOfInput then brokenChoice options.strict start .noPrompt
    else .take none (.marker ⟨start, t.literal, #[]⟩)
  | .marker block =>
    if t.kind = .branchMarker then .take none (.bracket block)
    else .putBack none (.closing block)
  | .bracket block =>
    if t.kind = .jumpBracket then
      if t.targetName = "" then .take none (.branchName block)
      else .take none (.button block t.targetName)
    else brokenChoice options.strict block.start .branchWithoutTarget
  | .branchName block =>
    if t.kind = .endOfInput then .putBack none (.button block "")
    else .take none (.button block t.literal)
  | .button block target =>
    if t.kind = .text then
      .take none (.marker (block.add options.maxBranches ⟨target, t.literal⟩))
    else .putBack none (.marker (block.add options.maxBranches ⟨target, ""⟩))
  | .closing block =>
    if t.kind = .blockEnd then
      match Statement.choice? block.prompt block.branches.toList options.maxBranches with
      | .ok _ => .take (some (.choice block.prompt block.branches.toList)) .between
      | .error fault => .refuse fault
    else brokenChoice options.strict block.start .notClosed

theorem rank_lt_of_putBack {options : ScriptOptions} {phase phase' : Phase} {t : Token}
    {item? : Option Item} (h : phase.read options t = .putBack item? phase') :
    phase'.rank < phase.rank := by
  cases phase <;> simp only [read, brokenChoice] at h <;> (repeat' split at h) <;>
    simp_all only [Reply.putBack.injEq, reduceCtorEq, rank] <;> simp [← h.2]

theorem kind_ne_of_take {options : ScriptOptions} {phase phase' : Phase} {t : Token}
    {item? : Option Item} (h : phase.read options t = .take item? phase') :
    t.kind ≠ .endOfInput := by
  intro ht
  cases phase <;> simp_all [read, brokenChoice] <;> split at h <;> simp_all

end Phase
end Storypath
