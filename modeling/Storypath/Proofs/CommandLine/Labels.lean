import Storypath.CommandLine.Run
import Storypath.Proofs.Script.LineEndings
import Storypath.Proofs.Script.Provenance
import Storypath.Proofs.Session.Offering

/-! Labels that may be tapped. The targets of a script are tokens of it, or parts of tokens, and no
token that counts holds a line feed; so none is in what is offered, nor in what is kept of it, nor
in what is kept by runs that find it. Main statement: whatever runs have written are states with
choices on one line each. -/
namespace Storypath

open HoldsDisk (disk faulty)

def OneLine (text : String) : Prop := '\n' ∉ text.toList

instance (text : String) : Decidable (OneLine text) :=
  inferInstanceAs (Decidable ('\n' ∉ text.toList))

namespace Token

theorem oneLine_targetName {t : Token} (line : OneLine t.literal) : OneLine t.targetName := by
  rcases t.literal_eq with same | bracket
  · rwa [← same]
  · rw [bracket, OneLine, String.toList_append] at line
    exact fun mem => line (List.mem_append_right _ mem)

end Token

theorem TokenStream.oneLine_of_mem_significant {cs : List Char} {offset : Nat} {t : Token}
    (mem : t ∈ significant cs offset) : OneLine t.literal := by
  fun_induction listFrom cs offset with
  | case1 offset => simp at mem
  | case2 offset c cs ih =>
    rw [significant_cons] at mem
    cases plain : Token.isBlank c || c == ']' with
    | true =>
      have blank : (Token.starting c cs offset).isWhitespace = true := by
        simp [Token.starting, Token.isWhitespace, Token.kindOf, plain]
      rw [if_pos blank] at mem
      exact ih mem
    | false =>
      split at mem
      · exact ih mem
      · rcases List.mem_cons.mp mem with rfl | mem
        · exact Token.lineFeed_notMem_extent plain cs
        · exact ih mem

theorem Outline.ReadOff.oneLine {ts rest : List Token} {literals : List String}
    (off : ReadOff ts literals rest) (lines : ∀ t ∈ ts, OneLine t.literal) :
    ∀ literal ∈ literals, OneLine literal := by
  induction off with
  | done => simp
  | skip _ ih => exact ih fun t mem => lines t (by simp [mem])
  | @whole t _ _ _ _ ih =>
    exact List.forall_mem_cons.mpr ⟨lines t (by simp), ih fun t mem => lines t (by simp [mem])⟩
  | @named t _ _ _ _ _ ih =>
    exact List.forall_mem_cons.mpr
      ⟨Token.oneLine_targetName (lines t (by simp)), ih fun t mem => lines t (by simp [mem])⟩
  | missing _ ih => exact List.forall_mem_cons.mpr ⟨by simp [OneLine], ih lines⟩

theorem oneLine_of_resolved {source : String} {target : Target} {options : ScriptOptions}
    {statements : List Statement} (given : resolveTarget source target options = .ok statements) :
    ∀ literal ∈ statements.flatMap Statement.literals, OneLine literal := by
  have part := sublist_of_resolved given
  obtain ⟨items, outline, off, -⟩ := Outline.readOff_ofSource
    (show { options with strict := false }.strict = false from rfl) source
  rw [outline] at part
  have lines := off.oneLine fun t => TokenStream.oneLine_of_mem_significant
  rw [← Outline.literals_statements] at lines
  exact fun literal mem => lines literal ((part.flatMap _).subset mem)

theorem mem_literals_of_offers {statement : Statement} {message : Message} {offers : List String}
    (shown : statement.message? = some message) (offering : message.offers? = some offers) :
    ∀ label ∈ offers, label ∈ statement.literals := by
  intro label mem
  cases statement with
  | text t =>
    obtain rfl := Option.some.inj shown
    simp [Message.offers?] at offering
  | pause duration => simp [Statement.message?, Statement.effect] at shown
  | choice prompt branches =>
    obtain rfl := Option.some.inj shown
    obtain rfl := Option.some.inj offering
    simp only [Button.ofBranches, List.map_map, List.mem_map, Function.comp_apply] at mem
    obtain ⟨b, within, rfl⟩ := mem
    have whole : b ∈ branches := (List.takeWhile_sublist _).subset within
    simp only [Statement.literals, List.mem_cons, List.mem_flatMap]
    exact .inr ⟨b, whole, by simp [Branch.literals]⟩

theorem offers_of_lastOffers? {plan : List Scheduled} {offers : List String}
    (last : lastOffers? plan = some offers) : ∃ t ∈ plan, t.message.offers? = some offers :=
  List.mem_filterMap.mp (List.mem_of_getLast? last)

theorem oneLine_of_lastOffers? {source : String} {target : Target} {options : ScriptOptions}
    {statements : List Statement} {plan : List Scheduled} {offers : List String}
    (given : resolveTarget source target options = .ok statements)
    (planned : Delivery.plan statements = .ok plan) (last : lastOffers? plan = some offers) :
    ∀ label ∈ offers, OneLine label := by
  intro label mem
  obtain ⟨t, sent, offering⟩ := offers_of_lastOffers? last
  have shown : t.message ∈ statements.filterMap Statement.message? := by
    rw [← Delivery.map_message_plan planned]
    exact List.mem_map_of_mem sent
  obtain ⟨statement, within, shown⟩ := List.mem_filterMap.mp shown
  exact oneLine_of_resolved given label
    (List.mem_flatMap.mpr ⟨statement, within, mem_literals_of_offers shown offering label mem⟩)

def ReaderState.Plain (state : ReaderState) : Prop := ∀ label ∈ state.tappable, OneLine label

section

variable {faults : Prop} {player : Player} {client : Client} {user : String}
  {event : ReaderEvent} {state : ReaderState} {statements : List Statement} {d d' : Disk}
  {attempt : Attempt}

theorem Delivering.kept (delivering : Delivering player client state statements d attempt d')
    {place : Place} {content : ByteArray} (new : d.file? place ≠ some content)
    (kept : d'.file? place = some content) :
    ∃ n tappable, attempt.result = .ok (.delivered n tappable) ∧
      content = ({ state with tappable := tappable } : ReaderState).toJson.render.toUTF8 := by
  cases delivering with
  | unplanned | refused => exact absurd kept new
  | @sent plan answer _ planned takes keeping =>
    by_cases here : place = d.placeOf (player.statePath state.userId)
    · subst here
      obtain ⟨keeps, ⟨fault, rfl, spares⟩ | ⟨rfl, -, read, -⟩⟩ := Player.spares_of_keeping keeping
      · exact absurd ((spares _).file?_eq.symm.trans kept) new
      · have file := Disk.file?_eq_some_iff.mpr (Disk.read_eq_ok_iff.mp read).2
        rw [keeps.placeOf_eq, kept, Option.some.injEq] at file
        exact ⟨plan.length, _, rfl, file⟩
    · exact absurd ((Player.file?_of_keeping keeping here).symm.trans kept) new

/-- What is reported as tappable is what the last buttons offer, or what was offered before. -/
theorem Delivering.plain (delivering : Delivering player client state statements d attempt d')
    (plain : state.Plain) {source : String} {target : Target} {options : ScriptOptions}
    (given : resolveTarget source target options = .ok statements) {n : Nat}
    {tappable : List String} (result : attempt.result = .ok (.delivered n tappable)) :
    ∀ label ∈ tappable, OneLine label := by
  cases delivering with
  | unplanned | refused => simp at result
  | @sent plan answer _ planned takes keeping =>
    cases answer with
    | error fault => simp [Except.map] at result
    | ok _ =>
      obtain ⟨-, rfl⟩ := Outcome.delivered.inj (Except.ok.inj result)
      cases last : lastOffers? plan with
      | none => exact plain
      | some offers => exact oneLine_of_lastOffers? given planned last

theorem Happened.plain (happened : Happened faults player client user event d attempt d')
    (plain : ∀ state, player.stateOf d user = .ok state → state.Plain) :
    (∀ n tappable, attempt.result = .ok (.delivered n tappable) →
      ∀ label ∈ tappable, OneLine label) ∧
    ∀ place content, d.file? place ≠ some content → d'.file? place = some content →
      ∃ state : ReaderState, state.Plain ∧ content = state.toJson.render.toUTF8 := by
  cases happened with
  | ignored reason => exact ⟨by simp, fun place content new kept => absurd kept new⟩
  | unread unread => exact ⟨by simp, fun place content new kept => absurd kept new⟩
  | @answered target statements state _ _ asked segment found tapped delivering =>
    obtain ⟨source, given⟩ := Player.resolved_of_segment segment
    have before : state.Plain := by
      rcases found with found | ⟨-, rfl⟩
      · exact plain state found
      · simp [ReaderState.Plain, ReaderState.empty]
    have left : ReaderState.Plain { state with tappable := event.leaves state.tappable } := by
      cases event with
      | postback data => simp [ReaderState.Plain, ReaderEvent.leaves]
      | _ => exact before
    have reported : ∀ n tappable, attempt.result = .ok (.delivered n tappable) →
        ∀ label ∈ tappable, OneLine label := fun n tappable => delivering.plain left given
    refine ⟨reported, fun place content new kept => ?_⟩
    obtain ⟨n, tappable, result, rfl⟩ := delivering.kept new kept
    refine ⟨_, ?_, rfl⟩
    exact reported n tappable result

end

def Command.statePath? : Command → Option String
  | .resolve .. => none
  | .agent player user _ => some (player.statePath user)

/-- The content of a file that a run of the program made or changed, with any arguments and an
output of any size. What that run found as the state of its reader had come of a run before it. -/
inductive Written : ByteArray → Prop
  | run {σ : Type} [Files (StateM σ)] [HoldsDisk σ] {s s' : σ} {env : Environment}
    {args : List String} {command : Command} {o : Outlet} {answer : Outlet × Nat} {place : Place}
    {content : ByteArray} (given : CommandLine.read env args = .ok command)
    (found : ∀ path ∈ command.statePath?, ∀ before, (disk s).read path = .ok before →
      Written before)
    (ran : (CommandLine.run env args o : StateM σ (Outlet × Nat)).run s = (answer, s'))
    (new : (disk s).file? place ≠ some content) (kept : (disk s').file? place = some content) :
    Written content

theorem ReaderState.eq_of_ofText_render {state found : ReaderState}
    (read : ofText state.toJson.render = .ok found) : found = state := by
  rw [ofText, Json.parse?_render (closed_toJson state), Option.bind_some, ofJson?_toJson] at read
  split at read
  · simp at read
  · next same =>
    obtain rfl := Option.some.inj same
    split at read
    · exact (Except.ok.inj read).symm
    · simp at read

theorem Player.plain_of_stateOf {player : Player} {d : Disk} {user : String} {found : ReaderState}
    (kept : ∀ content, d.read (player.statePath user) = .ok content →
      ∃ state : ReaderState, state.Plain ∧ content = state.toJson.render.toUTF8)
    (read : player.stateOf d user = .ok found) : found.Plain := by
  rw [stateOf_eq (isUserId_of_stateOf read), text_eq] at read
  split at read
  · cases content : d.read (player.statePath user) with
    | error failure => simp [content, Except.bind] at read
    | ok content' =>
      obtain ⟨state, plain, rfl⟩ := kept content' content
      simp only [content, Except.bind, fromUTF8?_toUTF8] at read
      exact ReaderState.eq_of_ofText_render read ▸ plain
  · obtain rfl := Except.ok.inj read
    simp [ReaderState.Plain, ReaderState.empty]

namespace CommandLine

theorem run_eq {σ : Type} [Files (StateM σ)] {env : Environment} {args : List String}
    {command : Command} (given : read env args = .ok command) (o : Outlet) (s : σ) :
    (run env args o : StateM σ (Outlet × Nat)).run s =
      (((command.run : StateM σ Answer).run s).1.emit o,
        ((command.run : StateM σ Answer).run s).2) := by
  unfold run
  rw [given]
  rfl

end CommandLine

/-- Whatever runs have written are states with choices on one line each. -/
theorem Written.plain {content : ByteArray} (written : Written content) :
    ∃ state : ReaderState, state.Plain ∧ content = state.toJson.render.toUTF8 := by
  induction written with
  | @run σ _ _ s s' env args command o answer place content given found ran new kept ih =>
    rw [CommandLine.run_eq given] at ran
    obtain ⟨-, rfl⟩ := Prod.mk.inj ran
    cases command with
    | resolve path target options =>
      -- To resolve a script changes no file.
      have same : Ends (Command.run (.resolve path target options) : StateM σ Answer) s
          fun _ s' => disk s' = disk s := by
        refine .bind (reads_script path target options s) fun answer s₁ ⟨kept, _⟩ => ?_
        cases answer <;> exact .pure kept
      exact absurd (same ▸ kept) new
    | agent player user event =>
      have happened := dispatch_ends player .accepting user event s
      refine (happened.plain fun state read => ?_).2 place content new kept
      exact Player.plain_of_stateOf (ih _ rfl) read

def askingArguments : List String :=
  ["agent", "follow", "--user", "u", "--script", "a", "--state-dir", "s", "--start-label", "*a",
    "--start-keyword", "go"]

theorem read_askingArguments :
    CommandLine.read [] askingArguments = .ok (.agent askingPlayer "u" .follow) := by
  cbv

theorem run_askingArguments :
    (CommandLine.run [] askingArguments .unlimited : StateM Disk (Outlet × Nat)).run askingDisk =
      ((Attempt.answer ⟨[question], .ok (.delivered 1 ["b"])⟩).emit .unlimited, askedDisk) := by
  have dispatched := run_askingDisk
  rw [Disk.run] at dispatched
  rw [CommandLine.run_eq read_askingArguments, Command.run, StateT.run_bind, dispatched]
  rfl

theorem written_askedDisk {content : ByteArray}
    (kept : askedDisk.read (askingPlayer.statePath "u") = .ok content) : Written content := by
  have none := fresh_askingDisk.no_file "u" rfl
  have found : ∀ path ∈ (Command.agent askingPlayer "u" .follow).statePath?,
      ∀ before, askingDisk.read path = .ok before → Written before := by
    intro path named before there
    obtain rfl := Option.some.inj named
    exact absurd (Disk.read_eq_ok_iff.mp there).2 (none before)
  have new : askingDisk.file? (askingDisk.placeOf (askingPlayer.statePath "u")) ≠ some content :=
    fun there => none content (Disk.file?_eq_some_iff.mp there)
  have left : askedDisk.file? (askedDisk.placeOf (askingPlayer.statePath "u")) = some content :=
    Disk.file?_eq_some_iff.mpr (Disk.read_eq_ok_iff.mp kept).2
  exact .run read_askingArguments found run_askingArguments new left

end Storypath
