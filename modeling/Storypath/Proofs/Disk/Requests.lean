import Storypath.Disk.Files
import Storypath.Proofs.Disk.Folders

/-! Programs that use files. A request for a file is answered as the disk answers it, or it is
refused and the disk stays as it was; what a program ends in is put together from what its
requests end in. Main statement: what making a folder with those above it does to a disk. -/
namespace Storypath

/-- A program that is run from a state ends in a result and a state of which a statement holds. -/
def Ends {σ α : Type} (program : StateM σ α) (s : σ) (post : α → σ → Prop) : Prop :=
  post (program.run s).1 (program.run s).2

namespace Ends

variable {σ α β : Type} {program : StateM σ α} {next : α → StateM σ β} {s : σ}

theorem pure {a : α} {post : α → σ → Prop} (holds : post a s) : Ends (pure a) s post := holds

theorem bind {middle : α → σ → Prop} {post : β → σ → Prop} (first : Ends program s middle)
    (rest : ∀ a s', middle a s' → Ends (next a) s' post) : Ends (program >>= next) s post :=
  rest _ _ first

theorem mono {post post' : α → σ → Prop} (ends : Ends program s post)
    (weaker : ∀ a s', post a s' → post' a s') : Ends program s post' :=
  weaker _ _ ends

end Ends

/-- A state that holds a disk and answers requests for its files. Where it is `faulty`, a request
that the disk would grant may be refused for a reason of its own. -/
class HoldsDisk (σ : Type) [Files (StateM σ)] where
  disk : σ → Disk
  faulty : Prop
  read : ∀ (s : σ) (path : String), Ends (Files.read path) s fun answer s' =>
    disk s' = disk s ∧
      (answer = (disk s).read path ∨ faulty ∧ ∃ failure, answer = .error failure)
  isThere : ∀ (s : σ) (path : String), Ends (Files.isThere path) s fun answer s' =>
    disk s' = disk s ∧ (answer = (disk s).isThere path ∨ faulty ∧ answer = false)
  isFolder : ∀ (s : σ) (path : String), Ends (Files.isFolder path) s fun answer s' =>
    disk s' = disk s ∧ (answer = (disk s).isFolder path ∨ faulty ∧ answer = false)
  makeFolder : ∀ (s : σ) (path : String), Ends (Files.makeFolder path) s fun answer s' =>
    (answer, disk s') = (disk s).change ((disk s).makeFolder path) ∨
      faulty ∧ (∃ failure, answer = .error failure) ∧ disk s' = disk s
  write : ∀ (s : σ) (path : String) (content : ByteArray),
    Ends (Files.write path content) s fun answer s' =>
      (answer, disk s') = (disk s).change ((disk s).write path content) ∨
        faulty ∧ (∃ failure, answer = .error failure) ∧ disk s' = disk s

instance : HoldsDisk Disk where
  disk := id
  faulty := False
  read _ _ := ⟨rfl, .inl rfl⟩
  isThere _ _ := ⟨rfl, .inl rfl⟩
  isFolder _ _ := ⟨rfl, .inl rfl⟩
  makeFolder _ _ := .inl rfl
  write _ _ _ := .inl rfl

open HoldsDisk (disk faulty)

/-- What comes of making a folder, with those above it or without: nothing but new folders on its
way. The folder is there if that is the answer, and nothing is new if it was. -/
structure MakesFolder (d : Disk) (path : String) (answer : Except FileFailure Unit) (d' : Disk) :
    Prop where
  grows : d.Grows path d'
  isFolder : answer = .ok () → d'.isFolder path = true
  same : d.isFolder path = true → d' = d

namespace MakesFolder

variable {d d' d'' : Disk} {path outer : String} {answer answer' : Except FileFailure Unit}

theorem refused (d : Disk) (path : String) (failure : FileFailure) :
    MakesFolder d path (.error failure) d :=
  ⟨.refl d path, by simp, fun _ => rfl⟩

theorem trans (first : MakesFolder d path answer' d') (second : MakesFolder d' path answer d'') :
    MakesFolder d path answer d'' where
  grows := first.grows.trans second.grows
  isFolder := second.isFolder
  same folder := by
    obtain rfl := first.same folder
    exact second.same folder

theorem above (isAbove : Path.Above outer path) (made : MakesFolder d outer answer d')
    (failure : FileFailure) :
    MakesFolder d path (.error failure) d' where
  grows := made.grows.above isAbove
  isFolder := by simp
  same folder := made.same (Disk.isFolder_above_of_isFolder isAbove folder)

end MakesFolder

variable {σ : Type} [Files (StateM σ)] [HoldsDisk σ]

theorem makeFolderOnce_ends (path : String) (s : σ) :
    Ends (makeFolderOnce path) s fun answer s' => MakesFolder (disk s) path answer (disk s') := by
  refine .bind (HoldsDisk.makeFolder s path) fun answer s₁ asked => ?_
  have refused (failure : FileFailure) (kept : disk s₁ = disk s) :
      Ends (do if ← Files.isFolder path then return .ok () else return .error failure) s₁
        fun (answer : Except FileFailure Unit) s' =>
          MakesFolder (disk s) path answer (disk s') := by
    refine .bind (HoldsDisk.isFolder s₁ path) fun answer s₂ ⟨kept', folder⟩ => ?_
    rw [kept] at kept' folder
    cases answer with
    | false => exact .pure (kept' ▸ .refused _ path failure)
    | true =>
      have folder : (disk s).isFolder path = true :=
        folder.elim Eq.symm fun refused => absurd refused.2 (by decide)
      refine .pure ?_
      show MakesFolder (disk s) path (.ok ()) (disk s₂)
      rw [kept']
      exact ⟨.refl _ _, fun _ => folder, fun _ => rfl⟩
  rcases asked with granted | ⟨-, ⟨failure, rfl⟩, kept⟩
  · rcases Disk.makeFolder_eq (disk s) path with ⟨failure, made⟩ | ⟨d', made, makes⟩
    · rw [made] at granted
      obtain ⟨rfl, kept⟩ := Prod.mk.inj granted
      exact refused failure kept
    · rw [made] at granted
      obtain ⟨rfl, rfl⟩ := Prod.mk.inj granted
      refine .pure ⟨makes.grows, fun _ => makes.isFolder, fun folder => ?_⟩
      have := (Disk.isFolder_iff.mp folder).2
      simp [makes.nothing] at this
  · exact refused failure kept

theorem makeChain_ends {absolute : Bool} {path : String} {above : List (List String)}
    (ladder : Path.Ladder absolute path above) (s : σ) :
    Ends (makeChain absolute path above) s fun answer s' =>
      MakesFolder (disk s) path answer (disk s') := by
  induction ladder generalizing s with
  | bottom path =>
    refine .bind (makeFolderOnce_ends path s) fun answer s₁ made => ?_
    split
    · exact (makeFolderOnce_ends path s₁).mono fun _ _ again => made.trans again
    · exact .pure made
  | @rung path names above isAbove _ ih =>
    refine .bind (makeFolderOnce_ends path s) fun answer s₁ made => ?_
    split
    · refine .bind (ih s₁) fun answer s₂ outer => ?_
      split
      · refine (makeFolderOnce_ends path s₂).mono fun _ _ again => ?_
        exact made.trans ((outer.above isAbove .notFound).trans again)
      · exact .pure (made.trans (outer.above isAbove _))
    · exact .pure made

theorem makeFolders_ends (path : String) (s : σ) :
    Ends (makeFolders path) s fun answer s' =>
      path = "" ∧ answer = .ok () ∧ s' = s ∨
        path ≠ "" ∧ MakesFolder (disk s) path answer (disk s') := by
  unfold makeFolders
  split
  · next here => exact .pure (.inl ⟨here, rfl, rfl⟩)
  · next ne =>
    exact (makeChain_ends (Path.ladder_above path) s).mono fun _ _ made => .inr ⟨ne, made⟩

namespace Disk

def run {α : Type} (d : Disk) (program : StateM Disk α) : α × Disk := StateT.run program d

theorem run_pure {α : Type} (d : Disk) (a : α) : d.run (pure a) = (a, d) := rfl

theorem run_bind {α β : Type} (d : Disk) (program : StateM Disk α) (next : α → StateM Disk β) :
    d.run (program >>= next) = (d.run program).2.run (next (d.run program).1) := rfl

theorem run_read (d : Disk) (path : String) : d.run (Files.read path) = (d.read path, d) := rfl

theorem run_readText_snd (d : Disk) (path : String) : (d.run (readText path)).2 = d := by
  rw [readText, run_bind, run_read]
  cases d.read path with
  | error failure => rfl
  | ok content =>
    simp only
    cases String.fromUTF8? content <;> rfl

theorem run_isThere (d : Disk) (path : String) :
    d.run (Files.isThere path) = (d.isThere path, d) := rfl

theorem run_isFolder (d : Disk) (path : String) :
    d.run (Files.isFolder path) = (d.isFolder path, d) := rfl

theorem run_makeFolder (d : Disk) (path : String) :
    d.run (Files.makeFolder path) = d.change (d.makeFolder path) := rfl

theorem run_write (d : Disk) (path : String) (content : ByteArray) :
    d.run (Files.write path content) = d.change (d.write path content) := rfl

variable {d d' : Disk} {absolute : Bool} {path outer : String} {above : List (List String)}
  {failure : FileFailure}

theorem run_makeFolderOnce (d : Disk) (path : String) :
    d.run (makeFolderOnce path) =
      match d.makeFolder path with
      | .ok d' => (.ok (), d')
      | .error failure => (if d.isFolder path then .ok () else .error failure, d) := by
  rw [makeFolderOnce, run_bind, run_makeFolder]
  cases d.makeFolder path with
  | ok d' => rfl
  | error failure =>
    simp only [change, run_bind, run_isFolder]
    by_cases folder : d.isFolder path = true <;> simp [folder, run_pure]

theorem run_makeFolderOnce_ok (granted : (d.run (makeFolderOnce path)).1 = .ok ()) :
    d.isFolder path = true ∨ ∃ d', d.Makes path d' := by
  rw [run_makeFolderOnce] at granted
  rcases d.makeFolder_eq path with ⟨failure, made⟩ | ⟨d', made, makes⟩
  · simp only [made] at granted
    by_cases folder : d.isFolder path = true
    · exact .inl folder
    · simp [folder] at granted
  · exact .inr ⟨d', makes⟩

theorem run_makeFolderOnce_of_isFolder (folder : d.isFolder path = true) :
    d.run (makeFolderOnce path) = (.ok (), d) := by
  rw [run_makeFolderOnce]
  rcases d.makeFolder_eq path with ⟨failure, made⟩ | ⟨d', made, makes⟩
  · simp [made, folder]
  · simp [makes.nothing, isFolder_iff] at folder

theorem run_makeChain_of_isFolder (folder : d.isFolder path = true) :
    d.run (makeChain absolute path above) = (.ok (), d) := by
  cases above <;>
    simp only [makeChain, run_bind, run_makeFolderOnce_of_isFolder folder] <;> rfl

theorem run_makeFolders_of_isFolder (folder : d.isFolder path = true) :
    d.run (makeFolders path) = (.ok (), d) := by
  unfold makeFolders
  split
  · rfl
  · exact run_makeChain_of_isFolder folder

theorem run_makeFolderOnce_error (refused : (d.run (makeFolderOnce path)).1 = .error failure) :
    d.run (makeFolderOnce path) = (.error failure, d) := by
  rw [run_makeFolderOnce] at refused ⊢
  cases made : d.makeFolder path with
  | ok d' => simp [made] at refused
  | error failure' =>
    rw [made] at refused
    exact Prod.ext refused rfl

theorem run_makeChain_nil (d : Disk) (absolute : Bool) (path : String) :
    d.run (makeChain absolute path []) =
      match d.run (makeFolderOnce path) with
      | (.error .notFound, d') => d'.run (makeFolderOnce path)
      | done => done := by
  rw [makeChain, run_bind]
  rcases d.run (makeFolderOnce path) with ⟨_ | _, d'⟩
  · next failure => cases failure <;> rfl
  · rfl

theorem run_makeChain_cons (d : Disk) (absolute : Bool) (path : String) (names : List String)
    (above : List (List String)) :
    d.run (makeChain absolute path (names :: above)) =
      match d.run (makeFolderOnce path) with
      | (.error .notFound, d') =>
        match d'.run (makeChain absolute (Path.textOfReversed absolute names) above) with
        | (.ok _, d'') => d''.run (makeFolderOnce path)
        | refused => refused
      | done => done := by
  rw [makeChain, run_bind]
  rcases d.run (makeFolderOnce path) with ⟨_ | _, d'⟩
  · next failure =>
    cases failure
    case notFound =>
      simp only [run_bind]
      rcases d'.run (makeChain absolute (Path.textOfReversed absolute names) above) with
        ⟨_ | _, d''⟩ <;> rfl
    all_goals rfl
  · rfl

theorem run_makeChain_eq_once (above : List (List String))
    (once : (d.run (makeFolderOnce path)).1 ≠ .error .notFound) :
    d.run (makeChain absolute path above) = d.run (makeFolderOnce path) := by
  cases above with
  | nil =>
    rw [run_makeChain_nil]
    split
    · next eq => simp [eq] at once
    · rfl
  | cons names above =>
    rw [run_makeChain_cons]
    split
    · next eq => simp [eq] at once
    · rfl

theorem run_makeChain_stuck {names : List String} {answer : Except FileFailure Unit}
    (once : (d.run (makeFolderOnce path)).1 = .error failure)
    (chain : d.run (makeChain absolute (Path.textOfReversed absolute names) above) = (answer, d)) :
    ∃ failure', d.run (makeChain absolute path (names :: above)) = (.error failure', d) := by
  have stays := run_makeFolderOnce_error once
  by_cases lacks : failure = .notFound
  · subst lacks
    rw [run_makeChain_cons, stays]
    simp only [chain]
    cases answer with
    | ok _ => exact ⟨_, stays⟩
    | error failure' => exact ⟨failure', rfl⟩
  · exact ⟨failure, by rw [run_makeChain_eq_once _ (by simp [once, lacks]), stays]⟩

theorem isFolder_above_of_once (isAbove : Path.Above outer path)
    (granted : (d.run (makeFolderOnce path)).1 = .ok ()) : d.isFolder outer = true := by
  rcases run_makeFolderOnce_ok granted with folder | ⟨d', makes⟩
  · exact isFolder_above_of_isFolder isAbove folder
  · exact makes.isFolder_above _ isAbove

theorem run_makeChain_again (ladder : Path.Ladder absolute path above)
    (refused : d.run (makeChain absolute path above) = (.error failure, d')) :
    ∃ failure', d'.run (makeChain absolute path above) = (.error failure', d') := by
  induction ladder generalizing d d' failure with
  | bottom path =>
    have same : d' = d := by
      by_cases lacks : (d.run (makeFolderOnce path)).1 = .error .notFound
      · have stays := run_makeFolderOnce_error lacks
        rw [run_makeChain_nil, stays] at refused
        exact (Prod.mk.inj (refused.symm.trans stays)).2
      · rw [run_makeChain_eq_once _ lacks] at refused
        have stays := run_makeFolderOnce_error (congrArg Prod.fst refused)
        exact (Prod.mk.inj (refused.symm.trans stays)).2
    exact ⟨failure, same ▸ same ▸ refused⟩
  | @rung path names above isAbove ladder ih =>
    by_cases lacks : (d.run (makeFolderOnce path)).1 = .error .notFound
    · rw [run_makeChain_cons, run_makeFolderOnce_error lacks] at refused
      rcases chain : d.run (makeChain absolute (Path.textOfReversed absolute names) above) with
        ⟨failure₁ | _, d₁⟩ <;> simp only [chain] at refused
      · -- The folders above were refused, so they still are, and with them the folder itself.
        obtain ⟨-, rfl⟩ := Prod.mk.inj refused
        obtain ⟨failure₂, again⟩ := ih chain
        cases once : (d₁.run (makeFolderOnce path)).1 with
        | error failure' => exact run_makeChain_stuck once again
        | ok _ => simp [run_makeChain_of_isFolder (isFolder_above_of_once isAbove once)] at again
      · have once := congrArg Prod.fst refused
        obtain ⟨-, rfl⟩ := Prod.mk.inj (refused.symm.trans (run_makeFolderOnce_error once))
        have made := makeChain_ends ladder d
        rw [Ends, ← run, chain] at made
        exact run_makeChain_stuck once (run_makeChain_of_isFolder (made.isFolder rfl))
    · have once : d.run (makeChain absolute path (names :: above)) = d.run (makeFolderOnce path) :=
        run_makeChain_eq_once (names :: above) lacks
      have stays := run_makeFolderOnce_error (congrArg Prod.fst (once.symm.trans refused))
      obtain ⟨-, rfl⟩ := Prod.mk.inj (refused.symm.trans (once.trans stays))
      exact ⟨failure, refused⟩

theorem run_makeFolders_again (refused : d.run (makeFolders path) = (.error failure, d')) :
    ∃ failure', d'.run (makeFolders path) = (.error failure', d') := by
  unfold makeFolders at refused ⊢
  split at refused
  · simp [run_pure] at refused
  · next ne =>
    rw [if_neg ne]
    exact run_makeChain_again (Path.ladder_above path) refused

theorem grows_makeFolders (d : Disk) (path : String) :
    d.Grows path (d.run (makeFolders path)).2 := by
  rcases makeFolders_ends path d with ⟨-, -, same⟩ | ⟨-, made⟩
  · have same : (d.run (makeFolders path)).2 = d := same
    rw [same]
    exact .refl d path
  · exact made.grows

theorem run_makeFolders_ok (granted : d.run (makeFolders path) = (.ok (), d')) :
    path = "" ∧ d' = d ∨ d'.isFolder path = true := by
  have ends := makeFolders_ends path d
  rw [Ends, ← run, granted] at ends
  rcases ends with ⟨empty, -, same⟩ | ⟨-, made⟩
  · exact .inl ⟨empty, same⟩
  · exact .inr (made.isFolder rfl)

/-- Making a folder with those above it comes to the same a second time, up to the reason for
which it is refused, and changes nothing more. -/
theorem run_makeFolders_twice (d : Disk) (path : String) :
    ∃ answer, (d.run (makeFolders path)).2.run (makeFolders path) =
        (answer, (d.run (makeFolders path)).2) ∧
      (answer = .ok () ↔ (d.run (makeFolders path)).1 = .ok ()) := by
  rcases made : d.run (makeFolders path) with ⟨failure | _, d'⟩
  · obtain ⟨failure', again⟩ := run_makeFolders_again made
    exact ⟨_, again, by simp⟩
  · rcases run_makeFolders_ok made with ⟨rfl, rfl⟩ | folder
    · exact ⟨_, made, by simp⟩
    · exact ⟨_, run_makeFolders_of_isFolder folder, by simp⟩

end Disk

/-- A program that changes nothing and answers as it does when it is run on the disk alone, or
with a refusal. -/
def Reads {α : Type} (program : StateM σ α) (onDisk : StateM Disk α) (refusal : α → Prop) (s : σ) :
    Prop :=
  Ends program s fun answer s' => disk s' = disk s ∧
    ((disk s).run onDisk = (answer, disk s) ∨ faulty σ ∧ refusal answer)

namespace Reads

variable {α β : Type} {program : StateM σ α} {onDisk : StateM Disk α} {refusal : α → Prop}
  {s : σ}

theorem pure {a : α} : Reads (pure a) (pure a) refusal s := ⟨rfl, .inl rfl⟩

theorem bind {next : α → StateM σ β} {nextOnDisk : α → StateM Disk β} {refusal' : β → Prop}
    (first : Reads program onDisk refusal s)
    (rest : ∀ a s', Reads (next a) (nextOnDisk a) refusal' s')
    (refused : ∀ a s', refusal a →
      Ends (next a) s' fun answer s'' => disk s'' = disk s' ∧ refusal' answer) :
    Reads (program >>= next) (onDisk >>= nextOnDisk) refusal' s := by
  refine Ends.bind first fun a s₁ ⟨kept, asked⟩ => ?_
  rcases asked with granted | ⟨faults, refusal⟩
  · refine (rest a s₁).mono fun b s₂ ⟨kept', asked⟩ => ⟨kept'.trans kept, ?_⟩
    rwa [Disk.run_bind, granted, ← kept]
  · refine (refused a s₁ refusal).mono fun b s₂ ⟨kept', refusal⟩ => ?_
    exact ⟨kept'.trans kept, .inr ⟨faults, refusal⟩⟩

theorem read (path : String) (s : σ) :
    Reads (Files.read path) (Files.read path) (fun answer => ∃ failure, answer = .error failure)
      s :=
  (HoldsDisk.read s path).mono fun _ _ ⟨kept, asked⟩ =>
    ⟨kept, asked.imp_left fun granted => by rw [Disk.run_read, granted]⟩

theorem isThere (path : String) (s : σ) :
    Reads (Files.isThere path) (Files.isThere path) (· = false) s :=
  (HoldsDisk.isThere s path).mono fun _ _ ⟨kept, asked⟩ =>
    ⟨kept, asked.imp_left fun granted => by rw [Disk.run_isThere, granted]⟩

theorem readText (path : String) (s : σ) :
    Reads (readText path) (readText path) (fun answer => ∃ failure, answer = .error failure) s := by
  refine (read path s).bind (fun answer s' => ?_) ?_
  · cases answer with
    | error failure => exact .pure
    | ok content => cases h : String.fromUTF8? content <;> simpa only [h] using .pure
  · rintro _ s' ⟨failure, rfl⟩
    exact .pure ⟨rfl, failure, rfl⟩

end Reads
end Storypath
