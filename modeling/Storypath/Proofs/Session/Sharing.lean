import Storypath.Proofs.Session.StateFile

/-! The folder that the states of all readers share. Whoever first keeps a state makes it, and from
then on its folders are the same whatever is kept. Main statement: keeping a state comes to the
same whatever others have kept before, up to the reason for which the folder cannot be made. -/
namespace Storypath

namespace Player

variable (player : Player) (d : Disk)

/-- A disk after the folder of states has been made, or as far as it could be. -/
def prepared : Disk := (d.run (makeFolders player.stateFolder)).2

def CanKeep : Prop := (d.run (makeFolders player.stateFolder)).1 = .ok ()

/-- A disk on which the folder of states has been made, or as far as it could be, and on which
perhaps states have been kept. -/
inductive Settled : Disk → Prop
  | prepared : Settled (player.prepared d)
  | used {d' : Disk} (canKeep : player.CanKeep d) (keeps : (player.prepared d).KeepsFolders d')
    (back : d'.KeepsFolders (player.prepared d)) (opens : d'.Opens player.stateFolder) :
    Settled d'

/-- Two results of keeping a state: they are the same, or the folder of states cannot be made and
they tell of it for two reasons. -/
def SameKeeping (answer answer' : Except Fault Unit) : Prop :=
  answer' = answer ∨ ¬ player.CanKeep d ∧
    ∃ failure failure', answer = .error (.stateWrite failure) ∧
      answer' = .error (.stateWrite failure')

variable {player d} {d' d'' : Disk} {user : String}

theorem keeps_prepared (player : Player) (d : Disk) : d.KeepsFolders (player.prepared d) :=
  (d.grows_makeFolders player.stateFolder).keepsFolders

namespace Settled

variable (settled : Settled player d d')
include settled

theorem keeps : (player.prepared d).KeepsFolders d' := by
  cases settled with
  | prepared => exact .refl _
  | used _ keeps _ _ => exact keeps

theorem back : d'.KeepsFolders (player.prepared d) := by
  cases settled with
  | prepared => exact .refl _
  | used _ _ back _ => exact back

theorem makeFolders : ∃ answer, d'.run (makeFolders player.stateFolder) = (answer, d') ∧
    (answer = .ok () ↔ player.CanKeep d) := by
  cases settled with
  | prepared => exact d.run_makeFolders_twice player.stateFolder
  | @used _ canKeep _ back opens =>
    refine ⟨.ok (), ?_, by simpa using canKeep⟩
    by_cases empty : player.stateFolder = ""
    · rw [empty]
      rfl
    · rcases Disk.run_makeFolders_ok (Prod.ext canKeep rfl) with ⟨empty', -⟩ | folder
      · exact absurd empty' empty
      · refine Disk.run_makeFolders_of_isFolder (Disk.isFolder_iff_opens.mpr ⟨?_, opens⟩)
        exact (Disk.isFolder_iff_opens.mp folder).1

theorem write_alike (valid : ReaderState.isUserId user = true) (content : ByteArray) :
    (d'.write (player.statePath user) content).map (fun _ => ()) =
      ((player.prepared d).write (player.statePath user) content).map fun _ => () := by
  cases settled with
  | prepared => rfl
  | used _ keeps back opens =>
    refine Disk.write_alike ?_ ?_
    · exact Disk.block?_join_eq (no_slash_stateFile valid) (back.opens opens) opens
    · rw [keeps.placeOf_eq]
      exact ⟨back.folder _, keeps.folder _⟩

theorem write (canKeep : player.CanKeep d) (valid : ReaderState.isUserId user = true)
    {content : ByteArray} (written : d'.write (player.statePath user) content = .ok d'') :
    Settled player d d'' := by
  have writes := Disk.write_ok written
  have opens := (Disk.opens_of_join (no_slash_stateFile valid) writes.free).2
  exact .used canKeep (settled.keeps.trans writes.keeps) (writes.back.trans settled.back)
    (writes.keeps.opens opens)

end Settled

theorem run_save {state : ReaderState} (valid : ReaderState.isUserId state.userId = true)
    (d : Disk) :
    d.run (state.save player.stateFolder) =
      match d.run (makeFolders player.stateFolder) with
      | (.error failure, d') => (.error (.stateWrite failure), d')
      | (.ok _, d') =>
        match d'.write (player.statePath state.userId) state.toJson.render.toUTF8 with
        | .error failure => (.error (.stateWrite failure), d')
        | .ok d'' => (.ok (), d'') := by
  have named : ReaderState.path player.stateFolder state.userId =
      .ok (player.statePath state.userId) := path_of_isUserId player.stateFolder valid
  simp only [ReaderState.save, named, Disk.run_bind]
  rcases d.run (makeFolders player.stateFolder) with ⟨failure | _, d'⟩
  · rfl
  · simp only [Disk.run_bind, Disk.run_write]
    cases d'.write (player.statePath state.userId) state.toJson.render.toUTF8 <;> rfl

/-- A disk on which nothing has been kept, or one that is settled. -/
def Stage (player : Player) (d d' : Disk) : Prop := d' = d ∨ Settled player d d'

namespace Stage

theorem makeFolders (stage : Stage player d d') :
    ∃ answer d'', d'.run (makeFolders player.stateFolder) = (answer, d'') ∧
      Settled player d d'' ∧ (answer = .ok () ↔ player.CanKeep d) := by
  rcases stage with rfl | settled
  · exact ⟨_, _, rfl, .prepared, .rfl⟩
  · obtain ⟨answer, made, canKeep⟩ := settled.makeFolders
    exact ⟨answer, d', made, settled, canKeep⟩

theorem keeps (stage : Stage player d d') : d.KeepsFolders d' := by
  rcases stage with rfl | settled
  · exact .refl _
  · exact (keeps_prepared player d).trans settled.keeps

theorem save (stage : Stage player d d') (state : ReaderState)
    (valid : ReaderState.isUserId state.userId = true) :
    SameKeeping player d (d.run (state.save player.stateFolder)).1
        (d'.run (state.save player.stateFolder)).1 ∧
      Settled player d (d'.run (state.save player.stateFolder)).2 := by
  obtain ⟨answer, d₁, made, settled, canKeep⟩ := stage.makeFolders
  have first : d.run (Storypath.makeFolders player.stateFolder) =
    ((d.run (Storypath.makeFolders player.stateFolder)).1, player.prepared d) := rfl
  rw [run_save valid, run_save valid, made, first]
  cases answer with
  | error failure =>
    have refused : ¬ player.CanKeep d := fun can => absurd (canKeep.mpr can) (by simp)
    rcases h : (d.run (Storypath.makeFolders player.stateFolder)).1 with failure' | _
    · exact ⟨.inr ⟨refused, failure', failure, rfl, rfl⟩, settled⟩
    · exact absurd h refused
  | ok _ =>
    have can := canKeep.mp rfl
    have alike := settled.write_alike valid state.toJson.render.toUTF8
    rw [show (d.run (Storypath.makeFolders player.stateFolder)).1 = .ok () from can]
    rcases h : (player.prepared d).write (player.statePath state.userId)
        state.toJson.render.toUTF8 with failure | d₂ <;>
      rcases h' : d₁.write (player.statePath state.userId)
        state.toJson.render.toUTF8 with failure' | d₃ <;>
      simp only [h, h', Except.map] at alike ⊢
    · exact ⟨.inl (by rw [Except.error.inj alike]), settled⟩
    · simp at alike
    · simp at alike
    · exact ⟨.inl rfl, settled.write can valid h'⟩

theorem sameKeeping (stage : Stage player d d') (stage' : Stage player d d'')
    (state : ReaderState) (valid : ReaderState.isUserId state.userId = true) :
    SameKeeping player d (d'.run (state.save player.stateFolder)).1
      (d''.run (state.save player.stateFolder)).1 := by
  rcases (stage.save state valid).1 with same | ⟨refused, _, _, first, given⟩ <;>
    rcases (stage'.save state valid).1 with same' | ⟨refused', _, _, first', given'⟩
  · exact .inl (same'.trans same.symm)
  · exact .inr ⟨refused', _, _, same.trans first', given'⟩
  · exact .inr ⟨refused, _, _, given, same'.trans first⟩
  · exact .inr ⟨refused, _, _, given, given'⟩

end Stage
end Player
end Storypath
