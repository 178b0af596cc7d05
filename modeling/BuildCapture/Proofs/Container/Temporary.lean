import BuildCapture.Proofs.Container.Settled
import BuildCapture.Proofs.Container.Twins
import BuildCapture.Proofs.FileSystem.Neighbours

/-!
# Drafts beside their final path

A writer that has not been finished keeps its octets in a temporary file that
stands at one place only, so nothing it does can be seen at the final path.
Giving it up, or failing to publish it, removes the temporary file and leaves
the final path alone; publishing it moves the temporary file there.
-/

namespace BuildCapture.Container

/-! ## Taking a draft back -/

namespace Writer

theorem suffix_nonempty : ".tmp" ≠ "" := by
  decide

/-- The temporary file of a container is gone, and its final path leads to what it led to before. -/
structure Retracts
    (path : String)
    (before after : FileSystem) : Prop where
  gone : after.find (temporaryRoute path) = .error .notFound
  kept : after.find (.ofPath path) = before.find (.ofPath path)

variable
  {files : FileSystem}
  {path : String}
  {location : Location}
  {identity stamp : Nat}
  {content : Octets}
  {flaw : Option Flaw}

/-- A temporary file that is there is removed, and nothing else. -/
theorem removeTemporary_eq
    (found :
      files.find (temporaryRoute path) = .ok (location, .file identity stamp content flaw)) :
    removeTemporary files path = files.erase location := by
  simp only [removeTemporary, FileSystem.removeFile, found]

theorem retracts_removeTemporary
    (found :
      files.find (temporaryRoute path) = .ok (location, .file identity stamp content flaw)) :
    Retracts path files (removeTemporary files path) := by
  rw [removeTemporary_eq found]
  exact ⟨FileSystem.find_erase found, FileSystem.find_erase_beside suffix_nonempty found⟩

/-- Removing the temporary file can not be seen at the final path, even if it is not there. -/
theorem find_removeTemporary
    (files : FileSystem)
    (path : String) :
    (removeTemporary files path).find (.ofPath path) = files.find (.ofPath path) := by
  rw [removeTemporary]
  split
  · rfl
  next after removing =>
  rcases FileSystem.removeFile_eq_ok removing with
    ⟨location, identity, stamp, content, flaw, found, rfl⟩
  exact FileSystem.find_erase_beside suffix_nonempty found

end Writer

open Writer

namespace Workbench

/-! ## Writers that are not finished -/

/-- A writer of the container with a path that has its draft in a temporary file of its own. -/
structure Drafts
    (bench : Workbench)
    (path : String) : Prop where
  path_eq : bench.writer.path = path
  sane : bench.files.Sane
  backed : bench.Backed
  alone : ∀ {location}, bench.files.locate (temporaryRoute path) = .ok location →
    bench.files.StandsOnlyAt bench.writer.identity location
  unsealed : bench.writer.draft.isSealed = false

namespace Drafts

variable
  {bench after finished : Workbench}
  {path : String}

/-- The temporary file is found where its way leads, and it stands nowhere else. -/
theorem found
    (drafts : bench.Drafts path) :
    ∃ location stamp,
      bench.files.find (temporaryRoute path) =
          .ok (location, .file bench.writer.identity stamp bench.writer.draft.image) ∧
        bench.files.locate (temporaryRoute path) = .ok location ∧
        bench.files.StandsOnlyAt bench.writer.identity location := by
  rcases drafts.backed with ⟨location, stamp, found⟩
  rw [drafts.path_eq] at found
  have located := (FileSystem.find_eq_file_iff.1 found).1
  exact ⟨location, stamp, found, located, drafts.alone located⟩

/-! ## Going on -/

/-- A writer still has its draft in the temporary file after that was rewritten. -/
theorem rewrites
    (drafts : bench.Drafts path)
    (rewrites : bench.Rewrites after) :
    after.Drafts path := by
  rcases drafts.found with ⟨location, stamp, -, located, alone⟩
  constructor
  case path_eq => exact rewrites.path.trans drafts.path_eq
  case sane => exact rewrites.sane drafts.sane
  case backed => exact (rewrites.alone (drafts.backed.alone drafts.sane)).backed
  case alone =>
    intro place there
    have kept :=
      FileSystem.locate_eq_ok rewrites.files.keepsDirectories rewrites.files.workingDirectory
        located
    rw [kept] at there
    cases there
    rw [rewrites.identity]
    exact rewrites.files.standsOnlyAt alone
  case unsealed => exact (congrArg Prod.snd rewrites.settings).trans drafts.unsealed

/-- What a writer does to its temporary file can not be seen at the final path. -/
theorem find_of_rewrites
    (drafts : bench.Drafts path)
    {files : FileSystem}
    (rewrites : bench.files.Rewrites bench.writer.identity files) :
    files.find (.ofPath path) = bench.files.find (.ofPath path) := by
  rcases drafts.found with ⟨location, stamp, -, located, alone⟩
  exact rewrites.find_eq suffix_nonempty located alone

/-- Everything but the temporary file may change. -/
theorem elsewhere
    (drafts : bench.Drafts path)
    {files : FileSystem}
    (sane : files.Sane)
    (spares : FileSystem.Spares (temporaryRoute path) bench.files files) :
    (⟨files, bench.writer⟩ : Workbench).Drafts path := by
  rcases drafts.found with ⟨location, stamp, found, -, -⟩
  constructor
  case path_eq => exact drafts.path_eq
  case sane => exact sane
  case backed =>
    apply drafts.backed.elsewhere
    rw [drafts.path_eq]
    exact spares.leaves
  case alone => exact fun located => spares.alone found located
  case unsealed => exact drafts.unsealed

/-! ## Giving up -/

/-- A writer that has rewritten its temporary file can still remove it. -/
theorem retracts
    (drafts : bench.Drafts path)
    {files : FileSystem}
    (rewrites : bench.files.Rewrites bench.writer.identity files) :
    Retracts path bench.files (removeTemporary files path) := by
  rcases drafts.found with ⟨location, stamp, found, -, -⟩
  rcases rewrites.find_own found with ⟨newStamp, newContent, still⟩
  have removed := retracts_removeTemporary still
  exact ⟨removed.gone, removed.kept.trans (drafts.find_of_rewrites rewrites)⟩

/-- A writer that is given up leaves nothing behind. -/
theorem retracts_abandon
    (drafts : bench.Drafts path) :
    Retracts path bench.files bench.abandon := by
  rw [abandon, drafts.unsealed, drafts.path_eq]
  exact drafts.retracts (.refl _ _)

end Drafts

/-! ## Finishing -/

/--
Finishing completes the temporary file and moves it to the final path, or else
removes it, completed or not.
-/
theorem finish_cases
    {bench finished : Workbench}
    {outcome : Except Failure Unit}
    (unsealed : bench.writer.draft.isSealed = false)
    (finishing : bench.finish = (finished, outcome)) :
    ∃ completed, bench.files.Rewrites bench.writer.identity completed ∧
      ((outcome = .ok () ∧
          completed.rename (temporaryRoute bench.writer.path) (.ofPath bench.writer.path) =
            .ok finished.files) ∨
        ∃ fault, outcome = .error (.file fault) ∧
          finished.files = removeTemporary completed bench.writer.path) := by
  rw [finish, unsealed] at finishing
  simp only [Bool.false_eq_true, if_false, Prod.mk.injEq] at finishing
  rcases finishing with ⟨rfl, rfl⟩
  rw [publish]
  simp only
  split
  · exact ⟨bench.files, .refl _ _, Or.inr ⟨.tooLarge, rfl, rfl⟩⟩
  · refine ⟨bench.files.writeAt bench.writer.identity bench.writer.draft.image.length
      bench.writer.draft.ending, FileSystem.rewrites_edit _ _ _, ?_⟩
    split
    · next fault failing => exact Or.inr ⟨fault, rfl, rfl⟩
    · next published moved => exact Or.inl ⟨rfl, moved⟩

namespace Drafts

variable
  {bench finished : Workbench}
  {path : String}

/-- A container that can not be published leaves nothing behind. -/
theorem retracts_finish
    (drafts : bench.Drafts path)
    {failure : Failure}
    (finishing : bench.finish = (finished, .error failure)) :
    failure.isInvocationScoped = false ∧ Retracts path bench.files finished.files := by
  rcases finish_cases drafts.unsealed finishing with ⟨completed, rewrites, moved | removed⟩
  · cases moved.1
  · rcases removed with ⟨fault, same, removed⟩
    cases same
    rw [removed, drafts.path_eq]
    exact ⟨rfl, drafts.retracts rewrites⟩

/-- A container that was published leaves no temporary file behind. -/
theorem gone_of_finish
    (drafts : bench.Drafts path)
    (finishing : bench.finish = (finished, .ok ())) :
    finished.files.find (temporaryRoute path) = .error .notFound := by
  rcases drafts.found with ⟨location, stamp, found, -, -⟩
  rcases finish_cases drafts.unsealed finishing with ⟨completed, rewrites, moved | removed⟩
  · rcases rewrites.find_own found with ⟨newStamp, newContent, still⟩
    have renamed := moved.2
    rw [drafts.path_eq] at renamed
    exact FileSystem.find_beside_of_rename suffix_nonempty still renamed
  · rcases removed with ⟨fault, same, -⟩
    cases same

end Drafts

end Workbench

/-! ## Starting -/

namespace Writer

variable
  {files after prepared : FileSystem}
  {path : String}
  {config : WriterConfig}
  {writer : Writer}

/-- The temporary file of a new writer is a new file, and nothing changes at the final path. -/
theorem alone_of_createFile
    (sane : prepared.Sane)
    (creating : Writer.createFile prepared path config = (after, .ok writer)) :
    (∀ {location}, after.locate (temporaryRoute path) = .ok location →
        after.StandsOnlyAt writer.identity location) ∧
      after.find (.ofPath path) = prepared.find (.ofPath path) := by
  rcases createFile_eq_ok creating with ⟨identity, created, making, rfl, rfl⟩
  rcases Workbench.createFile_of_removeTemporary making with
    ⟨location, located, nothing, rfl, rfl⟩
  generalize freed : removeTemporary prepared path = cleared at located nothing
  have saneCleared : cleared.Sane := by
    rw [← freed]
    exact (Workbench.evolves_removeTemporary prepared path sane).1
  have locatedPlaced : (cleared.placeFile location []).locate (temporaryRoute path) = .ok location :=
    FileSystem.locate_eq_ok (FileSystem.keepsDirectories_placeFile nothing []) rfl located
  have alonePlaced : (cleared.placeFile location []).StandsOnlyAt cleared.clock location :=
    FileSystem.standsOnlyAt_placeFile saneCleared (FileSystem.ne_root_of_nothing nothing) []
  have rewrites := FileSystem.rewrites_edit (cleared.placeFile location []) cleared.clock
    (FileSystem.overwritten 0 (Draft.new config).image)
  constructor
  · intro place there
    have same := FileSystem.locate_eq_ok rewrites.keepsDirectories rfl locatedPlaced
    have here : location = place := Except.ok.inj (same.symm.trans there)
    rw [← here]
    exact rewrites.standsOnlyAt alonePlaced
  · calc
      _ = (cleared.placeFile location []).find (.ofPath path) :=
        rewrites.find_eq suffix_nonempty locatedPlaced alonePlaced
      _ = cleared.find (.ofPath path) :=
        FileSystem.find_placeFile_beside suffix_nonempty located nothing []
      _ = prepared.find (.ofPath path) := by rw [← freed, find_removeTemporary]

/-- What is at a final path when a writer starts: what was there, and no file that was not. -/
structure Starts
    (path : String)
    (before after : FileSystem) : Prop where
  kept : ∀ {location node}, before.find (.ofPath path) = .ok (location, node) →
    after.find (.ofPath path) = .ok (location, node)
  old : ∀ {location identity stamp content flaw},
    after.find (.ofPath path) = .ok (location, .file identity stamp content flaw) →
      before.node? location = some (.file identity stamp content flaw)

/-- A writer starts with a draft in a temporary file of its own. -/
theorem drafts_create
    (sane : files.Sane)
    (creating : Writer.create files path config = (after, .ok writer)) :
    (⟨after, writer⟩ : Workbench).Drafts path ∧ Starts path files after := by
  rcases Workbench.sound_create creating with ⟨-, -, draft⟩
  rcases Workbench.settled_create creating with ⟨settled, samePath, evolves⟩
  rcases create_eq_ok creating with ⟨prepared, making, creatingFile⟩
  have same : (files.createDirectories (Route.ofPath path).parent).1 = prepared := by
    rw [making]
  have stay : ∀ {location node}, files.node? location = some node →
      prepared.node? location = some node := by
    rw [← same]
    exact fun there => FileSystem.node?_createDirectories _ there
  have fewer := (FileSystem.createDirectories_keeps files (Route.ofPath path).parent).1
  have sanePrepared := FileSystem.evolves_createDirectoriesFrom files (Route.ofPath path).parent
    (Route.ofPath path).parent.steps.length sane
  rw [same] at fewer
  rw [FileSystem.createDirectories] at same
  rw [same] at sanePrepared
  rcases alone_of_createFile sanePrepared.1 creatingFile with ⟨alone, unseen⟩
  refine ⟨⟨samePath, (evolves sane).1, settled.sound.backed, alone, ?_⟩, ?_, ?_⟩
  · rw [draft]
    rfl
  · intro location node found
    rw [unseen]
    exact FileSystem.find_of_extended stay fewer.start found
  · intro location identity stamp content flaw found
    rw [unseen] at found
    have there := (FileSystem.find_eq_file_iff.1 found).2.1
    rcases fewer.files location ⟨_, _, _, _, there⟩ with ⟨_, _, _, _, before⟩
    rw [stay before] at there
    rw [before, there]

end Writer

end BuildCapture.Container
