import BuildCapture.Proofs.Container.Opening
import BuildCapture.Proofs.Container.Workbench

/-!
# Workbenches with nothing pending

Whoever commits or discards streamed octets right after streaming them never
leaves an entry behind the end of the image.  The container can then be opened
once it is finished, and it serves exactly what was accepted.
-/

namespace BuildCapture.Container.Workbench

/-- The workbench is sound, nothing is pending and no entry lies behind the end of the image. -/
structure Settled
    (bench : Workbench)
    (accepted : List (String × Octets)) : Prop where
  sound : bench.Sound accepted []
  within : ∀ entry ∈ bench.writer.draft.entries,
    entry.storedEnd ≤ bench.writer.draft.image.length

/-! ## Starting -/

theorem evolves_removeTemporary
    (files : FileSystem)
    (path : String) :
    files.Evolves (Writer.removeTemporary files path) := by
  rw [Writer.removeTemporary]
  split
  · exact .refl files
  · next after removing => exact FileSystem.evolves_removeFile removing

/-- Where a file has been removed there is nothing. -/
theorem node?_of_removeFile
    {files removed : FileSystem}
    {route : Route}
    {location : Location}
    (removing : files.removeFile route = .ok removed)
    (located : removed.locate route = .ok location) :
    removed.node? location = none := by
  rcases FileSystem.removeFile_eq_ok removing with
    ⟨origin, identity, stamp, content, flaw, found, rfl⟩
  rcases FileSystem.find_eq_file_iff.1 found with ⟨locatedBefore, standing, -⟩
  have noDirectory := FileSystem.noDirectory_of_file standing
  have same :=
    FileSystem.locate_eq_ok (FileSystem.keepsDirectories_erase noDirectory) rfl locatedBefore
  have here : origin = location := Except.ok.inj (same.symm.trans located)
  rw [FileSystem.node?_erase _ _ _ (FileSystem.ne_root noDirectory), if_pos here.symm]

/-- No file stands where the temporary file has been removed, or could not be. -/
theorem node?_of_removeTemporary
    {files : FileSystem}
    {path : String}
    {location : Location}
    (located :
      (Writer.removeTemporary files path).locate (Writer.temporaryRoute path) = .ok location)
    {identity stamp : Nat}
    {content : Octets}
    {flaw : Option Flaw} :
    (Writer.removeTemporary files path).node? location ≠
      some (.file identity stamp content flaw) := by
  intro there
  have plain : (Writer.temporaryRoute path).endsInDirectory = false := rfl
  unfold Writer.removeTemporary at located there
  split at located
  · next fault removing =>
    rw [removing] at there
    have found := FileSystem.find_eq_file_iff.2 ⟨located, there, plain⟩
    rw [FileSystem.removeFile, found] at removing
    cases removing
  · next removed removing =>
    rw [removing, node?_of_removeFile removing located] at there
    cases there

/-- Where the temporary file has been removed, a new one is made. -/
theorem createFile_of_removeTemporary
    {files after : FileSystem}
    {path : String}
    {identity : Nat}
    (creating :
      (Writer.removeTemporary files path).createFile (Writer.temporaryRoute path) =
        .ok (identity, after)) :
    ∃ location,
      (Writer.removeTemporary files path).locate (Writer.temporaryRoute path) = .ok location ∧
        (Writer.removeTemporary files path).node? location = none ∧
        identity = (Writer.removeTemporary files path).clock ∧
        after = (Writer.removeTemporary files path).placeFile location [] := by
  have plain : ¬ (Writer.temporaryRoute path).endsInDirectory = true := nofun
  rw [FileSystem.createFile] at creating
  split at creating
  · cases creating
  next location located =>
  split at creating
  · cases creating
  · next there => exact absurd there (node?_of_removeTemporary located)
  · next nothing =>
    rw [if_neg plain] at creating
    cases creating
    exact ⟨location, located, nothing, rfl, rfl⟩

/-- A writer starts settled, at its path, and touches no file but its own. -/
theorem settled_create
    {files after : FileSystem}
    {path : String}
    {config : WriterConfig}
    {writer : Writer}
    (creating : Writer.create files path config = (after, .ok writer)) :
    (⟨after, writer⟩ : Workbench).Settled [] ∧ writer.path = path ∧ files.Evolves after := by
  rcases sound_create creating with ⟨sound, samePath, draft⟩
  refine ⟨⟨sound, ?_⟩, samePath, ?_⟩
  · intro entry member
    rw [draft] at member
    exact absurd member List.not_mem_nil
  · rcases Writer.create_eq_ok creating with ⟨prepared, directories, making⟩
    have made := FileSystem.evolves_createDirectoriesFrom files (Route.ofPath path).parent
      (Route.ofPath path).parent.steps.length
    have same : (files.createDirectories (Route.ofPath path).parent).1 = prepared := by
      rw [directories]
    rw [FileSystem.createDirectories] at same
    rw [same] at made
    rcases Writer.createFile_eq_ok making with ⟨identity, created, creatingFile, rfl, rfl⟩
    rcases createFile_of_removeTemporary creatingFile with ⟨location, -, nothing, -, rfl⟩
    have below := FileSystem.ne_root_of_nothing nothing
    exact ((made.trans (evolves_removeTemporary prepared path)).trans
      (FileSystem.evolves_placeFile below [])).trans (FileSystem.evolves_edit _ _ _)

/-! ## Operations -/

namespace Settled

variable
  {bench : Workbench}
  {accepted : List (String × Octets)}

/-- Other files may change as they like. -/
theorem elsewhere
    (settled : bench.Settled accepted)
    {files : FileSystem}
    (left : FileSystem.Leaves (Writer.temporaryRoute bench.writer.path) bench.files files) :
    (⟨files, bench.writer⟩ : Workbench).Settled accepted := by
  rcases settled.sound.backed with ⟨location, stamp, found⟩
  exact ⟨⟨settled.sound.draft, left found⟩, settled.within⟩

/-- Entries stay within an image that grows, as does one that ends where it ends. -/
theorem within_append
    (settled : bench.Settled accepted)
    {form : Octets × UInt16}
    {data : Octets}
    {name : String} :
    ∀ entry ∈ bench.writer.draft.entries ++
        [(Pending.ofStored bench.writer.draft.image.length data form.1 form.2).named name],
      entry.storedEnd ≤ (bench.writer.draft.image ++ form.1).length := by
  intro entry member
  rw [List.length_append]
  rcases List.mem_append.1 member with earlier | last
  · exact Nat.le_trans (settled.within entry earlier) (Nat.le_add_right _ _)
  · rw [List.mem_singleton.1 last]
    exact Nat.le_refl _

section Adding

variable [Zstd.Encoder]

/-- Octets from memory that were written are accepted under their name. -/
theorem write
    (settled : bench.Settled accepted)
    {name : String}
    {data : Octets}
    {written : Workbench}
    (writing : bench.write name data = .ok written) :
    written.Settled (accepted ++ [(name, data)]) := by
  refine ⟨settled.sound.write writing, ?_⟩
  rcases write_eq_ok writing with ⟨draft, drafting, rfl⟩
  rcases Draft.write_eq_ok drafting with ⟨form, -, -, -, -, rfl⟩
  exact settled.within_append

/-- Streamed octets that are committed at once are accepted, and their digest was right. -/
theorem stream_commit
    (settled : bench.Settled accepted)
    {source : Source}
    {pending : Pending}
    {streamed committed : Workbench}
    {name : String}
    (streaming : bench.stream source = .ok (pending, streamed))
    (committing : streamed.commit pending name = (committed, .ok ())) :
    ∃ data, source.readAll = .ok data ∧ pending.digest = sha256 data ∧
      committed.Settled (accepted ++ [(name, data)]) ∧ bench.Continues committed := by
  have continues := streamed.continues_commit pending name
  rw [committing] at continues
  rcases settled.sound.stream streaming with ⟨data, all, sound⟩
  rcases draft_of_stream_commit streaming committing with ⟨same, form, allToo, digest, -, draft⟩
  rw [all] at allToo
  cases allToo
  refine ⟨data, all, digest, ⟨sound.commit_ok committing, ?_⟩,
    (Workbench.continues_stream streaming).trans continues⟩
  rw [draft]
  exact settled.within_append

/-- Streamed octets that are discarded at once leave nothing. -/
theorem stream_discard
    (settled : bench.Settled accepted)
    {source : Source}
    {pending : Pending}
    {streamed shorter : Workbench}
    (streaming : bench.stream source = .ok (pending, streamed))
    (discarding : streamed.discard pending = .ok shorter) :
    ∃ data, source.readAll = .ok data ∧ pending.digest = sha256 data ∧
      shorter.Settled accepted ∧ bench.Continues shorter := by
  rcases settled.sound.stream streaming with ⟨data, all, sound⟩
  rcases draft_of_stream_discard streaming discarding with ⟨same, allToo, digest, draft⟩
  rw [all] at allToo
  cases allToo
  refine ⟨data, all, digest, ⟨sound.discard discarding, ?_⟩,
    (Workbench.continues_stream streaming).trans (Workbench.continues_discard discarding)⟩
  rw [draft]
  exact settled.within

end Adding

/-! ## Finishing -/

/-- No more was accepted than a file has room for. -/
theorem length_le
    (settled : bench.Settled accepted)
    {finished : Workbench}
    (finishing : bench.finish = (finished, .ok ())) :
    accepted.length ≤ FileSystem.maximalFile := by
  have fits := (read_of_finish settled.sound.backed finishing).2
  have same : bench.writer.draft.entries.length = accepted.length :=
    settled.sound.draft.keeps.length_eq
  have counted := Draft.length_le_encodeAll bench.writer.draft.entries
  rw [Draft.length_sealedImage] at fits
  omega

/-- The finished container opens, and it has the accepted names and serves the accepted data. -/
theorem opens
    (settled : bench.Settled accepted)
    (short : ∀ item ∈ accepted, (Octets.ofText item.1).length < Octets.bound 2)
    {finished : Workbench}
    (finishing : bench.finish = (finished, .ok ()))
    (verify : Bool) :
    ∃ container,
      openFile finished.files bench.writer.path verify = .ok container ∧
        (container.entries.map DirectoryEntry.name).Perm (accepted.map Prod.fst) ∧
        ∀ item ∈ accepted, container.read item.1 = .ok item.2 := by
  rcases read_of_finish settled.sound.backed finishing with ⟨found, fits⟩
  rcases (settled.sound.draft.opens_iff short fits bench.writer.path verify).2 settled.within with
    ⟨container, opening⟩
  refine ⟨container, ?_, settled.sound.draft.opened short fits opening⟩
  rw [openFile_of_read found]
  exact opening

/-- Every entry of the finished container that is opened has data, which is read and streamed. -/
theorem whole_of_opens
    (settled : bench.Settled accepted)
    (short : ∀ item ∈ accepted, (Octets.ofText item.1).length < Octets.bound 2)
    {finished : Workbench}
    (finishing : bench.finish = (finished, .ok ()))
    {verify : Bool}
    {container : Container}
    (opening : openFile finished.files bench.writer.path verify = .ok container)
    {name : String}
    (there : container.contains name = true) :
    ∃ data, container.read name = .ok data ∧ container.Streams name data := by
  rcases read_of_finish settled.sound.backed finishing with ⟨found, fits⟩
  rw [openFile_of_read found] at opening
  have draft := settled.sound.draft
  rcases draft.opened short fits opening with ⟨names, served⟩
  rcases Option.isSome_iff_exists.1 there with ⟨entry, here⟩
  have listed : entry.name ∈ accepted.map Prod.fst :=
    names.mem_iff.1 (List.mem_map_of_mem (List.mem_of_find?_eq_some here))
  have named := List.find?_some here
  rw [beq_iff_eq.1 named] at listed
  rcases List.mem_map.1 listed with ⟨item, member, rfl⟩
  have read := served item member
  exact ⟨item.2, read, .of_read (draft.decodersAgreeOn_of_opened short fits opening item.1) read⟩

end Settled

end BuildCapture.Container.Workbench
