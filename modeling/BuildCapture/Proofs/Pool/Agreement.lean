import BuildCapture.Proofs.Container.Ledger
import BuildCapture.Proofs.Container.Listing
import BuildCapture.Proofs.Pool.Correspondence

/-!
# Streamed and in-memory storing agree

Octets from memory are looked up first and written only if they are new; octets
from a reader are written first and taken back if they turn out to be known.  The
former are compressed where that pays, the latter always.  Nevertheless both
answer alike, leave the same pools and the same listing of names, lengths and
digests, in every state of the container and of the pools, and wherever the
reader cuts the octets.

A new entry is then served by the sealed container, from whichever side it came,
exactly if the container can be opened at all: if every name has a length that a
directory can state and no entry was left behind the end of the payload.  The
last part shows a container for which neither of the two is any help.
-/

namespace BuildCapture

open Container

namespace Container.Scribe

variable
  {scribe : Scribe}
  {path : String}
  {draft : Draft}

/-- What the directory tells of entries apart from where and how they are stored. -/
def listing
    (scribe : Scribe) :
    List (String × Nat × Digest) :=
  scribe.entries.map fun entry => (entry.name, entry.rawLength, entry.digest)

/-- All names are short, and no entry lies behind the end of the payload. -/
structure IsPresentable (scribe : Scribe) : Prop where
  short : ∀ name ∈ scribe.names, (Octets.ofText name).length < Octets.bound 2
  inside : ∀ entry ∈ scribe.entries, entry.storedEnd ≤ scribe.offset

/--
Once the container is finished, it opens, lists all names and reads some data
under a name, exactly if it is presentable.
-/
def Presents
    (scribe : Scribe)
    (path name : String)
    (data : Octets) :
    Prop :=
  ∀ finished, scribe.finish = (finished, .ok ()) → ∀ verify,
    (∃ container,
        openFile finished.handle.files path verify = .ok container ∧
          (container.entries.map DirectoryEntry.name).Perm scribe.names ∧
            container.read name = .ok data) ↔
      scribe.IsPresentable

/-- There is a form for some octets, and room for it behind the payload. -/
def HasRoom
    (scribe : Scribe)
    (form? : Option (Octets × UInt16)) :
    Prop :=
  ∃ form, form? = some form ∧ scribe.offset + form.1.length ≤ FileSystem.maximalFile

/-- Whatever a sound container keeps, it presents. -/
theorem InStep.presents
    (inStep : scribe.InStep path draft)
    {entered : List (String × Payload)}
    {held : List (Pending × Payload)}
    (kept : Ledger.Kept draft entered held)
    {name : String}
    {payload : Payload}
    (member : (name, payload) ∈ entered) :
    scribe.Presents path name payload.data := by
  intro finished finishing verify
  rcases inStep.finish finishing with ⟨found, fits⟩
  rw [openFile_of_read found]
  have accepted : (name, payload.data) ∈ entered.map fun item => (item.1, item.2.data) :=
    List.mem_map_of_mem (f := fun item : String × Payload => (item.1, item.2.data)) member
  have names : scribe.names = (entered.map fun item => (item.1, item.2.data)).map Prod.fst :=
    inStep.names.trans kept.sound.keeps.names
  have opens (short : ∀ name ∈ scribe.names, (Octets.ofText name).length < Octets.bound 2) :
      ∀ item ∈ entered.map fun item => (item.1, item.2.data),
        (Octets.ofText item.1).length < Octets.bound 2 := by
    intro item inside
    apply short
    rw [names]
    exact List.mem_map_of_mem inside
  constructor
  · rintro ⟨container, opened, listed, -⟩
    have short : ∀ name ∈ scribe.names, (Octets.ofText name).length < Octets.bound 2 := by
      intro other inside
      rcases List.mem_map.1 (listed.mem_iff.2 inside) with ⟨entry, entryMember, rfl⟩
      exact (fits_of_ofImage opened entry entryMember).name
    refine ⟨short, ?_⟩
    rw [inStep.entries, inStep.offset]
    exact (kept.sound.opens_iff (opens short) fits path verify).1 ⟨container, opened⟩
  · rintro ⟨short, inside⟩
    rw [inStep.entries, inStep.offset] at inside
    rcases (kept.sound.opens_iff (opens short) fits path verify).2 inside with
      ⟨container, opened⟩
    rcases kept.sound.opened (opens short) fits opened with ⟨listed, reads⟩
    rw [← names] at listed
    exact ⟨container, opened, listed, reads _ accepted⟩

/-- Where there is room, a deposit depends on the name alone. -/
theorem InStep.deposited_cases
    {before : Scribe}
    (inStep : before.InStep path draft)
    {name : String}
    {data : Octets}
    {form? : Option (Octets × UInt16)}
    (fits : before.HasRoom form?)
    {answer : Scribe × Except Failure Unit}
    (deposited : Deposited path draft name data form? answer) :
    draft.contains name = false ∧ answer.2 = .ok () ∧
        (∃ form, form? = some form ∧
          draft.image.length + form.1.length ≤ FileSystem.maximalFile ∧
          answer.1.InStep path (draft.gained name data form)) ∨
      draft.contains name = true ∧ answer.2 = .error (.unsupported .duplicateEntry) ∧
        answer.1.InStep path draft := by
  cases deposited with
  | stored packs fits free ahead => exact Or.inl ⟨free, rfl, _, packs, fits, ahead⟩
  | taken taken back => exact Or.inr ⟨taken, rfl, back⟩
  | broken fault reason back =>
    rcases fits with ⟨form, packs, short⟩
    rw [inStep.offset] at short
    exact absurd short (Nat.not_le.2 (reason form packs))

/-- The form in which data is stored does not show in the listing. -/
theorem InStep.listing_gained
    {name : String}
    {data : Octets}
    {form : Octets × UInt16}
    (inStep : scribe.InStep path (draft.gained name data form)) :
    scribe.listing =
      (draft.entries.map fun entry => (entry.name, entry.rawLength, entry.digest)) ++
        [(name, data.length, sha256 data)] := by
  rw [listing, inStep.entries]
  exact List.map_append

/-- Containers that are in step with one draft have one listing. -/
theorem InStep.listing_eq
    {other : Scribe}
    (inStep : scribe.InStep path draft)
    (otherInStep : other.InStep path draft) :
    scribe.listing = other.listing := by
  rw [listing, listing, inStep.entries, otherInStep.entries]

/-- A container presents what was deposited in it in a form that the data is got back from. -/
theorem presents_of_deposited
    {entered : List (String × Payload)}
    {held : List (Pending × Payload)}
    (kept : Ledger.Kept draft entered held)
    {name : String}
    {data : Octets}
    {form? : Option (Octets × UInt16)}
    (restores : ∀ form, form? = some form → Restores form data)
    (deposited : Deposited path draft name data form? (scribe, .ok ())) :
    scribe.Presents path name data := by
  cases deposited with
  | stored packs fits free ahead =>
    exact ahead.presents (kept.gain (restores _ packs) fits free)
      (List.mem_append_right entered List.mem_cons_self)

section Deposits

variable [Zstd.Encoder] [Zstd.Packer]

/-- Octets can be packed from memory and from a reader, and either form fits into the file. -/
structure Unhindered
    (scribe : Scribe)
    (reader : Reader) : Prop where
  fromMemory : scribe.HasRoom (Draft.pack? scribe.compression reader.pieces.flatten)
  fromReader : scribe.HasRoom (form? scribe.compression reader)

/-- Deposits from memory and from a reader are accepted or refused alike, with the same listing. -/
theorem InStep.deposits_agree
    (inStep : scribe.InStep path draft)
    {reader : Reader}
    (unhindered : Unhindered scribe reader)
    (name : String) :
    (scribe.write name reader.pieces.flatten).2 = (scribe.deposit reader name).2 ∧
      (scribe.write name reader.pieces.flatten).1.listing =
        (scribe.deposit reader name).1.listing := by
  have fromMemory := unhindered.fromMemory
  have fromReader := unhindered.fromReader
  rw [inStep.compression] at fromMemory fromReader
  rcases inStep.deposited_cases fromMemory (inStep.write_deposited name _) with
    ⟨free, written, form, -, -, ahead⟩ | ⟨taken, refused, back⟩
  · rcases inStep.deposited_cases fromReader (inStep.deposit reader name) with
      ⟨-, deposited, other, -, -, otherAhead⟩ | ⟨taken, -⟩
    · exact ⟨written.trans deposited.symm,
        ahead.listing_gained.trans otherAhead.listing_gained.symm⟩
    · rw [free] at taken
      cases taken
  · rcases inStep.deposited_cases fromReader (inStep.deposit reader name) with
      ⟨free, -⟩ | ⟨-, otherRefused, otherBack⟩
    · rw [free] at taken
      cases taken
    · exact ⟨refused.trans otherRefused.symm, back.listing_eq otherBack⟩

omit [Zstd.Encoder] in
/-- Where there is room, a visit succeeds and leaves the listing as it is. -/
theorem InStep.visit_of_hasRoom
    (inStep : scribe.InStep path draft)
    {reader : Reader}
    (fits : scribe.HasRoom (form? scribe.compression reader)) :
    ∃ after, scribe.visit reader = (after, .ok ()) ∧ scribe.listing = after.listing := by
  rcases inStep.visit reader with ⟨back, ⟨done, -⟩ | ⟨fault, -, reason⟩⟩
  · exact ⟨_, Prod.ext rfl done, inStep.listing_eq back⟩
  · rcases fits with ⟨form, packs, short⟩
    rw [inStep.offset] at short
    rw [inStep.compression] at packs
    exact absurd short (Nat.not_le.2 (reason form packs))

end Deposits

end Container.Scribe

namespace Storeroom

/-- Two answers are the same, or failures of one kind. -/
inductive AnswersAlike {α : Type} : Except Failure α → Except Failure α → Prop
  | ok (value : α) : AnswersAlike (.ok value) (.ok value)
  | error {left right : Failure} (same : left.SameVariant right) :
    AnswersAlike (.error left) (.error right)

/-- What is answered like a success is one. -/
theorem AnswersAlike.eq_ok
    {α : Type}
    {value : α}
    {left right : Except Failure α}
    (alike : AnswersAlike left right)
    (stored : left = .ok value) :
    right = .ok value := by
  cases alike with
  | ok other => exact stored
  | error same => cases stored

/-- Two ways of storing agree: in the answer, the pools, and the listing of the container. -/
structure Agree
    {α : Type}
    (related : Except Failure α → Except Failure α → Prop)
    (left right : Storeroom × Except Failure α) : Prop where
  answers : related left.2 right.2
  blobs : left.1.blobs = right.1.blobs
  modules : left.1.modules = right.1.modules
  listing : left.1.scribe.listing = right.1.scribe.listing

/-! ## Agreement -/

variable
  {room : Storeroom}
  {path : String}
  {draft : Draft}
  {reader : Reader}

/-- Without a fault, a reader is the source of the octets it hands out. -/
theorem source_of_faultless
    (faultless : reader.fault = none) :
    reader.source = .ofOctets reader.pieces.flatten := by
  rw [Reader.source, faultless]
  rfl

/-- A module is described the same from memory and from the source of its octets. -/
theorem described_ofSource
    {image : Octets}
    {info : ModuleInfo}
    (described : ModuleInfo.ofOctets image = .ok info) :
    ∃ body, ModuleInfo.ofSource (.ofOctets image) = .ok (info, body) := by
  rw [ModuleInfo.ofOctets] at described
  cases reading : ModuleInfo.ofSource (.ofOctets image) with
  | error fault =>
    rw [reading] at described
    cases described
  | ok found =>
    rw [reading] at described
    cases described
    exact ⟨found.2, rfl⟩

/-- A source without a fault is not blamed. -/
theorem blame_ofOctets
    (data : Octets)
    (place : String)
    (failure : Failure) :
    BlobPool.blame (.ofOctets data) place failure = failure := by
  cases failure with
  | _ => rfl

/-- New entries that their containers answer alike are stored alike. -/
theorem settle_agree
    {α : Type}
    {related : Except Failure α → Except Failure α → Prop}
    {value : α}
    {report otherReport : Failure → Failure}
    {left right : Scribe × Except Failure Unit}
    (alike : left.2 = right.2 ∧ left.1.listing = right.1.listing)
    (stored : related (.ok value) (.ok value))
    (refused : ∀ failure, related (.error (report failure)) (.error (otherReport failure)))
    (room learnt : Storeroom) :
    Agree related (room.settle learnt report value left)
      (room.settle learnt otherReport value right) := by
  rcases left with ⟨scribe, outcome⟩
  rcases right with ⟨otherScribe, otherOutcome⟩
  rcases alike with ⟨rfl, listing⟩
  cases outcome with
  | error failure => exact ⟨refused failure, rfl, rfl, listing⟩
  | ok done => exact ⟨stored, rfl, rfl, listing⟩

section Agreement

variable [Zstd.Encoder] [Zstd.Packer]

/-- Contents are stored alike from memory and from a reader. -/
theorem contents_agree
    (inStep : room.scribe.InStep path draft)
    (unhindered : room.scribe.Unhindered reader) :
    Agree Eq (room.storeContent reader.pieces.flatten) (room.storeReader reader) := by
  rw [storeContent_eq, storeReader_eq]
  split
  · rcases inStep.visit_of_hasRoom unhindered.fromReader with ⟨scribe, visiting, listing⟩
    rw [visiting]
    exact ⟨rfl, rfl, rfl, listing⟩
  · exact settle_agree (inStep.deposits_agree unhindered _) rfl (fun _ => rfl) room _

/-- Modules are stored alike from memory and from a path. -/
theorem modules_agree
    (inStep : room.scribe.InStep path draft)
    (unhindered : room.scribe.Unhindered reader)
    (faultless : reader.fault = none)
    (place : String) :
    Agree AnswersAlike (room.storeModule reader.pieces.flatten)
      (room.storeModuleFile place (.ok reader)) := by
  rw [storeModule, storeModuleFile, source_of_faultless faultless, ModuleInfo.ofOctets]
  cases ModuleInfo.ofSource (.ofOctets reader.pieces.flatten) with
  | error fault => exact ⟨.error rfl, rfl, rfl, rfl⟩
  | ok found =>
    rcases found with ⟨info, body⟩
    simp only [Except.map]
    cases room.modules.get? info.id with
    | some known => exact ⟨.ok known, rfl, rfl, rfl⟩
    | none =>
      have refused (failure : Failure) :
          AnswersAlike (α := ModuleInfo) (.error failure)
            (.error (BlobPool.blame (.ofOctets reader.pieces.flatten) place failure)) := by
        rw [blame_ofOctets]
        exact .error rfl
      exact settle_agree (inStep.deposits_agree unhindered info.id.entryName) (.ok info) refused
        room (room.withModule info)

end Agreement

/-! ## New entries -/

/-- A new entry that was stored in a form that the data is got back from is presented. -/
theorem settle_presents
    {α : Type}
    {entered : List (String × Payload)}
    {held : List (Pending × Payload)}
    (kept : Ledger.Kept draft entered held)
    {name : String}
    {data : Octets}
    {form? : Option (Octets × UInt16)}
    {answer : Scribe × Except Failure Unit}
    (deposited : Scribe.Deposited path draft name data form? answer)
    (restores : ∀ form, form? = some form → Restores form data)
    {learnt : Storeroom}
    {report : Failure → Failure}
    {value stored : α}
    (storing : (room.settle learnt report value answer).2 = .ok stored) :
    (room.settle learnt report value answer).1.scribe.Presents path name data := by
  rcases answer with ⟨scribe, failure | done⟩
  · cases storing
  · exact Scribe.presents_of_deposited kept restores deposited

section New

variable
  {entered : List (String × Payload)}
  {held : List (Pending × Payload)}
  (inStep : room.scribe.InStep path draft)
  (kept : Ledger.Kept draft entered held)

include inStep kept

theorem storeContent_presents
    [Zstd.Encoder]
    {data : Octets}
    {key : ContentKey}
    (unknown : room.blobs.contains (.of data) = false)
    (storing : (room.storeContent data).2 = .ok key) :
    (room.storeContent data).1.scribe.Presents path (ContentKey.of data).entryName data := by
  rw [storeContent_eq, unknown, if_neg Bool.false_ne_true] at storing ⊢
  exact settle_presents kept (inStep.write_deposited _ data) (fun _ => Draft.pack?_restores)
    storing

theorem storeModule_presents
    [Zstd.Encoder]
    {image : Octets}
    {info stored : ModuleInfo}
    (described : ModuleInfo.ofOctets image = .ok info)
    (unknown : room.modules.get? info.id = none)
    (storing : (room.storeModule image).2 = .ok stored) :
    (room.storeModule image).1.scribe.Presents path info.id.entryName image := by
  rw [storeModule_eq described unknown] at storing ⊢
  exact settle_presents kept (inStep.write_deposited _ image) (fun _ => Draft.pack?_restores)
    storing

theorem storeReader_presents
    [Zstd.Packer]
    {key : ContentKey}
    (unknown : room.blobs.contains (.of reader.pieces.flatten) = false)
    (storing : (room.storeReader reader).2 = .ok key) :
    (room.storeReader reader).1.scribe.Presents path
      (ContentKey.of reader.pieces.flatten).entryName reader.pieces.flatten := by
  rw [storeReader_eq, unknown, if_neg Bool.false_ne_true] at storing ⊢
  exact settle_presents kept (inStep.deposit reader _) (fun _ => Scribe.form?_restores) storing

theorem storeModuleFile_presents
    [Zstd.Packer]
    {place : String}
    {info stored : ModuleInfo}
    {body : Octets}
    (described : ModuleInfo.ofSource reader.source = .ok (info, body))
    (unknown : room.modules.get? info.id = none)
    (storing : (room.storeModuleFile place (.ok reader)).2 = .ok stored) :
    (room.storeModuleFile place (.ok reader)).1.scribe.Presents path info.id.entryName
      reader.pieces.flatten := by
  rw [storeModuleFile_eq described unknown] at storing ⊢
  exact settle_presents kept (inStep.deposit reader _) (fun _ => Scribe.form?_restores) storing

end New

/--
In every state of a container and of the pools, octets from memory and a reader
that hands them out in any pieces are answered alike, with the same pools and the
same listing.  A new entry can be read from either sealed container exactly if
that container is presentable.
-/
theorem streamed_and_in_memory_storing_agree
    [Zstd.Encoder]
    [Zstd.Packer]
    {files started : FileSystem}
    {path : String}
    {config : WriterConfig}
    {writer : Writer}
    (creating : Writer.create files path config = (started, .ok writer))
    (actions : List Ledger.Action)
    (blobs : BlobPool)
    (modules : ModulePool)
    {data : Octets}
    (handsOut : reader.pieces.flatten = data)
    (unhindered : ((Ledger.start started writer).run actions).scribe.Unhindered reader)
    (place : String) :
    let scribe := ((Ledger.start started writer).run actions).scribe
    let room : Storeroom := { scribe, blobs, modules }
    Agree Eq (room.storeContent data) (room.storeReader reader) ∧
      Agree AnswersAlike (room.storeModule data) (room.storeModuleFile place (.ok reader)) ∧
      (∀ key, blobs.contains (.of data) = false → (room.storeContent data).2 = .ok key →
        (room.storeContent data).1.scribe.Presents path (ContentKey.of data).entryName data ∧
          (room.storeReader reader).1.scribe.Presents path (ContentKey.of data).entryName data) ∧
      (∀ info stored, ModuleInfo.ofOctets data = .ok info → modules.get? info.id = none →
        (room.storeModule data).2 = .ok stored →
          (room.storeModule data).1.scribe.Presents path info.id.entryName data ∧
            (room.storeModuleFile place (.ok reader)).1.scribe.Presents path
              info.id.entryName data) := by
  subst handsOut
  intro scribe room
  rcases (Ledger.sound_start creating).run actions with ⟨draft, sound⟩
  have inStep : room.scribe.InStep path draft := sound.inStep
  have kept := sound.kept
  rcases unhindered.fromReader with ⟨form, packs, -⟩
  have faultless : reader.fault = none := (Scribe.form?_eq_some_iff.1 packs).1
  have contents :
      Agree Eq (room.storeContent reader.pieces.flatten) (room.storeReader reader) :=
    contents_agree inStep unhindered
  have images :
      Agree AnswersAlike (room.storeModule reader.pieces.flatten)
        (room.storeModuleFile place (.ok reader)) :=
    modules_agree inStep unhindered faultless place
  refine ⟨contents, images, ?_, ?_⟩
  · intro key unknown stored
    exact ⟨storeContent_presents inStep kept unknown stored,
      storeReader_presents inStep kept unknown (contents.answers ▸ stored)⟩
  · intro info stored described unknown storing
    rcases described_ofSource described with ⟨body, reading⟩
    rw [← source_of_faultless faultless] at reading
    exact ⟨storeModule_presents inStep kept described unknown storing,
      storeModuleFile_presents inStep kept reading unknown (images.answers.eq_ok storing)⟩

/-! ## A content that is read from both containers -/

/-- Three octets in two pieces. -/
def twoPieces : Reader :=
  ⟨[[1], [2, 3]], none, by decide⟩

/-- Three octets are streamed and stay pending, and one entry is written behind them. -/
def pendingActions : List Ledger.Action := [
  .stream ⟨[[97, 98, 99]], none, by decide⟩,
  .write "x" [120]]

/-- A container from which a name can be read once it is finished. -/
def IsRead
    (scribe : Scribe)
    (path name : String)
    (data : Octets) :
    Prop :=
  ∃ container, openFile scribe.finish.1.handle.files path true = .ok container ∧
    container.read name = .ok data

/-- A presentable container that is finished is read. -/
theorem isRead_of_presents
    {scribe : Scribe}
    {path name : String}
    {data : Octets}
    (presents : scribe.Presents path name data)
    (finishing : scribe.finish.2 = .ok ())
    (presentable : scribe.IsPresentable) :
    IsRead scribe path name data := by
  have finished : scribe.finish = (scribe.finish.1, .ok ()) := Prod.ext rfl finishing
  rcases (presents _ finished true).2 presentable with ⟨container, opened, -, read⟩
  exact ⟨container, opened, read⟩

set_option maxRecDepth 100000 in
/-- With octets pending, a new content is read from both containers. -/
theorem new_content_is_read_from_both_containers :
    ∃ started writer ledger,
      Writer.create noFiles "plain" plainConfig = (started, .ok writer) ∧
        ledger = (Ledger.start started writer).run pendingActions ∧
        (let room : Storeroom := { scribe := ledger.scribe }
        (room.storeContent [1, 2, 3]).2 = .ok (.of [1, 2, 3]) ∧
          (room.storeReader twoPieces).2 = .ok (.of [1, 2, 3]) ∧
          IsRead (room.storeContent [1, 2, 3]).1.scribe "plain"
            (ContentKey.of [1, 2, 3]).entryName [1, 2, 3] ∧
          IsRead (room.storeReader twoPieces).1.scribe "plain"
            (ContentKey.of [1, 2, 3]).entryName [1, 2, 3]) := by
  have reached :
      ∃ ledger, Ledger.plainLedger pendingActions = some ledger ∧
        Draft.pack? ledger.scribe.compression [1, 2, 3] = some ([1, 2, 3], 0) ∧
        Scribe.form? ledger.scribe.compression twoPieces = some ([1, 2, 3], 0) ∧
        ledger.scribe.offset + 3 ≤ FileSystem.maximalFile ∧
        (let room : Storeroom := { scribe := ledger.scribe }
        (room.storeContent [1, 2, 3]).2 = .ok (.of [1, 2, 3]) ∧
          ((room.storeContent [1, 2, 3]).1.scribe.finish.2 = .ok () ∧
            (∀ name ∈ (room.storeContent [1, 2, 3]).1.scribe.names,
              (Octets.ofText name).length < Octets.bound 2) ∧
            ∀ entry ∈ (room.storeContent [1, 2, 3]).1.scribe.entries,
              entry.storedEnd ≤ (room.storeContent [1, 2, 3]).1.scribe.offset) ∧
          ((room.storeReader twoPieces).1.scribe.finish.2 = .ok () ∧
            (∀ name ∈ (room.storeReader twoPieces).1.scribe.names,
              (Octets.ofText name).length < Octets.bound 2) ∧
            ∀ entry ∈ (room.storeReader twoPieces).1.scribe.entries,
              entry.storedEnd ≤ (room.storeReader twoPieces).1.scribe.offset)) := by
    refine ⟨_, rfl, ?_⟩
    decide +kernel
  rcases reached with
    ⟨ledger, reached, packs, streams, fits, answer, ⟨sealing, short, inside⟩,
      otherSealing, otherShort, otherInside⟩
  rcases Ledger.run_of_plainLedger reached with ⟨started, writer, starting, run⟩
  have unhindered : ledger.scribe.Unhindered twoPieces :=
    ⟨⟨_, packs, fits⟩, ⟨_, streams, fits⟩⟩
  rw [run] at unhindered
  have agreement :=
    streamed_and_in_memory_storing_agree starting pendingActions {} {} rfl unhindered "module"
  rw [← run] at agreement
  rcases agreement with ⟨contents, -, fresh, -⟩
  rcases fresh (.of [1, 2, 3]) rfl answer with ⟨presents, otherPresents⟩
  exact ⟨started, writer, ledger, starting, run, answer, contents.answers.symm.trans answer,
    isRead_of_presents presents sealing ⟨short, inside⟩,
    isRead_of_presents otherPresents otherSealing ⟨otherShort, otherInside⟩⟩

/-! ## A content that is read from neither -/

/-- Three octets and nothing are streamed; nothing gets a name, and the octets are discarded. -/
def strandingSteps : List Ledger.Action := [
  .stream ⟨[[97, 98, 99]], none, by decide⟩,
  .stream ⟨[], none, by decide⟩,
  .commit 0 "empty",
  .discard 0]

/-- One octet in one piece. -/
def onePiece : Reader :=
  ⟨[[120]], none, by decide⟩

set_option maxRecDepth 100000 in
/-- A new content is stored and the container is sealed, and yet it is read from neither side. -/
theorem stranded_entry_hides_new_content :
    ∃ ledger, Ledger.plainLedger strandingSteps = some ledger ∧
      (let room : Storeroom := { scribe := ledger.scribe }
      ((room.storeContent [120]).2 = .ok (.of [120]) ∧
          (room.storeContent [120]).1.scribe.finish.2 = .ok () ∧
          openFile (room.storeContent [120]).1.scribe.finish.1.handle.files "plain" true =
            .error (.corrupt (.entryOutOfBounds "empty"))) ∧
        (room.storeReader onePiece).2 = .ok (.of [120]) ∧
          (room.storeReader onePiece).1.scribe.finish.2 = .ok () ∧
          openFile (room.storeReader onePiece).1.scribe.finish.1.handle.files "plain" true =
            .error (.corrupt (.entryOutOfBounds "empty"))) := by
  refine ⟨_, rfl, ?_⟩
  decide +kernel

end Storeroom

end BuildCapture
