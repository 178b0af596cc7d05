import BuildCapture.Container.Scribe
import BuildCapture.Proofs.Container.Sink
import BuildCapture.Proofs.Container.Pendings

/-!
# Scribes and drafts

A draft says what a container holds after each operation; a scribe gets there
through writes that may break off, with what it has counted on the way and by
cutting its file.  A scribe is in step with a draft if its file holds the image
of the draft and its other fields agree with it.  Every operation of a scribe
does what the operation of the draft does, and one that fails in the middle is
back in step with the draft from before.
-/

namespace BuildCapture.Container

/-- Octets that were placed were appended, and otherwise there was no room for them. -/
theorem Draft.place_cases
    (draft : Draft)
    (data : Octets)
    (form : Octets × UInt16) :
    draft.place data form = .ok (draft.append data form) ∧
        draft.image.length + form.1.length ≤ FileSystem.maximalFile ∨
      draft.place data form = .error (.file .tooLarge) ∧ Sink.Overflows draft.image form.1 := by
  rw [Draft.place]
  split
  · next long => exact Or.inr ⟨rfl, long⟩
  · next fits => exact Or.inl ⟨rfl, Nat.not_lt.1 fits⟩

/-- What was appended last is discarded again. -/
theorem Draft.discard_append
    {draft : Draft}
    (unsealed : draft.isSealed = false)
    (data : Octets)
    (form : Octets × UInt16) :
    (draft.append data form).2.discard (draft.append data form).1 = .ok draft := by
  have latest : (draft.append data form).2.isLatest (draft.append data form).1 = true := by
    simp [append, isLatest, Pending.storedEnd, Pending.ofStored]
  have still : ¬ (draft.append data form).2.isSealed = true := by
    rw [show (draft.append data form).2.isSealed = false from unsealed]
    exact Bool.false_ne_true
  rw [discard, latest, if_neg still]
  simp [append, Pending.ofStored]

/-- What was appended last gets a name, or is discarded if the name is taken. -/
theorem Draft.commit_append
    {draft : Draft}
    (unsealed : draft.isSealed = false)
    (data : Octets)
    (form : Octets × UInt16)
    (name : String) :
    (draft.append data form).2.commit (draft.append data form).1 name =
      if draft.contains name then (draft, .error (.unsupported .duplicateEntry))
      else (draft.gained name data form, .ok ()) := by
  have latest : (draft.append data form).2.isLatest (draft.append data form).1 = true := by
    simp [append, isLatest, Pending.storedEnd, Pending.ofStored]
  have names : (draft.append data form).2.contains name = draft.contains name := rfl
  rw [commit, latest, names, discard_append unsealed]
  rfl

/-- Streamed octets are appended in their form, unless there is none or no room for it. -/
theorem Draft.stream_cases
    [Zstd.Encoder]
    {draft : Draft}
    (unsealed : draft.isSealed = false)
    (source : Source) :
    (∃ form, source.readAll.toOption.bind (packStream? draft.compression) = some form ∧
        draft.image.length + form.1.length ≤ FileSystem.maximalFile ∧
        draft.stream source = .ok (draft.append source.data form)) ∨
      ∃ fault, draft.stream source = .error (.file fault) ∧
        ∀ form, source.readAll.toOption.bind (packStream? draft.compression) = some form →
          Sink.Overflows draft.image form.1 := by
  have open? : ¬ draft.isSealed = true := by
    rw [unsealed]
    exact Bool.false_ne_true
  rw [stream, if_neg open?]
  cases all : source.readAll with
  | error fault =>
    refine Or.inr ⟨fault, rfl, ?_⟩
    intro form packs
    cases packs
  | ok data =>
    rw [Source.data_of_readAll all]
    simp only [Except.toOption, Option.bind_some]
    cases packStream? draft.compression data with
    | none =>
      refine Or.inr ⟨.uncompressed, rfl, ?_⟩
      intro form packs
      cases packs
    | some form =>
      rcases draft.place_cases data form with ⟨placing, fits⟩ | ⟨placing, overflows⟩
      · exact Or.inl ⟨form, rfl, fits, placing⟩
      · refine Or.inr ⟨.tooLarge, placing, ?_⟩
        intro other same
        cases same
        exact overflows

namespace Scribe

section Forms

variable [Zstd.Packer]

/-- The form in which a reader is stored, if it has no fault and can be packed. -/
def form?
    (compression : CompressionConfig)
    (reader : Reader) :
    Option (Octets × UInt16) :=
  match reader.fault with
  | some _ => none
  | none =>
    ((packing compression).whole? reader.pieces).map fun packed =>
      (packed, streamFlags compression)

theorem form?_eq_some_iff
    {compression : CompressionConfig}
    {reader : Reader}
    {form : Octets × UInt16} :
    form? compression reader = some form ↔
      reader.fault = none ∧ (packing compression).whole? reader.pieces = some form.1 ∧
        form.2 = streamFlags compression := by
  rw [form?]
  split
  · next fault broken =>
    rw [broken]
    constructor
    · intro none
      cases none
    · rintro ⟨none, -⟩
      cases none
  · next faultless =>
    rw [Option.map_eq_some_iff]
    constructor
    · rintro ⟨packed, packs, rfl⟩
      exact ⟨faultless, packs, rfl⟩
    · rintro ⟨-, packs, flags⟩
      exact ⟨form.1, packs, Prod.ext rfl flags.symm⟩

/-- The data is got back from the form in which a reader is stored. -/
theorem form?_restores
    {compression : CompressionConfig}
    {reader : Reader}
    {form : Octets × UInt16}
    (packs : form? compression reader = some form) :
    Restores form reader.pieces.flatten := by
  rcases form?_eq_some_iff.1 packs with ⟨-, whole, flags⟩
  rw [packing] at whole
  rw [streamFlags] at flags
  split at whole
  · next enabled =>
    rw [if_pos enabled] at flags
    exact Or.inr ⟨flags, Zstd.Packer.encodes whole⟩
  · next disabled =>
    rw [if_neg disabled] at flags
    rw [Zstd.Packing.whole?_plain] at whole
    exact Or.inl (Prod.ext (Option.some.inj whole).symm flags)

end Forms

/-- Where packing agrees with an encoder, the cuts between the pieces do not matter. -/
theorem form?_eq_source
    [Zstd.Encoder]
    [Zstd.Packer]
    (agrees : Zstd.Packer.Agrees)
    (compression : CompressionConfig)
    (reader : Reader) :
    form? compression reader =
      reader.source.readAll.toOption.bind (Draft.packStream? compression) := by
  cases broken : reader.fault with
  | some fault =>
    have all : reader.source.readAll = .error fault := by
      rw [Source.readAll, Reader.source, broken]
    rw [form?, broken, all]
    rfl
  | none =>
    rw [form?, broken, Reader.readAll_source broken]
    show _ = Draft.packStream? compression reader.pieces.flatten
    rw [packing, streamFlags, Draft.packStream?]
    cases compression.enabled with
    | true => exact congrArg (Option.map _) (agrees _ reader.pieces)
    | false => exact congrArg (Option.map _) (Zstd.Packing.whole?_plain reader.pieces)

/-! ## In step with a draft -/

/-- A scribe that is not finished has the file and the fields that a draft has. -/
structure InStep
    (scribe : Scribe)
    (path : String)
    (draft : Draft) : Prop where
  here : scribe.path = path
  holds : scribe.handle.Holds (Writer.temporaryRoute path) draft.image
  offset : scribe.offset = draft.image.length
  entries : scribe.entries = draft.entries
  names : scribe.names = draft.entries.map DirectoryEntry.name
  compression : scribe.compression = draft.compression
  unsealed : scribe.isSealed = false
  draftUnsealed : draft.isSealed = false

/-- A scribe starts in step with the draft of its writer. -/
theorem inStep_start
    {files started : FileSystem}
    {path : String}
    {config : WriterConfig}
    {writer : Writer}
    (creating : Writer.create files path config = (started, .ok writer)) :
    (ofWriter started writer).InStep path writer.draft := by
  rcases Workbench.sound_create creating with ⟨sound, samePath, fresh⟩
  have length : writer.draft.image.length = headerLength := by
    rw [fresh]
    exact length_header config.pathStyle.flag
  constructor
  case here => exact samePath
  case holds =>
    constructor
    case found => exact samePath ▸ sound.backed
    case position => exact length.symm
    case size => exact sound.draft.size
  case offset => exact length.symm
  case entries =>
    rw [fresh]
    rfl
  case names =>
    rw [fresh]
    rfl
  case compression => rfl
  case unsealed => rfl
  case draftUnsealed =>
    rw [fresh]
    rfl

/--
What streaming octets in some form leads to: they are pending behind the image,
or there is no such form or no room for it, and the scribe is in step as before.
-/
inductive Streamed
    (path : String)
    (draft : Draft)
    (data : Octets)
    (form? : Option (Octets × UInt16)) :
    Scribe × Except Failure Pending → Prop
  | stored
    {after : Scribe}
    {form : Octets × UInt16}
    (packs : form? = some form)
    (fits : draft.image.length + form.1.length ≤ FileSystem.maximalFile)
    (inStep : after.InStep path (draft.append data form).2) :
    Streamed path draft data form? (after, .ok (draft.append data form).1)
  | broken
    {after : Scribe}
    (fault : FileFault)
    (reason : ∀ form, form? = some form → Sink.Overflows draft.image form.1)
    (inStep : after.InStep path draft) :
    Streamed path draft data form? (after, .error (.file fault))

/--
What depositing data in some form under a name leads to: an entry behind the
image, or the name is taken, or there is no such form or no room for it.  Unless
there is an entry, the scribe is in step as before.
-/
inductive Deposited
    (path : String)
    (draft : Draft)
    (name : String)
    (data : Octets)
    (form? : Option (Octets × UInt16)) :
    Scribe × Except Failure Unit → Prop
  | stored
    {after : Scribe}
    {form : Octets × UInt16}
    (packs : form? = some form)
    (fits : draft.image.length + form.1.length ≤ FileSystem.maximalFile)
    (free : draft.contains name = false)
    (inStep : after.InStep path (draft.gained name data form)) :
    Deposited path draft name data form? (after, .ok ())
  | taken
    {after : Scribe}
    (taken : draft.contains name = true)
    (inStep : after.InStep path draft) :
    Deposited path draft name data form? (after, .error (.unsupported .duplicateEntry))
  | broken
    {after : Scribe}
    (fault : FileFault)
    (reason : ∀ form, form? = some form → Sink.Overflows draft.image form.1)
    (inStep : after.InStep path draft) :
    Deposited path draft name data form? (after, .error (.file fault))

namespace InStep

variable
  {scribe after : Scribe}
  {path : String}
  {draft : Draft}

theorem contains_eq
    (inStep : scribe.InStep path draft)
    (name : String) :
    scribe.names.contains name = draft.contains name := by
  rw [inStep.names, Draft.contains, List.contains_eq_any_beq, List.any_map]
  apply congrArg (draft.entries.any ·)
  funext entry
  exact Bool.beq_comm

theorem isLatest_eq
    (inStep : scribe.InStep path draft)
    (pending : Pending) :
    scribe.isLatest pending = draft.isLatest pending := by
  rw [isLatest, Draft.isLatest, inStep.offset]

theorem notSealed
    (inStep : scribe.InStep path draft) :
    ¬ scribe.isSealed = true := by
  rw [inStep.unsealed]
  exact Bool.false_ne_true

theorem draftNotSealed
    (inStep : scribe.InStep path draft) :
    ¬ draft.isSealed = true := by
  rw [inStep.draftUnsealed]
  exact Bool.false_ne_true

/-- A scribe whose file got more octets is in step with the draft that has them. -/
theorem append
    (inStep : scribe.InStep path draft)
    {handle : FileSystem.Handle}
    {more : Octets}
    (holds : handle.Holds (Writer.temporaryRoute path) (draft.image ++ more)) :
    ({ scribe with handle, offset := scribe.offset + more.length } : Scribe).InStep path
      { draft with image := draft.image ++ more } where
  here := inStep.here
  holds := holds
  offset := by
    rw [List.length_append, ← inStep.offset]
  entries := inStep.entries
  names := inStep.names
  compression := inStep.compression
  unsealed := inStep.unsealed
  draftUnsealed := inStep.draftUnsealed

/-- A scribe that lists an entry is in step with the draft that has it. -/
theorem enter
    (inStep : scribe.InStep path draft)
    (entry : DirectoryEntry) :
    (scribe.enter entry).InStep path { draft with entries := draft.entries ++ [entry] } where
  here := inStep.here
  holds := inStep.holds
  offset := inStep.offset
  entries := congrArg (· ++ [entry]) inStep.entries
  names := by
    rw [List.map_append, ← inStep.names]
    rfl
  compression := inStep.compression
  unsealed := inStep.unsealed
  draftUnsealed := inStep.draftUnsealed

/-! ## Going back -/

/-- A scribe whose file starts with the image goes back to a part of the image. -/
theorem rewind
    (inStep : scribe.InStep path draft)
    {handle : FileSystem.Handle}
    (keeps : Sink.Keeps handle (Writer.temporaryRoute path) draft.image)
    {length : Nat}
    (short : length ≤ draft.image.length) :
    ∃ after, Scribe.rewind { scribe with handle } length = (after, .ok ()) ∧
      after.InStep path { draft with image := draft.image.take length } := by
  rcases keeps with ⟨more, holds⟩
  have shorter : length ≤ (draft.image ++ more).length := by
    rw [List.length_append]
    exact Nat.le_add_right_of_le short
  have cut := holds.cut shorter
  rw [List.take_append_of_le_length short] at cut
  refine ⟨{ scribe with handle := handle.cut length, offset := length }, ?_, ?_⟩
  · exact if_neg inStep.notSealed
  · exact {
      here := inStep.here
      holds := cut
      offset := (List.length_take_of_le short).symm
      entries := inStep.entries
      names := inStep.names
      compression := inStep.compression
      unsealed := inStep.unsealed
      draftUnsealed := inStep.draftUnsealed }

/-- Whatever a write left behind the image, the scribe gets back in step. -/
theorem recover
    {α : Type}
    (inStep : scribe.InStep path draft)
    {handle : FileSystem.Handle}
    (keeps : Sink.Keeps handle (Writer.temporaryRoute path) draft.image)
    (failure : Failure) :
    ∃ after, Scribe.recover (α := α) { scribe with handle } failure = (after, .error failure) ∧
      after.InStep path draft := by
  have short : scribe.offset ≤ draft.image.length := Nat.le_of_eq inStep.offset
  rcases inStep.rewind keeps short with ⟨after, rewinding, back⟩
  rw [inStep.offset, List.take_length] at back
  refine ⟨after, ?_, back⟩
  rw [Scribe.recover]
  simp only [rewinding]

/-! ## Adding octets -/

section Growing

variable [Zstd.Encoder]

/-- Writing an entry from memory does what it does to the draft. -/
theorem write
    (inStep : scribe.InStep path draft)
    (name : String)
    (data : Octets) :
    ∃ after, scribe.write name data = (after, (draft.write name data).map fun _ => ()) ∧
      after.InStep path ((draft.write name data).toOption.getD draft) := by
  rw [Scribe.write, Draft.write, inStep.contains_eq, ← inStep.compression]
  split
  · exact ⟨scribe, rfl, inStep⟩
  cases Draft.pack? scribe.compression data with
  | none => exact ⟨scribe, rfl, inStep⟩
  | some form =>
    rcases form with ⟨stored, flags⟩
    simp only [if_neg inStep.notSealed, if_neg inStep.draftNotSealed]
    rcases draft.place_cases data (stored, flags) with ⟨placing, fits⟩ | ⟨placing, overflows⟩
    · rcases inStep.holds.write_of_fits fits with ⟨handle, writing, extended⟩
      rw [placing, writing, inStep.offset]
      have grown :=
        (inStep.append extended).enter
          ((Pending.ofStored draft.image.length data stored flags).named name)
      rw [inStep.offset] at grown
      exact ⟨_, rfl, grown⟩
    · cases writing : scribe.handle.write stored with
      | mk handle left =>
        rcases inStep.holds.write writing with ⟨part, whole, extended, -⟩
        cases left with
        | nil =>
          have size := (inStep.holds.write_all writing).size
          rw [List.length_append] at size
          exact absurd size (Nat.not_le.2 overflows)
        | cons octet rest =>
          rw [placing]
          exact inStep.recover ⟨part, extended⟩ _

end Growing

section Streaming

variable [Zstd.Packer]

/-- A scribe that streams a reader does to the draft what streaming does. -/
theorem stream
    (inStep : scribe.InStep path draft)
    (reader : Reader) :
    Streamed path draft reader.pieces.flatten (form? draft.compression reader)
      (scribe.stream reader) := by
  rw [Scribe.stream, if_neg inStep.notSealed, ← inStep.compression]
  simp only
  cases copying :
      ({ handle := scribe.handle } : Sink).copy (packing scribe.compression) reader.fault []
        reader.pieces with
  | mk sink outcome =>
    rcases (Sink.carries_start inStep.holds).copy copying with
      ⟨stored, rfl, faultless, packs, carries, nothing⟩ | ⟨fault, rfl, keeps, reason⟩
    · rcases carries.flushed nothing with ⟨holds, checksum, written⟩
      have counted :
          (draft.append reader.pieces.flatten (stored, streamFlags scribe.compression)).1 = {
            offset := scribe.offset
            storedLength := sink.written
            rawLength := reader.pieces.flatten.length
            checksum := ~~~ sink.register
            digest := sha256 reader.pieces.flatten
            flags := streamFlags scribe.compression } := by
        rw [inStep.offset, written, checksum]
        rfl
      have fits := holds.size
      rw [List.length_append] at fits
      simp only
      rw [← counted, written]
      exact .stored (form?_eq_some_iff.2 ⟨faultless, packs, rfl⟩) fits (inStep.append holds)
    · rcases inStep.recover (Sink.keeps_close keeps) (.file fault) with ⟨back, recovering, behind⟩
      simp only
      rw [recovering]
      refine .broken fault ?_ behind
      intro form packs
      rcases form?_eq_some_iff.1 packs with ⟨faultless, whole, -⟩
      exact reason form.1 faultless whole

end Streaming

/-! ## Streaming in step -/

section Encoding

variable
  [Zstd.Encoder]
  [Zstd.Packer]

/-- Streaming a reader does what streaming its source does to the draft, or both break off. -/
theorem stream_source
    (agrees : Zstd.Packer.Agrees)
    (inStep : scribe.InStep path draft)
    (reader : Reader) :
    (∃ after form,
        scribe.stream reader = (after, .ok (draft.append reader.pieces.flatten form).1) ∧
          draft.stream reader.source = .ok (draft.append reader.pieces.flatten form) ∧
            after.InStep path (draft.append reader.pieces.flatten form).2) ∨
      ∃ after fault other,
        scribe.stream reader = (after, .error (.file fault)) ∧
          draft.stream reader.source = .error (.file other) ∧ after.InStep path draft := by
  have streamed := inStep.stream reader
  rw [form?_eq_source agrees] at streamed
  cases streaming : scribe.stream reader with
  | mk after outcome =>
    rw [streaming] at streamed
    rcases Draft.stream_cases inStep.draftUnsealed reader.source with
      ⟨form, packs, fits, drafting⟩ | ⟨other, drafting, full⟩
    · cases streamed with
      | stored same _ ahead =>
        rw [packs] at same
        cases same
        exact Or.inl ⟨after, form, rfl, drafting, ahead⟩
      | broken fault reason _ => exact absurd fits (Nat.not_le.2 (reason form packs))
    · cases streamed with
      | stored packs fits _ => exact absurd fits (Nat.not_le.2 (full _ packs))
      | broken fault _ back => exact Or.inr ⟨after, fault, other, rfl, drafting, back⟩

end Encoding

/-! ## Settling -/

/-- Discarding does what it does to the draft. -/
theorem discard
    (inStep : scribe.InStep path draft)
    (pending : Pending) :
    ∃ after, scribe.discard pending = (after, (draft.discard pending).map fun _ => ()) ∧
      after.InStep path ((draft.discard pending).toOption.getD draft) := by
  rw [Scribe.discard, Draft.discard, inStep.isLatest_eq, if_neg inStep.draftNotSealed]
  split
  · exact ⟨scribe, rfl, inStep⟩
  next latest =>
  have ends : pending.offset + pending.storedLength = draft.image.length := by
    simpa [Draft.isLatest, Pending.storedEnd] using latest
  exact inStep.rewind ⟨[], (List.append_nil _).symm ▸ inStep.holds⟩ (Nat.le.intro ends)

/-- Giving a name does what it does to the draft. -/
theorem commit
    (inStep : scribe.InStep path draft)
    (pending : Pending)
    (name : String) :
    ∃ after, scribe.commit pending name = (after, (draft.commit pending name).2) ∧
      after.InStep path (draft.commit pending name).1 := by
  rw [Scribe.commit, Draft.commit, inStep.isLatest_eq, inStep.contains_eq]
  split
  · exact ⟨scribe, rfl, inStep⟩
  split
  · rcases inStep.discard pending with ⟨after, discarding, follows⟩
    rw [discarding]
    cases drafting : draft.discard pending with
    | error failure =>
      rw [drafting] at follows
      exact ⟨after, rfl, follows⟩
    | ok shorter =>
      rw [drafting] at follows
      exact ⟨after, rfl, follows⟩
  · exact ⟨_, rfl, inStep.enter (pending.named name)⟩

/-! ## Settling at once -/

section Depositing

/-- Writing an entry from memory stores it in its form. -/
theorem write_deposited
    [Zstd.Encoder]
    (inStep : scribe.InStep path draft)
    (name : String)
    (data : Octets) :
    Deposited path draft name data (Draft.pack? draft.compression data)
      (scribe.write name data) := by
  rcases inStep.write name data with ⟨after, writing, follows⟩
  rw [writing]
  rw [Draft.write] at follows ⊢
  split at follows
  · next taken =>
    rw [if_pos taken]
    exact .taken taken follows
  next free =>
  rw [if_neg free]
  cases packs : Draft.pack? draft.compression data with
  | none =>
    rw [packs] at follows
    refine .broken .uncompressed ?_ follows
    intro form none
    cases none
  | some form =>
    simp only [packs, if_neg inStep.draftNotSealed] at follows ⊢
    rcases draft.place_cases data form with ⟨placing, fits⟩ | ⟨placing, overflows⟩
    · rw [placing] at follows ⊢
      exact .stored rfl fits (Bool.not_eq_true _ ▸ free) follows
    · rw [placing] at follows ⊢
      refine .broken .tooLarge ?_ follows
      intro other same
      cases same
      exact overflows

variable [Zstd.Packer]

/-- Depositing stores the octets of a reader in their form. -/
theorem deposit
    (inStep : scribe.InStep path draft)
    (reader : Reader)
    (name : String) :
    Deposited path draft name reader.pieces.flatten (form? draft.compression reader)
      (scribe.deposit reader name) := by
  have streamed := inStep.stream reader
  rw [Scribe.deposit]
  cases streaming : scribe.stream reader with
  | mk after outcome =>
    rw [streaming] at streamed
    cases streamed with
    | broken fault reason back => exact .broken fault reason back
    | stored packs fits ahead =>
      rcases ahead.commit _ name with ⟨settled, committing, follows⟩
      simp only
      rw [committing]
      rw [Draft.commit_append inStep.draftUnsealed] at follows ⊢
      split at follows
      · next taken =>
        rw [if_pos taken]
        exact .taken taken follows
      · next free =>
        rw [if_neg free]
        exact .stored packs fits (Bool.not_eq_true _ ▸ free) follows

/-- A visit leaves nothing, whether or not the octets of the reader could be stored. -/
theorem visit
    (inStep : scribe.InStep path draft)
    (reader : Reader) :
    (scribe.visit reader).1.InStep path draft ∧
      ((scribe.visit reader).2 = .ok () ∧ (∃ form, form? draft.compression reader = some form) ∨
        ∃ fault, (scribe.visit reader).2 = .error (.file fault) ∧
          ∀ form, form? draft.compression reader = some form →
            Sink.Overflows draft.image form.1) := by
  have streamed := inStep.stream reader
  rw [Scribe.visit]
  cases streaming : scribe.stream reader with
  | mk after outcome =>
    rw [streaming] at streamed
    cases streamed with
    | broken fault reason back => exact ⟨back, Or.inr ⟨fault, rfl, reason⟩⟩
    | stored packs fits ahead =>
      rcases ahead.discard _ with ⟨settled, discarding, follows⟩
      simp only
      rw [discarding]
      rw [Draft.discard_append inStep.draftUnsealed] at follows ⊢
      exact ⟨follows, Or.inl ⟨rfl, _, packs⟩⟩

end Depositing

/-! ## Finishing -/

/-- A container that a scribe finished is found complete at its path. -/
theorem finish
    (inStep : scribe.InStep path draft)
    (finishing : scribe.finish = (after, .ok ())) :
    after.handle.files.read path = .ok draft.sealedImage ∧
      draft.sealedImage.length ≤ FileSystem.maximalFile := by
  rw [Scribe.finish, if_neg inStep.notSealed] at finishing
  split at finishing
  next files outcome publishing =>
  cases finishing
  rw [publish] at publishing
  simp only at publishing
  split at publishing
  · cases publishing
  next directed writingDirectory =>
  split at publishing
  · cases publishing
  next trailed writingTrailer =>
  split at publishing
  · cases publishing
  next moved moving =>
  cases publishing
  have complete := (inStep.holds.write_all writingDirectory).write_all writingTrailer
  have image :
      draft.image ++ DirectoryEntry.encodeAll scribe.entries ++ Trailer.octets {
          directoryOffset := scribe.offset
          directoryLength := (DirectoryEntry.encodeAll scribe.entries).length
          entryCount := scribe.entries.length
          directoryChecksum := crc32 (DirectoryEntry.encodeAll scribe.entries) } =
        draft.sealedImage := by
    rw [inStep.entries, inStep.offset, List.append_assoc]
    rfl
  rw [image] at complete
  rcases complete.found with ⟨location, stamp, found⟩
  rw [inStep.here] at moving
  rcases FileSystem.find_rename found moving with ⟨place, there⟩
  exact ⟨FileSystem.read_of_find there, complete.size⟩

end InStep

end Scribe

end BuildCapture.Container
