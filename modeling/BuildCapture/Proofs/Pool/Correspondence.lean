import BuildCapture.Proofs.Pool.Storeroom

/-!
# Storerooms and pools

The pools are defined over a workbench, which only tells where an operation
leads; a storeroom tells how its container gets there.  As long as the two are in
step they answer alike.  Where an operation breaks off, the two may name
different faults, since a storeroom may already have met the end of the file
where the workbench still looks at the source.
-/

namespace BuildCapture

open Container

/-- Two failures are of one kind, perhaps with different details. -/
def Failure.SameVariant (left right : Failure) : Prop :=
  left.ctorIdx = right.ctorIdx

namespace Container.Workbench

/-- A workbench gives a name as its draft does. -/
theorem commit_eq
    (bench : Workbench)
    (pending : Pending)
    (name : String) :
    (bench.commit pending name).2 = (bench.writer.draft.commit pending name).2 ∧
      (bench.commit pending name).1.writer =
        { bench.writer with draft := (bench.writer.draft.commit pending name).1 } := by
  rw [commit]
  split
  · next both =>
    have notLate : ¬ (!bench.writer.draft.isLatest pending) = true := by
      rw [both.1]
      exact Bool.false_ne_true
    have taken : bench.writer.draft.contains name = true := both.2
    rw [discard, Draft.commit, if_neg notLate, if_pos taken]
    cases bench.writer.draft.discard pending with
    | error failure => exact ⟨rfl, rfl⟩
    | ok shorter => exact ⟨rfl, rfl⟩
  · exact ⟨rfl, rfl⟩

/-- Octets that a workbench appended last are discarded again. -/
theorem discard_appended
    {bench : Workbench}
    (unsealed : bench.writer.draft.isSealed = false)
    (data : Octets)
    (form : Octets × UInt16) :
    ∃ next,
      (bench.grow (bench.writer.draft.append data form).2).discard
          (bench.writer.draft.append data form).1 = .ok next ∧
        next.writer = bench.writer := by
  refine ⟨(bench.grow (bench.writer.draft.append data form).2).shrink bench.writer.draft, ?_, rfl⟩
  have drafting := Draft.discard_append unsealed data form
  rw [discard]
  simp only [grow] at drafting ⊢
  rw [drafting]

/-- Octets that a workbench appended last get a name, or are discarded if the name is taken. -/
theorem commit_appended
    {bench : Workbench}
    (unsealed : bench.writer.draft.isSealed = false)
    (data : Octets)
    (form : Octets × UInt16)
    (name : String) :
    (bench.writer.draft.contains name = true ∧
        ∃ next,
          (bench.grow (bench.writer.draft.append data form).2).commit
              (bench.writer.draft.append data form).1 name =
            (next, .error (.unsupported .duplicateEntry)) ∧
            next.writer = bench.writer) ∨
      bench.writer.draft.contains name = false ∧
        ∃ next,
          (bench.grow (bench.writer.draft.append data form).2).commit
              (bench.writer.draft.append data form).1 name = (next, .ok ()) ∧
            next.writer =
              { bench.writer with draft := bench.writer.draft.gained name data form } := by
  rcases (bench.grow (bench.writer.draft.append data form).2).commit_eq
      (bench.writer.draft.append data form).1 name with ⟨outcome, writer⟩
  have drafting := Draft.commit_append unsealed data form name
  cases taken : bench.writer.draft.contains name with
  | true =>
    rw [taken, if_pos rfl] at drafting
    refine Or.inl ⟨rfl, _, Prod.ext rfl (outcome.trans (congrArg Prod.snd drafting)), ?_⟩
    exact writer.trans (congrArg (fun draft => { bench.writer with draft })
      (congrArg Prod.fst drafting))
  | false =>
    rw [taken, if_neg Bool.false_ne_true] at drafting
    refine Or.inr ⟨rfl, _, Prod.ext rfl (outcome.trans (congrArg Prod.snd drafting)), ?_⟩
    exact writer.trans (congrArg (fun draft => { bench.writer with draft })
      (congrArg Prod.fst drafting))

end Container.Workbench

namespace Storeroom

/-- A storeroom has the container of a workbench. -/
def Attends (room : Storeroom) (bench : Workbench) : Prop :=
  room.scribe.InStep bench.writer.path bench.writer.draft

/--
A storeroom and a pool answer alike: with the same value, and then the storeroom
has learnt what the pool has and has the same container, or with failures of one
kind, and then it has learnt nothing and its container is the one from before.
-/
inductive Corresponds
    {α Pool : Type}
    (room : Storeroom)
    (bench : Workbench)
    (learn : Pool → Scribe → Storeroom) :
    Storeroom × Except Failure α → Except Failure (α × Pool × Workbench) → Prop
  | ok
    {scribe : Scribe}
    {value : α}
    {pool : Pool}
    {next : Workbench}
    (attends : scribe.InStep next.writer.path next.writer.draft) :
    Corresponds room bench learn (learn pool scribe, .ok value)
      (.ok (value, pool, next))
  | error
    {scribe : Scribe}
    {left right : Failure}
    (same : left.SameVariant right)
    (attends : scribe.InStep bench.writer.path bench.writer.draft) :
    Corresponds room bench learn ({ room with scribe }, .error left) (.error right)

/-- The storeroom with another blob pool and container. -/
def withBlobs
    (room : Storeroom)
    (blobs : BlobPool)
    (scribe : Scribe) :
    Storeroom :=
  { room with blobs, scribe }

/-- The storeroom with another module pool and container. -/
def withModules
    (room : Storeroom)
    (modules : ModulePool)
    (scribe : Scribe) :
    Storeroom :=
  { room with modules, scribe }

section FromMemory

variable
  [Zstd.Encoder]
  {room : Storeroom}
  {bench : Workbench}

/-- Storing octets from memory is what the blob pool does. -/
theorem storeContent_corresponds
    (attends : room.Attends bench)
    (data : Octets) :
    Corresponds room bench room.withBlobs (room.storeContent data)
      (room.blobs.put bench data) := by
  rw [storeContent, BlobPool.put]
  split
  · exact .ok attends
  rcases attends.write (ContentKey.of data).entryName data with ⟨scribe, writing, follows⟩
  rw [writing, Workbench.write]
  cases drafting : bench.writer.draft.write (ContentKey.of data).entryName data with
  | error failure =>
    rw [drafting] at follows
    exact .error rfl follows
  | ok draft =>
    rw [drafting] at follows
    exact .ok follows

/-- Storing a module from memory is what the module pool does. -/
theorem storeModule_corresponds
    (attends : room.Attends bench)
    (image : Octets) :
    Corresponds room bench room.withModules (room.storeModule image)
      (room.modules.putOctets bench image) := by
  rw [storeModule, ModulePool.putOctets]
  cases ModuleInfo.ofOctets image with
  | error fault => exact .error rfl attends
  | ok info =>
    simp only
    cases room.modules.get? info.id with
    | some known => exact .ok attends
    | none =>
      rcases attends.write info.id.entryName image with ⟨scribe, writing, follows⟩
      simp only
      rw [writing, Workbench.write]
      cases drafting : bench.writer.draft.write info.id.entryName image with
      | error failure =>
        rw [drafting] at follows
        exact .error rfl follows
      | ok draft =>
        rw [drafting] at follows
        exact .ok follows

/-- Writing an entry from memory is what a workbench does. -/
theorem serve_entry
    [Zstd.Packer]
    (attends : room.Attends bench)
    {name : String}
    {data : Octets}
    {written : Workbench}
    (writing : bench.write name data = .ok written) :
    ∃ scribe, (room.serve (.entry name data)).1 = { room with scribe } ∧
      scribe.InStep written.writer.path written.writer.draft := by
  rcases attends.write name data with ⟨scribe, scribing, follows⟩
  rw [Workbench.write] at writing
  cases drafting : bench.writer.draft.write name data with
  | error failure =>
    rw [drafting] at writing
    cases writing
  | ok draft =>
    rw [drafting] at writing follows
    cases writing
    refine ⟨scribe, ?_, follows⟩
    rw [serve, scribing]

end FromMemory

variable
  [Zstd.Encoder]
  [Zstd.Packer]
  {room : Storeroom}
  {bench : Workbench}

/--
Depositing what a reader hands out is streaming its source and giving the name at
once: both break off, both find the name taken, or both succeed.
-/
theorem deposit_source
    (agrees : Zstd.Packer.Agrees)
    (attends : room.Attends bench)
    (reader : Reader)
    (name : String) :
    (∃ scribe fault other,
        room.scribe.deposit reader name = (scribe, .error (.file fault)) ∧
          bench.stream reader.source = .error (.file other) ∧
          scribe.InStep bench.writer.path bench.writer.draft) ∨
      ∃ scribe form next,
        bench.stream reader.source =
            .ok ((bench.writer.draft.append reader.pieces.flatten form).1,
              bench.grow (bench.writer.draft.append reader.pieces.flatten form).2) ∧
          (room.scribe.deposit reader name = (scribe, .error (.unsupported .duplicateEntry)) ∧
              (bench.grow (bench.writer.draft.append reader.pieces.flatten form).2).commit
                  (bench.writer.draft.append reader.pieces.flatten form).1 name =
                (next, .error (.unsupported .duplicateEntry)) ∧
              scribe.InStep bench.writer.path bench.writer.draft ∨
            room.scribe.deposit reader name = (scribe, .ok ()) ∧
              (bench.grow (bench.writer.draft.append reader.pieces.flatten form).2).commit
                  (bench.writer.draft.append reader.pieces.flatten form).1 name =
                (next, .ok ()) ∧
              scribe.InStep next.writer.path next.writer.draft) := by
  rw [Scribe.deposit, Workbench.stream]
  rcases attends.stream_source agrees reader with
    ⟨scribe, form, streaming, drafting, ahead⟩ | ⟨scribe, fault, other, streaming, drafting, back⟩
  · rcases ahead.commit _ name with ⟨settled, committing, follows⟩
    rw [Draft.commit_append attends.draftUnsealed] at committing follows
    rw [streaming, drafting]
    refine Or.inr ⟨settled, form, ?_⟩
    rcases Workbench.commit_appended attends.draftUnsealed reader.pieces.flatten form name with
      ⟨taken, next, committed, writer⟩ | ⟨free, next, committed, writer⟩
    · rw [taken, if_pos rfl] at committing follows
      refine ⟨next, rfl, Or.inl ⟨committing, committed, follows⟩⟩
    · rw [free, if_neg Bool.false_ne_true] at committing follows
      refine ⟨next, rfl, Or.inr ⟨committing, committed, ?_⟩⟩
      rw [writer]
      exact follows
  · rw [streaming, drafting]
    exact Or.inl ⟨scribe, fault, other, rfl, rfl, back⟩

/-- Visiting with what a reader hands out is streaming its source and discarding it at once. -/
theorem visit_source
    (agrees : Zstd.Packer.Agrees)
    (attends : room.Attends bench)
    (reader : Reader) :
    (∃ scribe fault other,
        room.scribe.visit reader = (scribe, .error (.file fault)) ∧
          bench.stream reader.source = .error (.file other) ∧
          scribe.InStep bench.writer.path bench.writer.draft) ∨
      ∃ scribe form next,
        bench.stream reader.source =
            .ok ((bench.writer.draft.append reader.pieces.flatten form).1,
              bench.grow (bench.writer.draft.append reader.pieces.flatten form).2) ∧
          room.scribe.visit reader = (scribe, .ok ()) ∧
          (bench.grow (bench.writer.draft.append reader.pieces.flatten form).2).discard
              (bench.writer.draft.append reader.pieces.flatten form).1 = .ok next ∧
          scribe.InStep next.writer.path next.writer.draft := by
  rw [Scribe.visit, Workbench.stream]
  rcases attends.stream_source agrees reader with
    ⟨scribe, form, streaming, drafting, ahead⟩ | ⟨scribe, fault, other, streaming, drafting, back⟩
  · rcases ahead.discard _ with ⟨settled, discarding, follows⟩
    rcases Workbench.discard_appended attends.draftUnsealed reader.pieces.flatten form with
      ⟨next, discarded, writer⟩
    rw [Draft.discard_append attends.draftUnsealed] at discarding follows
    rw [streaming, drafting]
    refine Or.inr ⟨settled, form, next, rfl, discarding, discarded, ?_⟩
    rw [writer]
    exact follows
  · rw [streaming, drafting]
    exact Or.inl ⟨scribe, fault, other, rfl, rfl, back⟩

/-- Storing what a reader hands out is what the blob pool does with its source. -/
theorem storeReader_corresponds
    (agrees : Zstd.Packer.Agrees)
    (attends : room.Attends bench)
    (reader : Reader) :
    Corresponds room bench room.withBlobs (room.storeReader reader)
      (room.blobs.putSource bench reader.source) := by
  have keyed (form : Octets × UInt16) :
      ContentKey.mk (bench.writer.draft.append reader.pieces.flatten form).1.digest =
        .of reader.pieces.flatten := rfl
  rw [storeReader_eq, BlobPool.putSource]
  split
  · next known =>
    rcases visit_source agrees attends reader with
      ⟨scribe, fault, other, visiting, streaming, back⟩ |
        ⟨scribe, form, next, streaming, visiting, discarding, ahead⟩
    · rw [visiting, streaming]
      exact .error rfl back
    · rw [visiting, streaming]
      simp only
      rw [keyed, if_pos known, discarding]
      exact .ok ahead
  · next unknown =>
    rcases deposit_source agrees attends reader
        (ContentKey.of reader.pieces.flatten).entryName with
      ⟨scribe, fault, other, depositing, streaming, back⟩ |
        ⟨scribe, form, next, streaming,
          ⟨depositing, committing, back⟩ | ⟨depositing, committing, ahead⟩⟩
    · rw [depositing, streaming]
      exact .error rfl back
    · rw [depositing, streaming]
      simp only
      rw [keyed, if_neg unknown, committing]
      exact .error rfl back
    · rw [depositing, streaming]
      simp only
      rw [keyed, if_neg unknown, committing]
      exact .ok ahead

omit [Zstd.Encoder] [Zstd.Packer] in
/-- Failures of one kind are blamed on a path alike. -/
theorem blame_sameVariant
    {left right : Failure}
    (same : left.SameVariant right)
    (source : Source)
    (place : String) :
    (BlobPool.blame source place left).SameVariant (BlobPool.blame source place right) := by
  cases left <;> cases right <;> cases same <;> cases fault : source.fault <;>
    simp only [BlobPool.blame, fault] <;> rfl

/-- Storing the file at a path is what the blob pool does with the path, however it is cut. -/
theorem storeFile_corresponds
    (agrees : Zstd.Packer.Agrees)
    (attends : room.Attends bench)
    {place : String}
    {opened : Except FileFault Reader}
    (shows : bench.files.openSource place = opened.map Reader.source) :
    Corresponds room bench room.withBlobs (room.storeFile place opened)
      (room.blobs.putFile bench place) := by
  rw [BlobPool.putFile, shows]
  cases opened with
  | error fault => exact .error rfl attends
  | ok reader =>
    have corresponds := storeReader_corresponds agrees attends reader
    rw [storeFile]
    simp only [Except.map]
    cases storing : room.storeReader reader with
    | mk after outcome =>
      cases putting : room.blobs.putSource bench reader.source with
      | error failure =>
        rw [storing, putting] at corresponds
        cases corresponds with
        | error same back => exact .error (blame_sameVariant same reader.source place) back
      | ok stored =>
        rw [storing, putting] at corresponds
        cases corresponds with
        | ok ahead => exact .ok ahead

/-- Storing the module at a path is what the module pool does with the path, however it is cut. -/
theorem storeModuleFile_corresponds
    (agrees : Zstd.Packer.Agrees)
    (attends : room.Attends bench)
    {place : String}
    {opened : Except FileFault Reader}
    (shows : bench.files.openSource place = opened.map Reader.source) :
    Corresponds room bench room.withModules (room.storeModuleFile place opened)
      (room.modules.putFile bench place) := by
  rw [ModulePool.putFile, shows]
  cases opened with
  | error fault => exact .error rfl attends
  | ok reader =>
    rw [storeModuleFile]
    simp only [Except.map]
    cases ModuleInfo.ofSource reader.source with
    | error fault => exact .error rfl attends
    | ok found =>
      rcases found with ⟨info, body⟩
      simp only
      cases room.modules.get? info.id with
      | some known => exact .ok attends
      | none =>
        simp only
        rw [ModulePool.putSource]
        rcases deposit_source agrees attends reader info.id.entryName with
          ⟨scribe, fault, other, depositing, streaming, back⟩ |
            ⟨scribe, form, next, streaming,
              ⟨depositing, committing, back⟩ | ⟨depositing, committing, ahead⟩⟩
        · rw [depositing, streaming]
          have same : (Failure.file fault).SameVariant (.file other) := rfl
          exact .error (blame_sameVariant same reader.source place) back
        · rw [depositing, streaming]
          simp only
          rw [committing]
          exact .error (blame_sameVariant rfl reader.source place) back
        · rw [depositing, streaming]
          simp only
          rw [committing]
          exact .ok ahead

end Storeroom

end BuildCapture
