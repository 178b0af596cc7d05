import BuildCapture.Proofs.Archive.Inputs
import BuildCapture.Proofs.Pool.Twins

/-!
# Recorders with and without memory

One recorder remembers what it read from a path, the other one reads every
input again.  They are abreast if they have written the same, and if whatever
the first one remembers is what the second one would find: opening the path
again yields the source of then as long as the path has the fingerprint of then.
-/

namespace BuildCapture

open Container

/-! ## Fingerprints -/

namespace FileSystem

/-- A path has another fingerprint whenever opening it yields something else. -/
def TellsApart (before after : FileSystem) : Prop :=
  ∀ path fingerprint, before.stat path = .ok fingerprint → after.stat path = .ok fingerprint →
    after.openSource path = before.openSource path

theorem stat_of_find
    {files : FileSystem}
    {path : String}
    {location : Location}
    {node : Node}
    (finding : files.find (.ofPath path) = .ok (location, node)) :
    files.stat path = .ok node.fingerprint := by
  rw [stat, finding]
  rfl

/-- Where every stamp is new, fingerprints tell files apart. -/
theorem tellsApart_of_ages
    {before after : FileSystem}
    (sane : before.Sane)
    (saneAfter : after.Sane)
    (ages : before.Ages after) :
    before.TellsApart after := by
  intro path fingerprint found foundAfter
  rcases find_of_stat found with ⟨location, node, finding, shown⟩
  rcases find_of_stat foundAfter with ⟨place, other, findingAfter, shownAfter⟩
  cases node with
  | directory =>
    cases other with
    | directory => rw [openSource_of_find finding, openSource_of_find findingAfter]
    | file identity stamp content flaw =>
      have zero : stamp = 0 := congrArg Fingerprint.stamp (shownAfter.trans shown.symm)
      have positive := (saneAfter.stamped (hasFile_of_find findingAfter)).1
      exact absurd zero (Nat.ne_of_gt positive)
  | file identity stamp content flaw =>
    have there := hasFile_of_find finding
    cases other with
    | directory =>
      have zero : stamp = 0 := congrArg Fingerprint.stamp (shown.trans shownAfter.symm)
      exact absurd zero (Nat.ne_of_gt (sane.stamped there).1)
    | file otherIdentity otherStamp otherContent otherFlaw =>
      rw [← shown, Node.fingerprint, Node.fingerprint, Fingerprint.mk.injEq] at shownAfter
      rcases shownAfter with ⟨rfl, rfl, -⟩
      have before := ages.settled (hasFile_of_find findingAfter) (sane.stamped there).2
      rcases sane.single there before with ⟨-, rfl, rfl⟩
      rw [openSource_of_find finding, openSource_of_find findingAfter]

end FileSystem

/-! ## What is remembered -/

namespace Recorder

variable
  {recorder : Recorder}
  {path : String}
  {fingerprint : Fingerprint}

/-- What is known of a path is remembered with the fingerprint that was asked for. -/
theorem mem_of_known?
    {identity : InputIdentity}
    (known : recorder.known? path fingerprint = some identity) :
    (path, ⟨fingerprint, identity⟩) ∈ recorder.inputs := by
  rw [known?] at known
  split at known
  · cases known
  next input lookup =>
  split at known
  · next same =>
    cases known
    rcases List.lookup_eq_some_iff.1 lookup with ⟨newer, older, inputs, -⟩
    rw [inputs, ← same]
    exact List.mem_append_right newer List.mem_cons_self
  · cases known

/-- What is known of a path as a content is remembered as one. -/
theorem known?_of_knownContent?
    {key : ContentKey}
    (known : recorder.knownContent? path fingerprint = some key) :
    recorder.known? path fingerprint = some (.content key) := by
  rw [knownContent?] at known
  split at known
  · next other same =>
    cases known
    exact same
  · cases known

/-- What is known of a path as a module is remembered as one. -/
theorem known?_of_knownModule?
    {info : ModuleInfo}
    (known : recorder.knownModule? path fingerprint = some info) :
    recorder.known? path fingerprint = some (.module info) := by
  rw [knownModule?] at known
  split at known
  · next other same =>
    cases known
    exact same
  · cases known

end Recorder

variable [Zstd.Encoder]

/-- What an input turned out to be is what storing this source would yield. -/
def InputIdentity.Answers
    (compression : CompressionConfig)
    (blobs : BlobPool)
    (modules : ModulePool)
    (source : Source) : InputIdentity → Prop
  | .content key =>
    ∃ data, source = .ofOctets data ∧ key = .of data ∧ blobs.contains key = true ∧
      (Draft.packStream? compression data).isSome = true
  | .module info =>
    ∃ found, ModuleInfo.ofOctets source.data = .ok found ∧ modules.get? found.id = some info

/-- Pools that grow still answer what was remembered. -/
theorem InputIdentity.Answers.grows
    {compression : CompressionConfig}
    {blobs moreBlobs : BlobPool}
    {modules moreModules : ModulePool}
    {source : Source}
    {identity : InputIdentity}
    (answers : identity.Answers compression blobs modules source)
    (keys : ∀ {key}, blobs.contains key = true → moreBlobs.contains key = true)
    (infos : ∀ {id info}, modules.get? id = some info → moreModules.get? id = some info) :
    identity.Answers compression moreBlobs moreModules source := by
  cases identity with
  | content key =>
    rcases answers with ⟨data, whole, keyed, known, packs⟩
    exact ⟨data, whole, keyed, keys known, packs⟩
  | module info =>
    rcases answers with ⟨found, described, known⟩
    exact ⟨found, described, infos known⟩

/--
What is remembered of a path was opened there at some time, and is opened there
now unless the path has another fingerprint.
-/
structure KnownInput.Lasts
    (input : KnownInput)
    (path : String)
    (past : List FileSystem)
    (files : FileSystem)
    (source : Source) : Prop where
  seen : ∃ before ∈ past,
    before.stat path = .ok input.fingerprint ∧ before.openSource path = .ok source
  still : files.stat path = .ok input.fingerprint → files.openSource path = .ok source
  recent : input.fingerprint.stamp < files.clock

namespace KnownInput.Lasts

omit [Zstd.Encoder]

variable
  {input : KnownInput}
  {path : String}
  {past : List FileSystem}
  {files after : FileSystem}
  {source : Source}

/-- The files may change in any way that fingerprints tell. -/
theorem elapse
    (lasts : input.Lasts path past files source)
    (clock : files.clock ≤ after.clock)
    (tells : ∀ before ∈ past, before.TellsApart after) :
    input.Lasts path past after source where
  seen := lasts.seen
  still found := by
    rcases lasts.seen with ⟨before, member, foundBefore, opened⟩
    rw [tells before member path _ foundBefore found, opened]
  recent := Nat.lt_of_lt_of_le lasts.recent clock

/-- A file that is rewritten gets a new stamp. -/
theorem rewrites
    {own : Nat}
    (lasts : input.Lasts path past files source)
    (rewrites : files.Rewrites own after) :
    input.Lasts path past after source where
  seen := lasts.seen
  still found := by
    rcases FileSystem.find_of_stat found with ⟨location, node, finding, shown⟩
    have old : node.fingerprint.stamp < files.clock := by
      rw [shown]
      exact lasts.recent
    have before := rewrites.find_of_old finding old
    rw [FileSystem.openSource_of_find finding, ← FileSystem.openSource_of_find before]
    exact lasts.still (shown ▸ FileSystem.stat_of_find before)
  recent := Nat.lt_of_lt_of_le lasts.recent rewrites.clock

theorem mono
    (lasts : input.Lasts path past files source)
    (earlier : FileSystem) :
    input.Lasts path (earlier :: past) files source where
  seen := by
    rcases lasts.seen with ⟨before, member, facts⟩
    exact ⟨before, List.mem_cons_of_mem _ member, facts⟩
  still := lasts.still
  recent := lasts.recent

/-- What was just opened is remembered, whatever has been written to another file since. -/
theorem of_opened
    {own : Nat}
    {before : FileSystem}
    {fingerprint : Fingerprint}
    (identity : InputIdentity)
    (sane : before.Sane)
    (now : before ∈ past)
    (found : before.stat path = .ok fingerprint)
    (opened : before.openSource path = .ok source)
    (rewrites : before.Rewrites own after) :
    (⟨fingerprint, identity⟩ : KnownInput).Lasts path past after source := by
  have present : (⟨fingerprint, identity⟩ : KnownInput).Lasts path past before source :=
    ⟨⟨before, now, found, opened⟩, fun _ => opened, sane.stamp_lt found⟩
  exact present.rewrites rewrites

end KnownInput.Lasts

/-! ## Recorders -/

/-- The recording after its recorder has forgotten what it read. -/
def Recording.forget
    (recording : Recording) :
    Recording :=
  { recording with recorder := { recording.recorder with inputs := [] } }

/-- A recorder that remembers and one that does not record alike. -/
structure Recording.Abreast
    (path : String)
    (config : WriterConfig)
    (own : Nat)
    (past : List FileSystem)
    (left right : Recording)
    (writer other : Writer) : Prop where
  records : left.recorder.state = .recording writer
  same : right.recorder = { left.recorder with state := .recording other, inputs := [] }
  twins : (⟨left.files, writer⟩ : Workbench).Twins ⟨right.files, other⟩
  path : writer.path = path
  identity : writer.identity = own
  settings : writer.draft.settings = (config.compression, false)
  sane : left.files.Sane
  lasts : ∀ input ∈ left.recorder.inputs, ∃ source,
    input.2.Lasts input.1 past left.files source ∧
    input.2.identity.Answers config.compression left.recorder.blobs left.recorder.modules source

/-- Both recorders have ended alike. -/
structure Recording.Ended
    (own : Nat)
    (left right : Recording) : Prop where
  spent : left.Spent
  same : right.recorder = left.recorder
  files : left.files.Twins own right.files

/-- Both recorders record, or both have ended. -/
def Recording.Alongside
    (path : String)
    (config : WriterConfig)
    (own : Nat)
    (past : List FileSystem)
    (left right : Recording) :
    Prop :=
  (∃ writer other, left.Abreast path config own past right writer other) ∨ left.Ended own right

/-- A recorder has given up since its file would have become longer than a file can be. -/
def Recording.Outgrown
    (recording : Recording) :
    Prop :=
  recording.recorder.state = .aborted (Failure.file .tooLarge).message

/-- Two outcomes concur, unless the second recorder had no room for what it stores once more. -/
def Recording.Concur
    {α : Type}
    (path : String)
    (config : WriterConfig)
    (own : Nat)
    (past : List FileSystem)
    (left right : Recording × α) :
    Prop :=
  right.1.Outgrown ∨ left.2 = right.2 ∧ left.1.Alongside path config own past right.1

namespace Recording

variable
  {path : String}
  {config : WriterConfig}
  {own : Nat}
  {past : List FileSystem}
  {left right : Recording}

/-! ## Forgetting -/

omit [Zstd.Encoder] in
/-- An input that is not there leaves a recorder alone. -/
theorem storing_of_missing
    {α β : Type}
    {recording : Recording}
    {bench : Workbench}
    (records : recording.bench = .ok bench)
    {store : Workbench → Except Failure (α × β × Workbench)}
    {input : String}
    {fault : FileFault}
    (missing : store bench = .error (.inputUnreadable input fault))
    (keep : β → Workbench → Recording) :
    recording.storing store keep = (recording, .error (.inputUnreadable input fault)) := by
  have ofInput : (Failure.inputUnreadable input fault).isInvocationScoped = true := rfl
  simp only [storing, records, missing, fail, ofInput, if_true]

omit [Zstd.Encoder] in
/-- A recorder that remembers nothing stores every input, and forgets it again. -/
theorem forget_recalling
    {α β : Type}
    {recording : Recording}
    {bench : Workbench}
    (records : recording.bench = .ok bench)
    (nothing : recording.recorder.inputs = [])
    {input : String}
    {known? : Fingerprint → Option α}
    (unknown : ∀ fingerprint, known? fingerprint = none)
    {store : Workbench → Except Failure (α × β × Workbench)}
    (missing : ∀ fault, recording.files.stat input = .error fault →
      store bench = .error (.inputUnreadable input fault))
    {keep : β → Workbench → Recording}
    (keeps : ∀ pool after, (keep pool after).recorder.inputs = [])
    (identity : α → InputIdentity) :
    ((recording.recalling input known? (recording.storing store keep) identity).1.forget,
        (recording.recalling input known? (recording.storing store keep) identity).2) =
      recording.storing store keep := by
  have forgetful :
      ∀ {other : Recording}, other.recorder.inputs = [] → other.forget = other := by
    intro other empty
    rw [forget, ← empty]
  rw [recalling]
  cases stating : recording.files.stat input with
  | error fault =>
    rw [storing_of_missing records (missing fault stating) keep]
    simp only [forgetful nothing]
  | ok fingerprint =>
    simp only [unknown]
    cases result : recording.storing store keep with
    | mk left outcome =>
      cases outcome with
      | error failure =>
        simp only
        rcases storing_error result with rfl | spent
        · rw [forgetful nothing]
        · rw [forgetful spent.inputs]
      | ok found =>
        simp only
        rcases storing_ok result with ⟨_, pool, after, -, -, rfl⟩
        have same : ((keep pool after).remember input fingerprint (identity found)).forget =
            (keep pool after).forget := rfl
        rw [same, forgetful (keeps pool after)]

omit [Zstd.Encoder] in
/-- A recorder writes to the file system that it reads from. -/
theorem bench_files
    {recording : Recording}
    {bench : Workbench}
    (records : recording.bench = .ok bench) :
    recording.files = bench.files := by
  rw [Recording.bench] at records
  split at records
  · cases records
  · cases records
    rfl

theorem forget_contentKey
    {recording : Recording}
    {bench : Workbench}
    (records : recording.bench = .ok bench)
    (nothing : recording.recorder.inputs = [])
    (input : String) :
    ((recording.contentKey input).1.forget, (recording.contentKey input).2) =
      recording.storeContent input := by
  rw [contentKey_eq, storeContent_eq]
  apply forget_recalling records nothing
  case unknown =>
    intro fingerprint
    rw [Recorder.knownContent?, Recorder.known?_of_nil nothing]
  case missing =>
    intro fault missing
    rw [bench_files records] at missing
    simp only [BlobPool.putFile, FileSystem.openSource_of_stat_error missing]
  case keeps => exact fun pool after => nothing

theorem forget_moduleInfo
    {recording : Recording}
    {bench : Workbench}
    (records : recording.bench = .ok bench)
    (nothing : recording.recorder.inputs = [])
    (input : String) :
    ((recording.moduleInfo input).1.forget, (recording.moduleInfo input).2) =
      recording.storeModule input := by
  rw [moduleInfo_eq, storeModule_eq]
  apply forget_recalling records nothing
  case unknown =>
    intro fingerprint
    rw [Recorder.knownModule?, Recorder.known?_of_nil nothing]
  case missing =>
    intro fault missing
    rw [bench_files records] at missing
    simp only [ModulePool.putFile, FileSystem.openSource_of_stat_error missing]
  case keeps => exact fun pool after => nothing

/-! ## Recorders that are abreast -/

namespace Abreast

variable
  {path : String}
  {config : WriterConfig}
  {own : Nat}
  {past : List FileSystem}
  {left right : Recording}
  {writer other : Writer}

theorem bench
    (abreast : left.Abreast path config own past right writer other) :
    left.bench = .ok ⟨left.files, writer⟩ := by
  simp only [Recording.bench, Recorder.writer, abreast.records]

theorem benchToo
    (abreast : left.Abreast path config own past right writer other) :
    right.bench = .ok ⟨right.files, other⟩ := by
  simp only [Recording.bench, Recorder.writer, abreast.same]

theorem abort
    (abreast : left.Abreast path config own past right writer other)
    (failure : Failure) :
    (left.abort failure).Ended own (right.abort failure) where
  spent := abort_spent abreast.bench failure
  same := by simp only [Recording.abort, abreast.bench, abreast.benchToo, abreast.same]
  files := by
    simp only [Recording.abort, abreast.bench, abreast.benchToo, ← abreast.identity]
    exact abreast.twins.abandon

/-- Both recorders go on, or both give up. -/
theorem fail
    {α : Type}
    (abreast : left.Abreast path config own past right writer other)
    (failure : Failure) :
    Concur path config own past (left.fail failure : Recording × Except Failure α)
      (right.fail failure) := by
  unfold Recording.fail
  right
  split
  · exact ⟨rfl, Or.inl ⟨writer, other, abreast⟩⟩
  · exact ⟨rfl, Or.inr (abreast.abort failure)⟩

/-- Where storing fails, nothing is remembered. -/
theorem fail_recalling
    {α : Type}
    (abreast : left.Abreast path config own past right writer other)
    (failure : Failure)
    (noting : Recording → α → Recording) :
    Concur path config own past
      (match (left.fail failure : Recording × Except Failure α) with
        | (after, .error failure) => (after, (.error failure : Except Failure α))
        | (after, .ok found) => (noting after found, .ok found))
      (right.fail failure) := by
  have failing := abreast.fail (α := α) failure
  rcases result : (left.fail failure : Recording × Except Failure α) with ⟨after, outcome⟩
  rcases fail_cases result with ⟨rfl, -⟩
  rw [result] at failing
  exact failing

/-- Both recorders have written the same, and their pools have grown. -/
theorem advance
    (abreast : left.Abreast path config own past right writer other)
    {after otherAfter : Workbench}
    (rewrites : (⟨left.files, writer⟩ : Workbench).Rewrites after)
    (twins : after.Twins otherAfter)
    (recorder : Recorder)
    (inputs : recorder.inputs = left.recorder.inputs)
    (keys : ∀ {key}, left.recorder.blobs.contains key = true → recorder.blobs.contains key = true)
    (infos : ∀ {id info}, left.recorder.modules.get? id = some info →
      recorder.modules.get? id = some info) :
    (⟨after.files, { recorder with state := .recording after.writer }⟩ : Recording).Abreast
      path config own past
      ⟨otherAfter.files, { recorder with state := .recording otherAfter.writer, inputs := [] }⟩
      after.writer otherAfter.writer where
  records := rfl
  same := rfl
  twins := twins
  path := rewrites.path.trans abreast.path
  identity := rewrites.identity.trans abreast.identity
  settings := rewrites.settings.trans abreast.settings
  sane := rewrites.sane abreast.sane
  lasts := by
    intro input member
    rw [inputs] at member
    rcases abreast.lasts input member with ⟨source, lasts, answers⟩
    exact ⟨source, lasts.rewrites rewrites.files, answers.grows keys infos⟩

/-- Something more may be remembered if it is what is read now. -/
theorem remember
    (abreast : left.Abreast path config own past right writer other)
    {input : String}
    {fingerprint : Fingerprint}
    {identity : InputIdentity}
    {source : Source}
    (lasts : (⟨fingerprint, identity⟩ : KnownInput).Lasts input past left.files source)
    (answers :
      identity.Answers config.compression left.recorder.blobs left.recorder.modules source) :
    (left.remember input fingerprint identity).Abreast path config own past right writer other :=
  { abreast with
    lasts := by
      intro known member
      rcases List.mem_cons.1 member with rfl | earlier
      · exact ⟨source, lasts, answers⟩
      · exact abreast.lasts known (List.mem_filter.1 earlier).1 }

/-- Both recorders store alike, or fail alike. -/
theorem storing
    {α β : Type}
    (abreast : left.Abreast path config own past right writer other)
    (store : Workbench → Except Failure (α × β × Workbench))
    (agree : Agree StoredAlike (store ⟨left.files, writer⟩) (store ⟨right.files, other⟩))
    (keep keepToo : β → Workbench → Recording) :
    (∃ failure, left.storing store keep = left.fail failure ∧
        right.storing store keepToo = right.fail failure) ∨
      ∃ found pool after otherAfter,
        store ⟨left.files, writer⟩ = .ok (found, pool, after) ∧ after.Twins otherAfter ∧
        left.storing store keep = (keep pool after, .ok found) ∧
        right.storing store keepToo = (keepToo pool otherAfter, .ok found) := by
  simp only [Recording.storing, abreast.bench, abreast.benchToo]
  generalize store ⟨left.files, writer⟩ = here at agree ⊢
  generalize store ⟨right.files, other⟩ = there at agree ⊢
  cases agree with
  | error failure => exact Or.inl ⟨failure, rfl, rfl⟩
  | @ok here there same =>
    rcases here with ⟨found, pool, after⟩
    rcases there with ⟨_, _, otherAfter⟩
    rcases same with ⟨rfl, rfl, twins⟩
    exact Or.inr ⟨found, pool, after, otherAfter, rfl, twins, rfl, rfl⟩

/-- What is remembered of a path answers for the source that it has now. -/
theorem answers_of_known?
    (abreast : left.Abreast path config own past right writer other)
    {input : String}
    {fingerprint : Fingerprint}
    (found : left.files.stat input = .ok fingerprint)
    {identity : InputIdentity}
    (known : left.recorder.known? input fingerprint = some identity) :
    ∃ source, right.files.openSource input = .ok source ∧
      identity.Answers config.compression left.recorder.blobs left.recorder.modules source := by
  rcases abreast.lasts _ (Recorder.mem_of_known? known) with ⟨source, lasts, answers⟩
  refine ⟨source, ?_, answers⟩
  have opened := lasts.still found
  rw [abreast.twins.openSource_eq input] at opened
  exact opened

/-- Storing the same content once more leaves both recorders abreast. -/
theorem withBlobs
    (abreast : left.Abreast path config own past right writer other)
    {after otherAfter : Workbench}
    (rewrites : (⟨left.files, writer⟩ : Workbench).Rewrites after)
    (twins : after.Twins otherAfter)
    {pool : BlobPool}
    (keys : ∀ {key}, left.recorder.blobs.contains key = true → pool.contains key = true) :
    (left.withBlobs pool after).Abreast path config own past (right.withBlobs pool otherAfter)
      after.writer otherAfter.writer := by
  have advanced :=
    abreast.advance rewrites twins { left.recorder with blobs := pool } rfl keys id
  have same :
      right.withBlobs pool otherAfter =
        ⟨otherAfter.files, { left.recorder with
          blobs := pool, state := .recording otherAfter.writer, inputs := [] }⟩ := by
    rw [Recording.withBlobs, withBench, abreast.same]
  rw [same]
  exact advanced

theorem withModules
    (abreast : left.Abreast path config own past right writer other)
    {after otherAfter : Workbench}
    (rewrites : (⟨left.files, writer⟩ : Workbench).Rewrites after)
    (twins : after.Twins otherAfter)
    {pool : ModulePool}
    (infos : ∀ {id info}, left.recorder.modules.get? id = some info →
      pool.get? id = some info) :
    (left.withModules pool after).Abreast path config own past (right.withModules pool otherAfter)
      after.writer otherAfter.writer := by
  have advanced :=
    abreast.advance rewrites twins { left.recorder with modules := pool } rfl id infos
  have same :
      right.withModules pool otherAfter =
        ⟨otherAfter.files, { left.recorder with
          modules := pool, state := .recording otherAfter.writer, inputs := [] }⟩ := by
    rw [Recording.withModules, withBench, abreast.same]
  rw [same]
  exact advanced

/-! ## Storing inputs -/

/-- A text is stored alike. -/
theorem storeText
    (abreast : left.Abreast path config own past right writer other)
    (data : Octets) :
    Concur path config own past (left.storeText data) (right.storeText data) := by
  have blobs : right.recorder.blobs = left.recorder.blobs := by rw [abreast.same]
  have agree := BlobPool.put_twins abreast.twins left.recorder.blobs data
  rw [storeText_eq, storeText_eq, blobs]
  rcases abreast.storing (left.recorder.blobs.put · data) agree left.withBlobs right.withBlobs with
    ⟨failure, here, there⟩ | ⟨key, pool, after, otherAfter, putting, twins, here, there⟩
  · rw [here, there]
    exact abreast.fail failure
  · rw [here, there]
    have takes := (BlobPool.takes_of_put putting).2
    exact Or.inr ⟨rfl, Or.inl ⟨_, _,
      abreast.withBlobs (BlobPool.rewrites_put putting) twins takes.grows⟩⟩

/-- Storing a content again that is remembered changes nothing, unless there is no room for it. -/
theorem storeContent_again
    (abreast : left.Abreast path config own past right writer other)
    {input : String}
    {data : Octets}
    (opened : right.files.openSource input = .ok (.ofOctets data))
    (known : left.recorder.blobs.contains (.of data) = true)
    (packs : (Draft.packStream? config.compression data).isSome = true) :
    Concur path config own past (left, (.ok (.of data) : Except Failure ContentKey))
      (right.storeContent input) := by
  have settings : other.draft.settings = (config.compression, false) := by
    rw [← abreast.settings]
    exact congrArg Draft.settings abreast.twins.draft
  rw [Draft.settings, Prod.mk.injEq] at settings
  rcases settings with ⟨compression, unsealed⟩
  have bench := abreast.benchToo
  rw [← compression] at packs
  have blobs : right.recorder.blobs = left.recorder.blobs := by rw [abreast.same]
  have again :
      left.recorder.blobs.putFile ⟨right.files, other⟩ input = .error (.file .tooLarge) ∨
        ∃ after, left.recorder.blobs.putFile ⟨right.files, other⟩ input =
            .ok (.of data, left.recorder.blobs, after) ∧
          (⟨right.files, other⟩ : Workbench).Rewrites after ∧ after.writer.draft = other.draft :=
    BlobPool.putFile_again opened known unsealed packs
  rcases again with full | ⟨after, stored, rewrites, draft⟩
  · left
    have archive : (Failure.file .tooLarge).isInvocationScoped = false := rfl
    simp only [Outgrown, storeContent, bench, blobs, full, Recording.fail, archive,
      Recording.abort, Bool.false_eq_true, if_false]
  · right
    have storing :
        right.storeContent input =
          (right.withBlobs left.recorder.blobs after, .ok (.of data)) := by
      simp only [storeContent, bench, blobs, stored]
    have twins : (⟨left.files, writer⟩ : Workbench).Twins after :=
      abreast.twins.rewrite (.refl _) rewrites (draft.trans abreast.twins.draft)
    have kept := abreast.withBlobs (.refl _) twins id
    have unchanged : left.withBlobs left.recorder.blobs ⟨left.files, writer⟩ = left := by
      rw [Recording.withBlobs, withBench, ← abreast.records]
    rw [unchanged] at kept
    rw [storing]
    exact ⟨rfl, Or.inl ⟨_, _, kept⟩⟩

/-- The key that is remembered of a path is the one that storing its content again yields. -/
theorem contentKey
    (abreast : left.Abreast path config own past right writer other)
    (now : left.files ∈ past)
    (input : String) :
    Concur path config own past (left.contentKey input) (right.storeContent input) := by
  have blobs : right.recorder.blobs = left.recorder.blobs := by rw [abreast.same]
  have agree := BlobPool.putFile_twins abreast.twins left.recorder.blobs input
  rw [contentKey_eq, recalling]
  cases found : left.files.stat input with
  | error fault =>
    have missing :
        right.recorder.blobs.putFile ⟨right.files, other⟩ input =
          .error (.inputUnreadable input fault) := by
      have opened := FileSystem.openSource_of_stat_error found
      rw [abreast.twins.openSource_eq input] at opened
      simp only [BlobPool.putFile, opened]
    rw [storeContent_eq, storing_of_missing abreast.benchToo missing]
    exact Or.inr ⟨rfl, Or.inl ⟨_, _, abreast⟩⟩
  | ok fingerprint =>
    simp only
    cases known : left.recorder.knownContent? input fingerprint with
    | some key =>
      rcases abreast.answers_of_known? found (Recorder.known?_of_knownContent? known) with
        ⟨_, opened, data, rfl, rfl, stored, packs⟩
      exact abreast.storeContent_again opened stored packs
    | none =>
      rw [storeContent_eq, blobs]
      rcases
          abreast.storing (left.recorder.blobs.putFile · input) agree left.withBlobs
            right.withBlobs with
        ⟨failure, here, there⟩ | ⟨key, pool, after, otherAfter, putting, twins, here, there⟩
      · rw [here, there]
        exact abreast.fail_recalling failure _
      · rw [here, there]
        rcases BlobPool.takes_of_putFile putting with ⟨data, reading, rfl, takes⟩
        have opened := FileSystem.openSource_of_read reading
        have rewrites := BlobPool.rewrites_putFile putting
        have packs := BlobPool.packs_of_putFile putting opened
        have stored := abreast.withBlobs rewrites twins takes.grows
        have lasts :=
          KnownInput.Lasts.of_opened (.content (.of data)) abreast.sane now found opened
            rewrites.files
        have compression := congrArg Prod.fst abreast.settings
        simp only [Draft.settings] at compression
        rw [compression] at packs
        exact Or.inr ⟨rfl, Or.inl ⟨_, _,
          stored.remember lasts ⟨data, rfl, rfl, takes.known, packs⟩⟩⟩

/-- The description that is remembered of a path is the one that storing its module again yields. -/
theorem moduleInfo
    (abreast : left.Abreast path config own past right writer other)
    (now : left.files ∈ past)
    (input : String) :
    Concur path config own past (left.moduleInfo input) (right.storeModule input) := by
  have modules : right.recorder.modules = left.recorder.modules := by rw [abreast.same]
  have agree := ModulePool.putFile_twins abreast.twins left.recorder.modules input
  rw [moduleInfo_eq, storeModule_eq, modules, recalling]
  cases found : left.files.stat input with
  | error fault =>
    have missing :
        left.recorder.modules.putFile ⟨right.files, other⟩ input =
          .error (.inputUnreadable input fault) := by
      have opened := FileSystem.openSource_of_stat_error found
      rw [abreast.twins.openSource_eq input] at opened
      simp only [ModulePool.putFile, opened]
    rw [storing_of_missing abreast.benchToo missing]
    exact Or.inr ⟨rfl, Or.inl ⟨_, _, abreast⟩⟩
  | ok fingerprint =>
    simp only
    cases known : left.recorder.knownModule? input fingerprint with
    | some info =>
      rcases abreast.answers_of_known? found (Recorder.known?_of_knownModule? known) with
        ⟨source, opened, module, described, stored⟩
      have again :
          left.recorder.modules.putFile ⟨right.files, other⟩ input =
            .ok (info, left.recorder.modules, ⟨right.files, other⟩) :=
        ModulePool.putFile_again opened described stored
      have kept := abreast.withModules (.refl _) abreast.twins id
      have unchanged : left.withModules left.recorder.modules ⟨left.files, writer⟩ = left := by
        rw [Recording.withModules, withBench, ← abreast.records]
      rw [unchanged] at kept
      simp only [Recording.storing, abreast.benchToo, again]
      exact Or.inr ⟨rfl, Or.inl ⟨_, _, kept⟩⟩
    | none =>
      rcases
          abreast.storing (left.recorder.modules.putFile · input) agree left.withModules
            right.withModules with
        ⟨failure, here, there⟩ | ⟨info, pool, after, otherAfter, putting, twins, here, there⟩
      · rw [here, there]
        exact abreast.fail_recalling failure _
      · rw [here, there]
        rcases ModulePool.rewrites_putFile putting with
          ⟨rewrites, source, module, opened, described, stored⟩
        have kept := abreast.withModules rewrites twins (ModulePool.takes_of_putFile putting).grows
        have lasts :=
          KnownInput.Lasts.of_opened (.module info) abreast.sane now found opened rewrites.files
        exact Or.inr ⟨rfl, Or.inl ⟨_, _, kept.remember lasts ⟨module, described, stored⟩⟩⟩

/-! ## Records -/

/-- A record is stored alike. -/
theorem storeRecord
    (abreast : left.Abreast path config own past right writer other)
    (record : InvocationRecord) :
    Concur path config own past (left.storeRecord record) (right.storeRecord record) := by
  have index : right.recorder.recordCount = left.recorder.recordCount := by rw [abreast.same]
  have agree :=
    abreast.twins.write (InvocationRecord.entryName left.recorder.recordCount) record.encode
  simp only [Recording.storeRecord, abreast.bench, abreast.benchToo, index]
  generalize writing : Workbench.write ⟨left.files, writer⟩ _ _ = here at agree ⊢
  generalize Workbench.write ⟨right.files, other⟩ _ _ = there at agree ⊢
  cases agree with
  | error failure => exact abreast.fail failure
  | @ok after otherAfter twins =>
    have advanced :=
      abreast.advance (Workbench.rewrites_write writing) twins
        { left.recorder with recordCount := left.recorder.recordCount + 1 } rfl id id
    have same :
        ({ right.withBench otherAfter with
            recorder := { (right.withBench otherAfter).recorder with
              recordCount := left.recorder.recordCount + 1 } } : Recording) =
          ⟨otherAfter.files, { left.recorder with
            recordCount := left.recorder.recordCount + 1
            state := .recording otherAfter.writer, inputs := [] }⟩ := by
      rw [withBench, abreast.same]
    right
    refine ⟨rfl, Or.inl ⟨after.writer, otherAfter.writer, ?_⟩⟩
    simp only
    rw [same]
    exact advanced

end Abreast

end Recording

end BuildCapture
