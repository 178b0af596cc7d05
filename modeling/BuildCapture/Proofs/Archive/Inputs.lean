import BuildCapture.Proofs.Archive.Deeds
import BuildCapture.Proofs.Archive.Recorder

/-!
# Storing inputs

Each way of storing an input returns the key or the identity that belongs to
the octets that are taken for it: those that its file shows at that moment, or
those that it showed when it was last read with the same fingerprint.
-/

namespace BuildCapture

open Container

/-! ## Remembering -/

/-- Nothing is known where nothing is remembered. -/
theorem Recorder.known?_of_nil
    {recorder : Recorder}
    (nothing : recorder.inputs = [])
    (path : String)
    (fingerprint : Fingerprint) :
    recorder.known? path fingerprint = none := by
  rw [known?, nothing]
  rfl

namespace Recorder.Remembers

variable
  {recorder : Recorder}
  {journal : Journal}

/-- What is known of a path is what its latest reading amounts to, if the fingerprint is the same. -/
theorem known?
    (remembers : recorder.Remembers journal)
    (path : String)
    (pool : InputPool)
    (fingerprint : Fingerprint) :
    Option.Rel
      (fun identity reading => identity.pool = pool ∧
        identity.Describes recorder.blobs recorder.modules reading.sight.source.data)
      ((recorder.known? path fingerprint).filter fun identity => identity.pool == pool)
      (journal.recalled? path pool fingerprint) := by
  have remembered := remembers path
  rw [Recorder.known?, Journal.recalled?]
  generalize List.lookup path recorder.inputs = input? at remembered ⊢
  generalize List.lookup path journal.readings = reading? at remembered ⊢
  cases remembered with
  | none => exact .none
  | @some input reading stands =>
    by_cases same : input.fingerprint = fingerprint
    · have sameToo : (reading.sight.fingerprint == fingerprint) = true := by
        rw [← stands.fingerprint, same, beq_self_eq_true]
      simp only [same, if_true, Option.filter_some, ← stands.pool, sameToo, Bool.and_true]
      split
      · next pooled => exact .some ⟨beq_iff_eq.1 pooled, stands.describes⟩
      · exact .none
    · have differs : (reading.sight.fingerprint == fingerprint) = false := by
        rw [← stands.fingerprint]
        exact beq_false_of_ne same
      simp only [same, if_false, Option.filter_none, Option.filter_some, differs, Bool.and_false,
        Bool.false_eq_true]
      exact .none

/-- A content that is known has the key of what was read. -/
theorem knownContent?
    (remembers : recorder.Remembers journal)
    (path : String)
    (fingerprint : Fingerprint) :
    Option.Rel
      (fun key reading => ContentKey.of reading.sight.source.data = key ∧
        recorder.blobs.contains key = true)
      (recorder.knownContent? path fingerprint) (journal.recalled? path .blobs fingerprint) := by
  have known := remembers.known? path .blobs fingerprint
  rw [Recorder.knownContent?]
  generalize recorder.known? path fingerprint = identity? at known ⊢
  generalize journal.recalled? path .blobs fingerprint = reading? at known ⊢
  cases identity? with
  | none =>
    cases known
    exact .none
  | some identity =>
    cases identity with
    | content key =>
      cases known with
      | some facts => exact .some facts.2
    | module info =>
      cases known
      exact .none

/-- A module that is known has the identity that was read. -/
theorem knownModule?
    (remembers : recorder.Remembers journal)
    (path : String)
    (fingerprint : Fingerprint) :
    Option.Rel
      (fun info reading =>
        (∃ found, ModuleInfo.ofOctets reading.sight.source.data = .ok found ∧
          found.id = info.id) ∧
        recorder.modules.get? info.id = some info)
      (recorder.knownModule? path fingerprint) (journal.recalled? path .modules fingerprint) := by
  have known := remembers.known? path .modules fingerprint
  rw [Recorder.knownModule?]
  generalize recorder.known? path fingerprint = identity? at known ⊢
  generalize journal.recalled? path .modules fingerprint = reading? at known ⊢
  cases identity? with
  | none =>
    cases known
    exact .none
  | some identity =>
    cases identity with
    | content key =>
      cases known
      exact .none
    | module info =>
      cases known with
      | some facts => exact .some facts.2

end Recorder.Remembers

namespace Recording

/-! ## The shape of the operations -/

/-- Stores something on the workbench and keeps the pool that it went to. -/
def storing
    {α β : Type}
    (recording : Recording)
    (store : Workbench → Except Failure (α × β × Workbench))
    (keep : β → Workbench → Recording) :
    Recording × Except Failure α :=
  match recording.bench with
  | .error failure => recording.fail failure
  | .ok bench =>
    match store bench with
    | .error failure => recording.fail failure
    | .ok (found, pool, bench) => (keep pool bench, .ok found)

/-- Obtains something from what is known of the fingerprint of a path, or else by storing it. -/
def recalling
    {α : Type}
    (recording : Recording)
    (input : String)
    (known? : Fingerprint → Option α)
    (stored : Recording × Except Failure α)
    (identity : α → InputIdentity) :
    Recording × Except Failure α :=
  match recording.files.stat input with
  | .error fault => (recording, .error (.inputUnreadable input fault))
  | .ok fingerprint =>
    match known? fingerprint with
    | some found => (recording, .ok found)
    | none =>
      match stored with
      | (left, .error failure) => (left, .error failure)
      | (left, .ok found) => (left.remember input fingerprint (identity found), .ok found)

section Shape

variable
  {α β : Type}
  {recording after : Recording}
  {store : Workbench → Except Failure (α × β × Workbench)}
  {keep : β → Workbench → Recording}
  {found : α}
  {failure : Failure}

theorem storing_ok
    (result : recording.storing store keep = (after, .ok found)) :
    ∃ bench pool left, recording.bench = .ok bench ∧ store bench = .ok (found, pool, left) ∧
      after = keep pool left := by
  rw [storing] at result
  split at result
  · cases (fail_cases result).1
  next bench records =>
  split at result
  · cases (fail_cases result).1
  next pool left same =>
  rw [Prod.mk.injEq, Except.ok.injEq] at result
  rcases result with ⟨rfl, rfl⟩
  exact ⟨bench, pool, left, records, same, rfl⟩

theorem storing_error
    (result : recording.storing store keep = (after, .error failure)) :
    after = recording ∨ after.Spent := by
  rw [storing] at result
  split at result
  · exact (fail_cases result).2
  split at result
  · exact (fail_cases result).2
  · cases result

variable
  {input : String}
  {known? : Fingerprint → Option α}
  {identity : α → InputIdentity}

theorem recalling_ok
    (result :
      recording.recalling input known? (recording.storing store keep) identity =
        (after, .ok found)) :
    ∃ fingerprint, recording.files.stat input = .ok fingerprint ∧
      (known? fingerprint = some found ∧ after = recording ∨
        known? fingerprint = none ∧ ∃ left, recording.storing store keep = (left, .ok found) ∧
          after = left.remember input fingerprint (identity found)) := by
  rw [recalling] at result
  split at result
  · cases result
  next fingerprint there =>
  refine ⟨fingerprint, there, ?_⟩
  split at result
  · next remembered =>
    rw [Prod.mk.injEq, Except.ok.injEq] at result
    rcases result with ⟨rfl, rfl⟩
    exact Or.inl ⟨remembered, rfl⟩
  next unknown =>
  split at result
  · cases result
  · next left _ stored =>
    rw [Prod.mk.injEq, Except.ok.injEq] at result
    rcases result with ⟨rfl, rfl⟩
    exact Or.inr ⟨unknown, left, stored, rfl⟩

theorem recalling_error
    (result :
      recording.recalling input known? (recording.storing store keep) identity =
        (after, .error failure)) :
    after = recording ∨ after.Spent := by
  rw [recalling] at result
  split at result
  · cases result
    exact Or.inl rfl
  split at result
  · cases result
  split at result
  · next stored =>
    cases result
    exact storing_error stored
  · cases result

/-- A recorder that has given up stores nothing. -/
theorem Spent.storing
    (spent : recording.Spent) :
    recording.storing store keep ≠ (after, .ok found) := by
  intro result
  rcases storing_ok result with ⟨bench, _, _, records, -⟩
  rcases spent.bench with ⟨cause, idle⟩
  rw [idle] at records
  cases records

/-- A recorder that has given up obtains nothing. -/
theorem Spent.recalling
    (spent : recording.Spent)
    (nothing : ∀ fingerprint, known? fingerprint = none) :
    recording.recalling input known? (recording.storing store keep) identity ≠
      (after, .ok found) := by
  intro result
  rcases recalling_ok result with ⟨fingerprint, -, remembered | stored⟩
  · rw [nothing fingerprint] at remembered
    cases remembered.1
  · rcases stored with ⟨-, left, stored, -⟩
    exact spent.storing stored

end Shape

section Operations

variable
  [Zstd.Encoder]
  (recording : Recording)
  (input : String)

theorem storeText_eq
    (data : Octets) :
    recording.storeText data =
      recording.storing (fun bench => recording.recorder.blobs.put bench data)
        recording.withBlobs := by
  rw [storeText, storing]
  cases recording.bench with
  | error failure => rfl
  | ok bench =>
    simp only
    cases recording.recorder.blobs.put bench data <;> rfl

theorem storeContent_eq :
    recording.storeContent input =
      recording.storing (fun bench => recording.recorder.blobs.putFile bench input)
        recording.withBlobs := by
  rw [storeContent, storing]
  cases recording.bench with
  | error failure => rfl
  | ok bench =>
    simp only
    cases recording.recorder.blobs.putFile bench input <;> rfl

theorem storeModule_eq :
    recording.storeModule input =
      recording.storing (fun bench => recording.recorder.modules.putFile bench input)
        recording.withModules := by
  rw [storeModule, storing]
  cases recording.bench with
  | error failure => rfl
  | ok bench =>
    simp only
    cases recording.recorder.modules.putFile bench input <;> rfl

theorem contentKey_eq :
    recording.contentKey input =
      recording.recalling input (recording.recorder.knownContent? input)
        (recording.storing (fun bench => recording.recorder.blobs.putFile bench input)
          recording.withBlobs)
        .content := by
  rw [← storeContent_eq, contentKey, recalling]
  cases recording.files.stat input with
  | error fault => rfl
  | ok fingerprint =>
    simp only
    cases recording.recorder.knownContent? input fingerprint with
    | some key => rfl
    | none =>
      rcases recording.storeContent input with ⟨left, failure | key⟩ <;> rfl

theorem moduleInfo_eq :
    recording.moduleInfo input =
      recording.recalling input (recording.recorder.knownModule? input)
        (recording.storing (fun bench => recording.recorder.modules.putFile bench input)
          recording.withModules)
        .module := by
  rw [← storeModule_eq, moduleInfo, recalling]
  cases recording.files.stat input with
  | error fault => rfl
  | ok fingerprint =>
    simp only
    cases recording.recorder.knownModule? input fingerprint with
    | some info => rfl
    | none =>
      rcases recording.storeModule input with ⟨left, failure | info⟩ <;> rfl

end Operations

section Failing

variable
  [Zstd.Encoder]
  {recording after : Recording}
  {input : String}

theorem contentKey_error
    {failure : Failure}
    (obtaining : recording.contentKey input = (after, .error failure)) :
    after = recording ∨ after.Spent := by
  rw [contentKey_eq] at obtaining
  exact recalling_error obtaining

theorem moduleInfo_error
    {failure : Failure}
    (obtaining : recording.moduleInfo input = (after, .error failure)) :
    after = recording ∨ after.Spent := by
  rw [moduleInfo_eq] at obtaining
  exact recalling_error obtaining

theorem storeText_error
    {data : Octets}
    {failure : Failure}
    (storing : recording.storeText data = (after, .error failure)) :
    after = recording ∨ after.Spent := by
  rw [storeText_eq] at storing
  exact storing_error storing

theorem Spent.contentKey
    (spent : recording.Spent)
    {key : ContentKey} :
    recording.contentKey input ≠ (after, .ok key) := by
  rw [contentKey_eq]
  apply spent.recalling
  intro fingerprint
  rw [Recorder.knownContent?, Recorder.known?_of_nil spent.inputs]

theorem Spent.moduleInfo
    (spent : recording.Spent)
    {info : ModuleInfo} :
    recording.moduleInfo input ≠ (after, .ok info) := by
  rw [moduleInfo_eq]
  apply spent.recalling
  intro fingerprint
  rw [Recorder.knownModule?, Recorder.known?_of_nil spent.inputs]

theorem Spent.storeText
    (spent : recording.Spent)
    {data : Octets}
    {key : ContentKey} :
    recording.storeText data ≠ (after, .ok key) := by
  rw [storeText_eq]
  exact spent.storing

end Failing

/-! ## What is obtained -/

variable
  {recording after : Recording}
  {path : String}
  {journal : Journal}
  {writer : Writer}
  {accepted : List (String × Octets)}
  {input : String}

variable [Zstd.Encoder]

/-- The key of a text belongs to its octets. -/
theorem Keeps.storeText
    (keeps : recording.Keeps path journal writer accepted)
    {call : Call}
    (noFile : call.path? = none)
    (pooled : call.pool? = some .blobs)
    {data : Octets}
    (taken : (call.deed recording.files journal).data = data)
    {key : ContentKey}
    (storing : recording.storeText data = (after, .ok key)) :
    key = .of data ∧ journal.Admits (call.deed recording.files journal) ∧
      after.Faithful path (journal.observe (call.deed recording.files journal)) := by
  have pooledDeed := Call.pool?_deed pooled recording.files journal
  rcases Call.takesPresent_of_none noFile recording.files journal with ⟨present, nothing⟩
  rw [storeText_eq] at storing
  rcases storing_ok storing with ⟨bench, pool, left, records, putting, rfl⟩
  cases keeps.bench_eq records
  rcases BlobPool.stored_of_put keeps.blobs keeps.settled putting with ⟨added, facts⟩
  refine ⟨facts.keyed, ?_, ?_⟩
  · apply journal.admits_content pooledDeed (Or.inl present)
    intro other reading read
    rw [nothing] at read
    cases read
  · rw [journal.observe_content pooledDeed, nothing, taken]
    exact Or.inl ⟨_, _, keeps.withBlobs facts⟩

section Files

variable
  {call : Call}

omit [Zstd.Encoder] in
/--
What is obtained is recalled if the latest reading of the path was for the pool and
had the fingerprint that the path shows, and else it is stored.
-/
theorem recalling_ok_cases
    {α β : Type}
    {store : Workbench → Except Failure (α × β × Workbench)}
    {keep : β → Workbench → Recording}
    {known? : Fingerprint → Option α}
    {identity : α → InputIdentity}
    {pool : InputPool}
    {right : α → Reading → Prop}
    (remembered : ∀ fingerprint,
      Option.Rel right (known? fingerprint) (journal.recalled? input pool fingerprint))
    {found : α}
    (result :
      recording.recalling input known? (recording.storing store keep) identity =
        (after, .ok found)) :
    ∃ sight, recording.files.look input = .ok sight ∧
      ((∃ reading, journal.recalled? input pool sight.fingerprint = some reading ∧
          right found reading ∧ after = recording) ∨
        journal.recalled? input pool sight.fingerprint = none ∧
          ∃ left, recording.storing store keep = (left, .ok found) ∧
            after = left.remember input sight.fingerprint (identity found)) := by
  rcases recalling_ok result with ⟨fingerprint, found, outcome⟩
  rcases FileSystem.stat_eq_ok_iff.1 found with ⟨sight, seen, rfl⟩
  refine ⟨sight, seen, ?_⟩
  have related := remembered sight.fingerprint
  rcases outcome with ⟨known, same⟩ | ⟨unknown, stored⟩
  · rw [known] at related
    generalize journal.recalled? input pool sight.fingerprint = reading? at related
    cases related with
    | @some _ reading relates => exact Or.inl ⟨reading, rfl, relates, same⟩
  · rw [unknown] at related
    generalize journal.recalled? input pool sight.fingerprint = reading? at related
    cases related
    exact Or.inr ⟨rfl, stored⟩

/-- The key of a content belongs to the octets that are taken for it. -/
theorem Keeps.contentKey
    (keeps : recording.Keeps path journal writer accepted)
    (named : call.path? = some input)
    (pooled : call.pool? = some .blobs)
    {key : ContentKey}
    (obtaining : recording.contentKey input = (after, .ok key)) :
    key = .of (call.deed recording.files journal).data ∧
      journal.Admits (call.deed recording.files journal) ∧
        after.Faithful path (journal.observe (call.deed recording.files journal)) := by
  have pooledDeed := Call.pool?_deed pooled recording.files journal
  rw [contentKey_eq] at obtaining
  rw [journal.observe_content pooledDeed]
  rcases recalling_ok_cases (keeps.inputs.knownContent? input) obtaining with
    ⟨sight, seen, ⟨reading, recalled, ⟨keyed, there⟩, rfl⟩ | ⟨unrecalled, left, stored, rfl⟩⟩
  · rcases Call.deed_of_recalled named pooled seen recalled with ⟨taken, nothing⟩
    have admits : journal.Admits (call.deed after.files journal) := by
      apply journal.admits_content pooledDeed
        (Or.inr ⟨input, reading, Call.recalls_deed named pooled seen recalled⟩)
      intro other another read
      rw [nothing] at read
      cases read
    rw [taken, nothing, ← keyed]
    exact ⟨rfl, admits, Or.inl ⟨writer, accepted,
      { keeps with blobs := keeps.blobs.again (keyed ▸ there) }⟩⟩
  · rcases Call.deed_of_unrecalled named pooled seen unrecalled with ⟨taken, read⟩
    rcases storing_ok stored with ⟨bench, pool, filled, records, putting, rfl⟩
    cases keeps.bench_eq records
    rcases BlobPool.stored_of_putFile keeps.blobs keeps.settled putting with
      ⟨data, added, reading, facts⟩
    have all : sight.source.readAll = .ok data := by
      rw [FileSystem.read, FileSystem.openSource_eq, seen] at reading
      exact reading
    have whole := Source.fault_of_readAll all
    have same := Source.data_of_readAll all
    have admits : journal.Admits (call.deed recording.files journal) := by
      apply journal.admits_content pooledDeed
        (Or.inl (Call.takesPresent_deed named pooled seen unrecalled fun _ => whole))
      intro other another shown
      rw [read] at shown
      cases shown
      exact whole
    have there : pool.contains key = true := by
      rw [facts.keyed]
      exact facts.kept.added (List.mem_append_right _ List.mem_cons_self)
    have describes : (InputIdentity.content key).Describes pool recording.recorder.modules
        sight.source.data := by
      rw [same]
      exact ⟨facts.keyed.symm, there⟩
    rw [taken, read, same]
    exact ⟨facts.keyed, admits, Or.inl ⟨_, _,
      (keeps.withBlobs facts).remember ⟨.blobs, sight⟩ ⟨rfl, rfl, describes⟩⟩⟩

/-- The identity of a module is the one in the octets that are taken for it. -/
theorem Keeps.moduleInfo
    (keeps : recording.Keeps path journal writer accepted)
    (named : call.path? = some input)
    (pooled : call.pool? = some .modules)
    {info : ModuleInfo}
    (obtaining : recording.moduleInfo input = (after, .ok info)) :
    ∃ described,
      ModuleInfo.ofOctets (call.deed recording.files journal).data = .ok described ∧
        described.id = info.id ∧
        journal.Admits (call.deed recording.files journal) ∧
        after.Faithful path (journal.observe (call.deed recording.files journal)) := by
  have pooledDeed := Call.pool?_deed pooled recording.files journal
  rw [moduleInfo_eq] at obtaining
  rcases recalling_ok_cases (keeps.inputs.knownModule? input) obtaining with
    ⟨sight, seen, ⟨reading, recalled, ⟨⟨described, reads, same⟩, there⟩, rfl⟩ |
      ⟨unrecalled, left, stored, rfl⟩⟩
  · rcases Call.deed_of_recalled named pooled seen recalled with ⟨taken, nothing⟩
    rw [← taken] at reads
    have admits : journal.Admits (call.deed after.files journal) := by
      apply journal.admits_module pooledDeed reads
        (Or.inr ⟨input, reading, Call.recalls_deed named pooled seen recalled⟩)
      · intro other another read
        rw [nothing] at read
        cases read
      · intro unknown
        rw [same, ← keeps.modules.get?_eq_none_iff, there] at unknown
        cases unknown
    refine ⟨described, reads, same, admits, Or.inl ⟨writer, accepted, ?_⟩⟩
    rw [journal.observe_module pooledDeed (ModuleId.ofImage?_of_described reads), same, nothing]
    exact { keeps with modules := keeps.modules.again there _ }
  · rcases Call.deed_of_unrecalled named pooled seen unrecalled with ⟨taken, read⟩
    rcases storing_ok stored with ⟨bench, pool, filled, records, putting, rfl⟩
    cases keeps.bench_eq records
    rcases ModulePool.stored_of_putFile keeps.modules keeps.settled putting with
      ⟨source, added, opened, whole, facts⟩
    have same : source = sight.source := by
      rw [FileSystem.openSource_eq, seen] at opened
      exact (Except.ok.inj opened).symm
    subst same
    rcases facts.described with ⟨described, reads, identity⟩
    have describes : (InputIdentity.module info).Describes recording.recorder.blobs pool
        sight.source.data :=
      ⟨⟨described, reads, identity⟩, facts.known⟩
    rw [← taken] at reads
    have noContent : InputPool.modules = .blobs → sight.source.fault = none := by
      intro different
      cases different
    have admits : journal.Admits (call.deed recording.files journal) := by
      apply journal.admits_module pooledDeed reads
        (Or.inl (Call.takesPresent_deed named pooled seen unrecalled noContent))
      · intro other another shown
        rw [read] at shown
        cases shown
        rfl
      · intro unknown
        refine ⟨input, _, read, ?_⟩
        rw [taken]
        rw [identity, ← keeps.modules.get?_eq_none_iff] at unknown
        exact congrArg (Source.mk _) (whole unknown)
    refine ⟨described, reads, identity, admits, ?_⟩
    rw [journal.observe_module pooledDeed (ModuleId.ofImage?_of_described reads), identity, read,
      taken]
    exact Or.inl ⟨_, _,
      (keeps.withModules facts).remember ⟨.modules, sight⟩ ⟨rfl, rfl, describes⟩⟩

end Files

end Recording

end BuildCapture
