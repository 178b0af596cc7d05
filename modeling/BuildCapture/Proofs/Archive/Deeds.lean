import BuildCapture.Proofs.Archive.Journal
import BuildCapture.Proofs.Pool.Modules

/-!
# What calls take

The octets that a call takes for its input are those that its file shows, unless
the path shows the fingerprint of its latest reading: then they are those of the
reading, and nothing is read.  A journal covers a deed if it remembers what was
taken and where that comes from, and it is sound if it covers everything that was
committed.
-/

namespace BuildCapture

/-! ## What there is to go by -/

namespace Call

variable
  {call : Call}
  {path : String}
  {pool : InputPool}
  {files : FileSystem}
  {journal : Journal}
  {sight : Sight}

theorem deed_of_file
    (named : call.path? = some path)
    (pooled : call.pool? = some pool)
    (files : FileSystem)
    (journal : Journal) :
    call.deed files journal =
      { call
        sight? := some (files.look path)
        recalled? := (files.look path).toOption.bind fun sight =>
          journal.recalled? path pool sight.fingerprint
        isStored := pool == .modules &&
          (files.look path).toOption.any fun sight => journal.hasStored sight.source.data } := by
  simp only [deed, named, pooled]

theorem deed_of_none
    (noFile : call.path? = none)
    (files : FileSystem)
    (journal : Journal) :
    call.deed files journal = { call } := by
  simp only [deed, noFile]

@[simp]
theorem call_deed
    (call : Call)
    (files : FileSystem)
    (journal : Journal) :
    (call.deed files journal).call = call := by
  rw [deed]
  split <;> rfl

/-- A file is the input of a pool. -/
theorem path?_of_pool?
    (noInput : call.pool? = none) :
    call.path? = none := by
  cases call <;> first | rfl | cases noInput

theorem pool?_deed
    {pool? : Option InputPool}
    (pooled : call.pool? = pool?)
    (files : FileSystem)
    (journal : Journal) :
    (call.deed files journal).call.pool? = pool? := by
  rw [call_deed]
  exact pooled

theorem recalled?_deed
    (named : call.path? = some path)
    (pooled : call.pool? = some pool)
    (seen : files.look path = .ok sight)
    (journal : Journal) :
    (call.deed files journal).recalled? = journal.recalled? path pool sight.fingerprint := by
  rw [deed_of_file named pooled, seen]
  rfl

/-- What a file shows is present, as far as it can be read. -/
theorem present_deed
    (named : call.path? = some path)
    (pooled : call.pool? = some pool)
    (seen : files.look path = .ok sight) :
    (call.deed files journal).present = sight.source.data := by
  rw [deed_of_file named pooled, seen]
  cases call <;> first | rfl | cases named

/-- What is recalled is taken, and nothing is read. -/
theorem deed_of_recalled
    (named : call.path? = some path)
    (pooled : call.pool? = some pool)
    (seen : files.look path = .ok sight)
    {reading : Reading}
    (recalled : journal.recalled? path pool sight.fingerprint = some reading) :
    (call.deed files journal).data = reading.sight.source.data ∧
      (call.deed files journal).reading? = none := by
  have recalls := (recalled?_deed named pooled seen journal).trans recalled
  rw [Deed.data, Deed.reading?]
  simp only [recalls, and_self]

/-- What is not recalled is read. -/
theorem deed_of_unrecalled
    (named : call.path? = some path)
    (pooled : call.pool? = some pool)
    (seen : files.look path = .ok sight)
    (unrecalled : journal.recalled? path pool sight.fingerprint = none) :
    (call.deed files journal).data = sight.source.data ∧
      (call.deed files journal).reading? = some (path, ⟨pool, sight⟩) := by
  have recalls := (recalled?_deed named pooled seen journal).trans unrecalled
  constructor
  · rw [Deed.data]
    simp only [recalls]
    exact present_deed named pooled seen
  · have shows : (call.deed files journal).sight? = some (.ok sight) := by
      rw [deed_of_file named pooled, seen]
    rw [Deed.reading?, call_deed]
    simp only [recalls, named, pooled, shows]

end Call

/-! ## Journals -/

namespace Journal

/-- A content that is added becomes the last of the journal. -/
theorem observe_content
    (journal : Journal)
    {deed : Deed}
    (pooled : deed.call.pool? = some .blobs) :
    journal.observe deed =
      { journal with
        contents := journal.contents ++ [deed.data]
        readings := deed.reading?.toList ++ journal.readings } := by
  simp only [observe, pooled]

/-- A module that is added becomes the last of the journal. -/
theorem observe_module
    (journal : Journal)
    {deed : Deed}
    (pooled : deed.call.pool? = some .modules)
    {id : ModuleId}
    (identified : deed.moduleId? = some id) :
    journal.observe deed =
      { journal with
        images := journal.images ++ [(id, deed.data)]
        readings := deed.reading?.toList ++ journal.readings } := by
  simp only [observe, pooled, identified, Option.toList, List.map_cons, List.map_nil]

/-- A call without an input is not noted in a journal. -/
theorem observe_setting
    (journal : Journal)
    {deed : Deed}
    (noInput : deed.call.pool? = none) :
    journal.observe deed = journal := by
  simp only [observe, noInput]

theorem committed_observe
    (journal : Journal)
    (deed : Deed) :
    (journal.observe deed).committed = journal.committed := by
  rw [observe]
  split <;> rfl

/-- What is recalled was read for the pool, with the fingerprint that was asked for. -/
theorem mem_of_recalled?
    {journal : Journal}
    {path : String}
    {pool : InputPool}
    {fingerprint : Fingerprint}
    {reading : Reading}
    (recalled : journal.recalled? path pool fingerprint = some reading) :
    (path, reading) ∈ journal.readings ∧ reading.pool = pool ∧
      reading.sight.fingerprint = fingerprint := by
  rcases Option.filter_eq_some_iff.1 recalled with ⟨latest, fits⟩
  rw [Bool.and_eq_true, beq_iff_eq, beq_iff_eq] at fits
  rcases List.lookup_eq_some_iff.1 latest with ⟨newer, older, readings, -⟩
  rw [readings]
  exact ⟨List.mem_append_right newer List.mem_cons_self, fits⟩

/-- What a journal remembers it does not forget. -/
structure Grows (journal more : Journal) : Prop where
  contents : journal.contents ⊆ more.contents
  images : journal.images ⊆ more.images
  readings : journal.readings ⊆ more.readings

theorem grows_observe
    (journal : Journal)
    (deed : Deed) :
    journal.Grows (journal.observe deed) := by
  rw [observe]
  split
  · exact ⟨List.Subset.refl _, List.Subset.refl _, List.Subset.refl _⟩
  · exact ⟨List.subset_append_left _ _, List.Subset.refl _, List.subset_append_right _ _⟩
  · exact ⟨List.Subset.refl _, List.subset_append_left _ _, List.subset_append_right _ _⟩

end Journal

/-! ## Where octets come from -/

namespace Deed

/-- The octets that are taken are those that the input has, and of a content they are all. -/
structure TakesPresent (deed : Deed) : Prop where
  same : deed.data = deed.present
  whole : deed.call.pool? = some .blobs → ∀ sight, deed.sight? = some (.ok sight) →
    sight.source.fault = none

/--
The octets that are taken are those of an earlier reading of the path for the same
pool, with the fingerprint that the path shows.
-/
structure Recalls
    (deed : Deed)
    (path : String)
    (reading : Reading) : Prop where
  path : deed.call.path? = some path
  pool : deed.call.pool? = some reading.pool
  shown : ∃ sight, deed.sight? = some (.ok sight) ∧
    sight.fingerprint = reading.sight.fingerprint
  recalled : deed.recalled? = some reading

theorem Recalls.taken
    {deed : Deed}
    {path : String}
    {reading : Reading}
    (recalls : deed.Recalls path reading) :
    deed.data = reading.sight.source.data := by
  simp only [data, recalls.recalled]

end Deed

namespace Call

variable
  {call : Call}
  {path : String}
  {pool : InputPool}
  {files : FileSystem}
  {journal : Journal}
  {sight : Sight}

theorem recalls_deed
    (named : call.path? = some path)
    (pooled : call.pool? = some pool)
    (seen : files.look path = .ok sight)
    {reading : Reading}
    (recalled : journal.recalled? path pool sight.fingerprint = some reading) :
    (path, reading) ∈ journal.readings ∧ (call.deed files journal).Recalls path reading := by
  have recalls := (recalled?_deed named pooled seen journal).trans recalled
  rcases Journal.mem_of_recalled? recalled with ⟨member, rfl, same⟩
  refine ⟨member, ?_⟩
  constructor
  case path =>
    rw [call_deed]
    exact named
  case pool =>
    rw [call_deed]
    exact pooled
  case shown =>
    rw [deed_of_file named pooled, seen]
    exact ⟨sight, rfl, same.symm⟩
  case recalled => exact recalls

theorem takesPresent_deed
    (named : call.path? = some path)
    (pooled : call.pool? = some pool)
    (seen : files.look path = .ok sight)
    (unrecalled : journal.recalled? path pool sight.fingerprint = none)
    (whole : pool = .blobs → sight.source.fault = none) :
    (call.deed files journal).TakesPresent where
  same := by
    rw [(deed_of_unrecalled named pooled seen unrecalled).1, present_deed named pooled seen]
  whole content other shown := by
    rw [call_deed, pooled] at content
    rw [deed_of_file named pooled, seen] at shown
    cases shown
    exact whole (Option.some.inj content)

/-- Without a file there is nothing but what the call says. -/
theorem takesPresent_of_none
    (noFile : call.path? = none)
    (files : FileSystem)
    (journal : Journal) :
    (call.deed files journal).TakesPresent ∧ (call.deed files journal).reading? = none := by
  rw [deed_of_none noFile]
  refine ⟨⟨rfl, fun _ sight => nofun⟩, ?_⟩
  simp only [Deed.reading?, noFile]

end Call

namespace Journal

/-- A journal remembers the input of a deed, and the reading that it recalls if it does. -/
structure Covers
    (journal : Journal)
    (deed : Deed) : Prop where
  input :
    match deed.call.pool? with
    | none => True
    | some .blobs => deed.data ∈ journal.contents
    | some .modules =>
      ∃ info, ModuleInfo.ofOctets deed.data = .ok info ∧ (info.id, deed.data) ∈ journal.images
  origin : deed.TakesPresent ∨
    ∃ path reading, (path, reading) ∈ journal.readings ∧ deed.Recalls path reading

/-- A content that is noted is covered, wherever it comes from. -/
theorem covers_content
    (journal : Journal)
    {deed : Deed}
    (pooled : deed.call.pool? = some .blobs)
    (origin : deed.TakesPresent ∨
      ∃ path reading, (path, reading) ∈ journal.readings ∧ deed.Recalls path reading) :
    (journal.observe deed).Covers deed where
  input := by
    rw [journal.observe_content pooled]
    simp only [pooled]
    exact List.mem_append_right _ List.mem_cons_self
  origin := origin.imp_right fun ⟨path, reading, member, recalls⟩ =>
    ⟨path, reading, (journal.grows_observe deed).readings member, recalls⟩

/-- A module that is noted is covered, wherever it comes from. -/
theorem covers_module
    (journal : Journal)
    {deed : Deed}
    (pooled : deed.call.pool? = some .modules)
    {info : ModuleInfo}
    (described : ModuleInfo.ofOctets deed.data = .ok info)
    (origin : deed.TakesPresent ∨
      ∃ path reading, (path, reading) ∈ journal.readings ∧ deed.Recalls path reading) :
    (journal.observe deed).Covers deed where
  input := by
    rw [journal.observe_module pooled (ModuleId.ofImage?_of_described described)]
    simp only [pooled]
    exact ⟨info, described, List.mem_append_right _ List.mem_cons_self⟩
  origin := origin.imp_right fun ⟨path, reading, member, recalls⟩ =>
    ⟨path, reading, (journal.grows_observe deed).readings member, recalls⟩

theorem Covers.mono
    {journal more : Journal}
    {deed : Deed}
    (covers : journal.Covers deed)
    (grows : journal.Grows more) :
    more.Covers deed where
  input := by
    have input := covers.input
    split at input
    · trivial
    · exact grows.contents input
    · rcases input with ⟨info, described, member⟩
      exact ⟨info, described, grows.images member⟩
  origin := by
    rcases covers.origin with present | ⟨path, reading, member, recalls⟩
    · exact Or.inl present
    · exact Or.inr ⟨path, reading, grows.readings member, recalls⟩

/--
A journal in which a deed may be noted: it is covered then, a content was read to
its end, and so was a module that is the first with its identity.
-/
structure Admits
    (journal : Journal)
    (deed : Deed) : Prop where
  covers : (journal.observe deed).Covers deed
  content : ∀ path reading, deed.reading? = some (path, reading) → reading.pool = .blobs →
    reading.sight.source.fault = none
  image : deed.call.pool? = some .modules → ∀ id, deed.moduleId? = some id →
    List.lookup id journal.images = none →
      ∃ path reading, deed.reading? = some (path, reading) ∧ reading.pool = .modules ∧
        reading.sight.source = .ofOctets deed.data

/-- There is nothing against noting a call without an input. -/
theorem admits_setting
    {call : Call}
    (noInput : call.pool? = none)
    (files : FileSystem)
    (journal : Journal) :
    journal.Admits (call.deed files journal) := by
  have noFile := Call.path?_of_pool? noInput
  have noPool := Call.pool?_deed noInput files journal
  rcases Call.takesPresent_of_none noFile files journal with ⟨present, nothing⟩
  constructor
  case covers =>
    refine ⟨?_, Or.inl present⟩
    simp only [noPool]
  case content =>
    intro path reading read
    rw [nothing] at read
    cases read
  case image =>
    intro modules
    rw [noPool] at modules
    cases modules

/-- A content may be noted that is recalled, or that was read to its end. -/
theorem admits_content
    (journal : Journal)
    {deed : Deed}
    (pooled : deed.call.pool? = some .blobs)
    (origin : deed.TakesPresent ∨
      ∃ path reading, (path, reading) ∈ journal.readings ∧ deed.Recalls path reading)
    (whole : ∀ path reading, deed.reading? = some (path, reading) →
      reading.sight.source.fault = none) :
    journal.Admits deed where
  covers := journal.covers_content pooled origin
  content path reading read _ := whole path reading read
  image modules := by
    rw [pooled] at modules
    cases modules

/-- A module may be noted whose identity is there, or that was read to its end. -/
theorem admits_module
    (journal : Journal)
    {deed : Deed}
    (pooled : deed.call.pool? = some .modules)
    {info : ModuleInfo}
    (described : ModuleInfo.ofOctets deed.data = .ok info)
    (origin : deed.TakesPresent ∨
      ∃ path reading, (path, reading) ∈ journal.readings ∧ deed.Recalls path reading)
    (module : ∀ path reading, deed.reading? = some (path, reading) → reading.pool = .modules)
    (first : List.lookup info.id journal.images = none →
      ∃ path reading, deed.reading? = some (path, reading) ∧
        reading.sight.source = .ofOctets deed.data) :
    journal.Admits deed where
  covers := journal.covers_module pooled described origin
  content path reading read blobs := by
    rw [module path reading read] at blobs
    cases blobs
  image _ id identified unknown := by
    rw [Deed.moduleId?, ModuleId.ofImage?_of_described described] at identified
    cases identified
    rcases first unknown with ⟨path, reading, read, same⟩
    exact ⟨path, reading, read, module path reading read, same⟩

/--
Committed records are what their calls noted, and the journal remembers all their
inputs.  Contents were read to their end, and so was of each module the first image.
-/
structure Sound (journal : Journal) : Prop where
  asCalled : ∀ committed ∈ journal.committed,
    committed.record = committed.deeds.foldl Deed.note committed.heading.record
  covers : ∀ committed ∈ journal.committed, ∀ deed ∈ committed.deeds, journal.Covers deed
  contents : ∀ path reading, (path, reading) ∈ journal.readings → reading.pool = .blobs →
    reading.sight.source.fault = none
  images : ∀ id image, List.lookup id journal.images = some image →
    ∃ path reading, (path, reading) ∈ journal.readings ∧ reading.pool = .modules ∧
      reading.sight.source = .ofOctets image

theorem sound_empty : Sound {} where
  asCalled _ member := absurd member List.not_mem_nil
  covers _ member := absurd member List.not_mem_nil
  contents _ _ member := absurd member List.not_mem_nil
  images _ _ there := nomatch there

/-- An invocation that is committed keeps a journal sound if it is covered. -/
theorem Sound.commit
    {journal : Journal}
    (sound : journal.Sound)
    (committed : Committed)
    (asCalled : committed.record = committed.deeds.foldl Deed.note committed.heading.record)
    (covers : ∀ deed ∈ committed.deeds, journal.Covers deed) :
    ({ journal with committed := journal.committed ++ [committed] } : Journal).Sound := by
  have grows :
      journal.Grows { journal with committed := journal.committed ++ [committed] } :=
    ⟨List.Subset.refl _, List.Subset.refl _, List.Subset.refl _⟩
  constructor
  case asCalled =>
    intro other member
    rcases List.mem_append.1 member with earlier | last
    · exact sound.asCalled other earlier
    · rw [List.mem_singleton.1 last]
      exact asCalled
  case covers =>
    intro other member deed inside
    rcases List.mem_append.1 member with earlier | last
    · exact (sound.covers other earlier deed inside).mono grows
    · rw [List.mem_singleton.1 last] at inside
      exact (covers deed inside).mono grows
  case contents => exact sound.contents
  case images => exact sound.images

theorem mem_readings_observe
    {journal : Journal}
    {deed : Deed}
    {path : String}
    {reading : Reading}
    (pooled : deed.call.pool? ≠ none) :
    (path, reading) ∈ (journal.observe deed).readings ↔
      deed.reading? = some (path, reading) ∨ (path, reading) ∈ journal.readings := by
  have readings : (journal.observe deed).readings =
      deed.reading?.toList ++ journal.readings := by
    rw [observe]
    split
    · next nothing => exact absurd nothing pooled
    · rfl
    · rfl
  rw [readings, List.mem_append, Option.mem_toList]

/-- The first image with an identity is an earlier one, or the one that is added. -/
theorem lookup_images_observe
    {journal : Journal}
    {deed : Deed}
    {id : ModuleId}
    {image : Octets}
    (there : List.lookup id (journal.observe deed).images = some image) :
    List.lookup id journal.images = some image ∨
      deed.call.pool? = some .modules ∧ List.lookup id journal.images = none ∧
        deed.moduleId? = some id ∧ image = deed.data := by
  rw [observe] at there
  split at there
  · exact Or.inl there
  · exact Or.inl there
  next modules =>
  cases before : List.lookup id journal.images with
  | some first =>
    rw [List.lookup_append, before] at there
    exact Or.inl there
  | none =>
    rw [List.lookup_append, before, Option.none_or] at there
    refine Or.inr ⟨modules, rfl, ?_⟩
    cases identified : deed.moduleId? with
    | none =>
      rw [identified] at there
      cases there
    | some other =>
      rw [identified, Option.toList, List.map_cons, List.map_nil, List.lookup_cons] at there
      split at there
      · next same => exact ⟨congrArg some (beq_iff_eq.1 same).symm, (Option.some.inj there).symm⟩
      · cases there

/-- An input that is stored keeps a journal sound. -/
theorem Sound.observe
    {journal : Journal}
    (sound : journal.Sound)
    {deed : Deed}
    (admits : journal.Admits deed) :
    (journal.observe deed).Sound := by
  by_cases pooled : deed.call.pool? = none
  · rw [journal.observe_setting pooled]
    exact sound
  have grows := journal.grows_observe deed
  constructor
  case asCalled =>
    rw [journal.committed_observe deed]
    exact sound.asCalled
  case covers =>
    rw [journal.committed_observe deed]
    exact fun committed member other inside =>
      (sound.covers committed member other inside).mono grows
  case contents =>
    intro path reading member
    rcases (mem_readings_observe pooled).1 member with read | earlier
    · exact admits.content path reading read
    · exact sound.contents path reading earlier
  case images =>
    intro id image there
    rcases lookup_images_observe there with earlier | ⟨modules, unknown, identified, rfl⟩
    · rcases sound.images id image earlier with ⟨path, reading, member, facts⟩
      exact ⟨path, reading, grows.readings member, facts⟩
    · rcases admits.image modules id identified unknown with ⟨path, reading, read, facts⟩
      exact ⟨path, reading, (mem_readings_observe pooled).2 (Or.inl read), facts⟩

end Journal

end BuildCapture
