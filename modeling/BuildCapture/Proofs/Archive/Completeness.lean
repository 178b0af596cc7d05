import BuildCapture.Proofs.Archive.Opening
import BuildCapture.Proofs.Container.Lengths
import BuildCapture.Proofs.Hash.Order

/-!
# Opened archives are complete

The manifest, the index of modules and the directory of the container describe
the same archive, and whoever made the file chose each of them freely.  Opening
compares them: it looks for the entry of every record that the manifest counts
and of every module that the index lists.

What was found once is found again.  A record is looked up under a name that is
made of its index, and a module under a name that is made of its identity; the
indexed modules are kept in the order of their identities, no two of which are
the same.
-/

namespace BuildCapture

/-! ## What is there -/

/-- The answer to a request for something that is there, though it may be damaged. -/
inductive Present {Value : Type} : Except Failure Value → Prop where
  | served (value : Value) : Present (.ok value)
  | corrupt (cause : Corruption) : Present (.error (.corrupt cause))
  | foreign (cause : Malformation) : Present (.error (.invalidFormat cause))

/-- Whatever a document holds, the record in it is read, or it is damaged or foreign. -/
theorem InvocationRecord.present_decode
    (document : Octets) :
    Present (decode document) := by
  rw [decode]
  split
  · constructor
  split
  · constructor
  split
  · constructor
  split
  · constructor
  · constructor

/-- An entry that is there is read, or it is damaged. -/
theorem Container.read_of_contains
    {container : Container}
    {name : String}
    (there : container.contains name = true) :
    (∃ data, container.read name = .ok data) ∨
      ∃ cause, container.read name = .error (.corrupt cause) := by
  rcases Option.isSome_iff_exists.1 there with ⟨entry, found⟩
  rcases name_of_find? found with rfl
  rcases read_cases found with served | ⟨cause, -, withheld⟩
  · exact Or.inl served
  · exact Or.inr ⟨cause, withheld⟩

namespace Archive

/-! ## Modules in order -/

/-- The identity of one module comes before that of another. -/
def Precedes (left right : ModuleInfo) : Prop :=
  left.id.octets < right.id.octets

theorem Precedes.id_ne
    {left right : ModuleInfo}
    (precedes : Precedes left right) :
    left.id ≠ right.id := by
  intro same
  rw [Precedes, same] at precedes
  exact List.lt_irrefl _ precedes

/-- A module is put among modules in order in its place. -/
theorem pairwise_insertModule
    (info : ModuleInfo)
    {known : List ModuleInfo}
    (ordered : known.Pairwise Precedes) :
    (insertModule info known).Pairwise Precedes := by
  induction known with
  | nil => exact List.pairwise_singleton Precedes info
  | cons first rest ih =>
    rcases List.pairwise_cons.1 ordered with ⟨firstBefore, restOrdered⟩
    rw [insertModule]
    split
    · next same =>
      refine List.pairwise_cons.2 ⟨?_, restOrdered⟩
      intro other later
      rw [Precedes, same]
      exact firstBefore other later
    next different =>
    split
    · next before =>
      refine List.pairwise_cons.2 ⟨?_, ordered⟩
      intro other member
      rcases List.mem_cons.1 member with rfl | later
      · exact before
      · exact List.lt_trans before (firstBefore other later)
    · next notBefore =>
      refine List.pairwise_cons.2 ⟨?_, ih restOrdered⟩
      intro other member
      rcases mem_insertModule member with rfl | later
      · by_contra notBehind
        exact different (ModuleId.octets_injective (List.le_antisymm notBehind notBefore))
      · exact firstBefore other later

/-- Added modules are in order. -/
theorem pairwise_of_addModules
    {container : Container}
    {known infos modules : List ModuleInfo}
    (ordered : known.Pairwise Precedes)
    (adding : addModules container known infos = .ok modules) :
    modules.Pairwise Precedes := by
  induction infos generalizing known with
  | nil =>
    cases adding
    exact ordered
  | cons info rest ih =>
    rw [addModules] at adding
    split at adding
    · exact ih (pairwise_insertModule info ordered) adding
    · cases adding

/-- Among modules in order, each is found under its identity. -/
theorem moduleInfo_of_pairwise
    {archive : Archive}
    (ordered : archive.modules.Pairwise Precedes)
    {info : ModuleInfo}
    (member : info ∈ archive.modules) :
    archive.moduleInfo info.id = .ok info := by
  have distinct : (archive.modules.map ModuleInfo.id).Nodup :=
    List.pairwise_map.2 (ordered.imp Precedes.id_ne)
  rw [moduleInfo, find?_of_nodup distinct member]

/-! ## The search for records -/

/--
Looking for the records of a container, from an index on and in their order, up
to the first that is missing or until all that are counted were seen: how many
were looked for, and which one is missing.
-/
inductive Searches (container : Container) (count : Nat) : Nat → Nat → Option Nat → Prop
  | finished {index : Nat}
      (uncounted : count ≤ index) :
      Searches container count index 0 none
  | missing {index : Nat}
      (counted : index < count)
      (absent : container.contains (InvocationRecord.entryName index) = false) :
      Searches container count index 1 (some index)
  | next {index looks : Nat} {found : Option Nat}
      (counted : index < count)
      (stored : container.contains (InvocationRecord.entryName index) = true)
      (later : Searches container count (index + 1) looks found) :
      Searches container count index (looks + 1) found

section Searching

variable
    {container : Container}
    {count index looks : Nat}
    {found : Option Nat}

/-- Records that are stored are passed one by one. -/
theorem Searches.pass
    {stored : Nat}
    (counted : index + stored ≤ count)
    (there : ∀ other, index ≤ other → other < index + stored →
      container.contains (InvocationRecord.entryName other) = true)
    (later : Searches container count (index + stored) looks found) :
    Searches container count index (stored + looks) found := by
  induction stored generalizing index with
  | zero =>
    rw [Nat.zero_add]
    exact later
  | succ stored ih =>
    have step : index + (stored + 1) = index + 1 + stored := by omega
    rw [step] at counted there later
    have further : Searches container count (index + 1) (stored + looks) found := by
      refine ih counted ?_ later
      intro other behind before
      exact there other (by omega) before
    have total : stored + 1 + looks = stored + looks + 1 := by omega
    rw [total]
    exact .next (by omega) (there index (Nat.le_refl index) (by omega)) further

/-- The search ends after no more looks than the container has entries, and one. -/
theorem FirstMissing.searches
    (first : FirstMissing container count found) :
    ∃ looks ≤ container.entries.length + 1, Searches container count 0 looks found := by
  cases first with
  | none stored =>
    have few := le_length_of_stored stored
    refine ⟨count + 0, by omega, ?_⟩
    refine Searches.pass (by omega) (fun other _ before => stored other (by omega)) ?_
    exact .finished (by omega)
  | some counted missing stored =>
    next index =>
    have few := le_length_of_stored stored
    refine ⟨index + 1, by omega, ?_⟩
    refine Searches.pass (by omega) (fun other _ before => stored other (by omega)) ?_
    rw [Nat.zero_add]
    exact .missing counted missing

/-- A search has only one end. -/
theorem Searches.unique
    (searching : Searches container count index looks found)
    {otherLooks : Nat}
    {other : Option Nat}
    (again : Searches container count index otherLooks other) :
    looks = otherLooks ∧ found = other := by
  induction searching generalizing otherLooks with
  | finished uncounted =>
    cases again with
    | finished _ => exact ⟨rfl, rfl⟩
    | missing counted _ => omega
    | next counted _ _ => omega
  | missing counted absent =>
    cases again with
    | finished uncounted => omega
    | missing _ _ => exact ⟨rfl, rfl⟩
    | next _ stored _ =>
      rw [absent] at stored
      cases stored
  | next counted stored _ ih =>
    cases again with
    | finished uncounted => omega
    | missing _ absent =>
      rw [absent] at stored
      cases stored
    | next _ _ later =>
      rcases ih later with ⟨sameLooks, sameEnd⟩
      exact ⟨congrArg (· + 1) sameLooks, sameEnd⟩

end Searching

/-! ## Complete archives -/

/--
Nothing that an archive speaks of is missing.  The documents, the counted
records and the listed modules are stored; an index is out of range exactly if
it is not counted, and every listed module is found under its identity.
-/
structure Complete (archive : Archive) : Prop where
  manifestStored : archive.container.contains Manifest.entryName = true
  indexStored : archive.container.contains ModuleIndex.entryName = true
  recordStored : ∀ index < archive.count,
    archive.container.contains (InvocationRecord.entryName index) = true
  outOfRange : ∀ index,
    archive.record index = .error (.outOfRange index archive.count) ↔ archive.count ≤ index
  record : ∀ index < archive.count, Present (archive.record index)
  moduleStored : ∀ info ∈ archive.modules, archive.container.contains info.id.entryName = true
  moduleInfo : ∀ info ∈ archive.modules, archive.moduleInfo info.id = .ok info
  module : ∀ info ∈ archive.modules, Present (archive.module info.id)
  moduleDigest : ∀ info ∈ archive.modules,
    ∃ digest, archive.moduleDigest info.id = .ok digest

section Answers

variable
    {archive : Archive}
    {index : Nat}

/-- A stored record is served, or it is damaged or foreign. -/
theorem present_record
    (counted : index < archive.count)
    (stored : archive.container.contains (InvocationRecord.entryName index) = true) :
    Present (archive.record index) := by
  rw [record, if_neg (Nat.not_le.2 counted)]
  rcases Container.read_of_contains stored with ⟨document, read⟩ | ⟨cause, withheld⟩
  · rw [read]
    exact InvocationRecord.present_decode document
  · rw [withheld]
    exact .corrupt cause

/-- An index is out of range exactly if it is not counted, where counted records are there. -/
theorem record_eq_outOfRange_iff
    (there : index < archive.count → Present (archive.record index)) :
    archive.record index = .error (.outOfRange index archive.count) ↔ archive.count ≤ index := by
  constructor
  · intro refused
    by_contra counted
    have present := there (Nat.not_le.1 counted)
    rw [refused] at present
    cases present
  · intro uncounted
    rw [record, if_pos uncounted]

/-- The image of a stored module is served, or it is damaged. -/
theorem present_module
    {id : ModuleId}
    (stored : archive.container.contains id.entryName = true) :
    Present (archive.module id) := by
  rw [module]
  rcases Container.read_of_contains stored with ⟨image, read⟩ | ⟨cause, withheld⟩
  · rw [read]
    exact .served image
  · rw [withheld]
    exact .corrupt cause

/-- The digest of a stored module is known. -/
theorem moduleDigest_of_contains
    {id : ModuleId}
    (stored : archive.container.contains id.entryName = true) :
    ∃ digest, archive.moduleDigest id = .ok digest := by
  rcases Option.isSome_iff_exists.1 stored with ⟨entry, found⟩
  exact ⟨entry.digest, by rw [moduleDigest, found]⟩

end Answers

/-- An archive that its container describes is complete. -/
theorem complete_of_ofContainer
    {container : Container}
    {archive : Archive}
    (opening : ofContainer container = .ok archive) :
    archive.Complete := by
  have modulesStored := (contains_of_ofContainer opening).2
  rcases ofContainer_eq_ok_iff.1 opening with ⟨rfl, infos, describes, adding⟩
  have ordered := pairwise_of_addModules List.Pairwise.nil adding
  rcases describes.manifestRead with ⟨_, manifestRead, -⟩
  rcases describes.indexRead with ⟨_, indexRead, -⟩
  have record : ∀ index < archive.count, Present (archive.record index) :=
    fun index counted => present_record counted (describes.recordsStored index counted)
  exact {
    manifestStored := Container.contains_of_read manifestRead
    indexStored := Container.contains_of_read indexRead
    recordStored := describes.recordsStored
    outOfRange := fun index => record_eq_outOfRange_iff (record index)
    record := record
    moduleStored := modulesStored
    moduleInfo := fun info member => moduleInfo_of_pairwise ordered member
    module := fun info member => present_module (modulesStored info member)
    moduleDigest := fun info member => moduleDigest_of_contains (modulesStored info member) }

/-- A container opens as some archive exactly if all that its documents speak of is stored. -/
theorem ofContainer_isOk_iff
    {container : Container} :
    (∃ archive, ofContainer container = .ok archive) ↔
      ∃ manifest infos diagnostics, Describes container manifest infos diagnostics := by
  constructor
  · rintro ⟨archive, opening⟩
    rcases ofContainer_eq_ok_iff.1 opening with ⟨-, infos, describes, -⟩
    exact ⟨archive.manifest, infos, archive.diagnostics, describes⟩
  · rintro ⟨manifest, infos, diagnostics, describes⟩
    rcases addModules_isOk describes.modulesStored [] with ⟨modules, adding⟩
    exact ⟨{ container, manifest, modules, diagnostics },
      ofContainer_eq_ok_iff.2 ⟨rfl, infos, describes, adding⟩⟩

/--
Whatever a file holds, an archive that is opened from it is complete, and its
search for the counted records found none missing.  An archive is opened
exactly if its container has all that its manifest and its index speak of.
However many records a manifest counts, the search ends after no more looks
than the container has entries, and one.
-/
theorem opened_archive_is_complete
    (files : FileSystem)
    (path : String)
    (config : ReaderConfig) :
    (∀ archive, openFile files path config = .ok archive →
        archive.Complete ∧
          ∃ looks, Searches archive.container archive.count 0 looks none) ∧
      ((∃ archive, openFile files path config = .ok archive) ↔
        ∃ container manifest infos diagnostics,
          Container.openFile files path config.verifyChecksums = .ok container ∧
            Describes container manifest infos diagnostics) ∧
      ∀ container count, ∃ looks ≤ container.entries.length + 1,
        Searches container count 0 looks (missingRecord? container count) := by
  refine ⟨?_, ?_, ?_⟩
  · intro archive opened
    rcases openFile_eq_ok_iff.1 opened with ⟨container, -, opening⟩
    have complete := complete_of_ofContainer opening
    have search : FirstMissing archive.container archive.count none := .none complete.recordStored
    rcases search.searches with ⟨looks, -, searches⟩
    exact ⟨complete, looks, searches⟩
  · constructor
    · rintro ⟨archive, opened⟩
      rcases openFile_eq_ok_iff.1 opened with ⟨container, openedContainer, opening⟩
      rcases ofContainer_isOk_iff.1 ⟨archive, opening⟩ with
        ⟨manifest, infos, diagnostics, describes⟩
      exact ⟨container, manifest, infos, diagnostics, openedContainer, describes⟩
    · rintro ⟨container, manifest, infos, diagnostics, openedContainer, describes⟩
      rcases ofContainer_isOk_iff.2 ⟨manifest, infos, diagnostics, describes⟩ with
        ⟨archive, opening⟩
      exact ⟨archive, openFile_eq_ok_iff.2 ⟨container, openedContainer, opening⟩⟩
  · intro container count
    exact (firstMissing_missingRecord? container count).searches

/-! ## One record, counted in two ways -/

/-- An image with these documents, each stored as it is. -/
def imageOf
    (documents : List (String × Octets)) :
    Octets :=
  let draft : Container.Draft := { image := Container.header 0, compression := {} }
  let filled := documents.foldl (fun draft document =>
    let (pending, longer) := draft.append document.2 (document.2, 0)
    { longer with entries := draft.entries ++ [pending.named document.1] }) draft
  filled.sealedImage

/-- A module without exports. -/
def listedModule : ModuleInfo where
  id := .repeating 7
  name := "m"
  version := ⟨1, 0, 0, 0⟩
  dependencies := []
  exports := []

/-- An archive with one record, which is empty, and one module; the manifest counts as it likes. -/
def counting
    (recordCount : UInt64) :
    Octets :=
  imageOf [
    (Manifest.entryName, Manifest.encode { Manifest.new .unix with recordCount }),
    (InvocationRecord.entryName 0, []),
    (ModuleIndex.entryName, ModuleIndex.encode [listedModule]),
    (listedModule.id.entryName, [1, 2, 3])]

/-- A file system with an archive that counts one record and one that counts as many as it can. -/
def countingFiles : FileSystem where
  workingDirectory := []
  nodes := [
    (["one"], .file 1 1 (counting 1)),
    (["many"], .file 2 2 (counting 18446744073709551615))]
  clock := 3

set_option maxRecDepth 100000 in
/-- The archive that counts one record opens and is complete, the other is refused. -/
theorem overcounted_archive_is_refused :
    openFile countingFiles "many" {} = .error (.corrupt (.missingEntry "records/1.json")) ∧
      ∃ archive, openFile countingFiles "one" {} = .ok archive ∧ archive.count = 1 ∧
        archive.record 1 = .error (.outOfRange 1 1) ∧ Present (archive.record 0) ∧
        archive.moduleInfo listedModule.id = .ok listedModule ∧
        Present (archive.module listedModule.id) := by
  have facts :
      openFile countingFiles "many" {} = .error (.corrupt (.missingEntry "records/1.json")) ∧
        (openFile countingFiles "one" {}).map (fun archive => (archive.count, archive.modules)) =
          .ok (1, [listedModule]) := by
    decide +kernel
  rcases facts with ⟨refused, outcome⟩
  refine ⟨refused, ?_⟩
  cases opened : openFile countingFiles "one" {} with
  | error failure =>
    rw [opened] at outcome
    cases outcome
  | ok archive =>
    rw [opened] at outcome
    rcases Prod.mk.inj (Except.ok.inj outcome) with ⟨count, modules⟩
    rcases (opened_archive_is_complete countingFiles "one" {}).1 archive opened with
      ⟨complete, -⟩
    have listed : listedModule ∈ archive.modules := by
      rw [modules]
      exact List.mem_cons_self
    have beyond := (complete.outOfRange 1).2 (Nat.le_of_eq count)
    rw [count] at beyond
    refine ⟨archive, rfl, count, beyond, ?_, complete.moduleInfo _ listed,
      complete.module _ listed⟩
    exact complete.record 0 (by rw [count]; exact Nat.one_pos)

end Archive

end BuildCapture
