import BuildCapture.Container.Draft
import BuildCapture.Proofs.Container.DirectoryCodec
import BuildCapture.Proofs.Container.Opening
import Mathlib.Data.List.Nodup
import Mathlib.Tactic.Basic

/-!
# Opening a finished draft

A finished draft is an image that starts with a header and ends with the
directory of its entries and their trailer.  Opening it therefore only depends
on the entries: it succeeds if each of them lies between the header and the
directory and no two share a name, and it then lists the same entries in the
order of their names.
-/

namespace BuildCapture

/-- Where all keys are different, each item is found under its own. -/
theorem find?_of_nodup
    {Item Key : Type}
    [DecidableEq Key]
    {key : Item → Key}
    {items : List Item}
    (distinct : (items.map key).Nodup)
    {item : Item}
    (member : item ∈ items) :
    items.find? (fun other => key other == key item) = some item := by
  induction items with
  | nil => exact absurd member List.not_mem_nil
  | cons first rest ih =>
    rw [List.map_cons, List.nodup_cons] at distinct
    rcases List.mem_cons.1 member with rfl | later
    · simp
    · have different : (key first == key item) = false := by
        apply beq_false_of_ne
        intro same
        exact distinct.1 (same ▸ List.mem_map_of_mem later)
      rw [List.find?_cons, different]
      exact ih distinct.2 later

namespace Container

/-! ## Header and trailer -/

theorem length_header
    (flags : UInt32) :
    (header flags).length = headerLength :=
  rfl

/-- A written header is read back, whatever follows it. -/
theorem readHeader_header
    (flags : UInt32)
    (rest : Octets) :
    readHeader (header flags ++ rest) = .ok flags := by
  have magicSlice :
      Octets.slice (header flags ++ rest) 0 4 = Octets.littleEndian 4 magic.toNat := by
    rw [header]
    simp only [List.append_assoc]
    exact Octets.slice_append_zero (Octets.length_littleEndian 4 _) _
  have versionSlice :
      Octets.slice (header flags ++ rest) 4 4 = Octets.littleEndian 4 layoutVersion.toNat := by
    rw [header]
    simp only [List.append_assoc]
    simp (disch := simp) only [Octets.slice_append_of_length_le, Octets.slice_append_zero,
      Octets.length_littleEndian, Nat.reduceSub]
  have flagsSlice :
      Octets.slice (header flags ++ rest) 8 4 = Octets.littleEndian 4 flags.toNat := by
    rw [header]
    simp only [List.append_assoc]
    simp (disch := simp) only [Octets.slice_append_of_length_le, Octets.slice_append_zero,
      Octets.length_littleEndian, Nat.reduceSub]
  have magicWord : wordAt (header flags ++ rest) 0 = magic := by
    rw [wordAt, magicSlice, Octets.toNat_littleEndian 4 _ magic.toNat_lt, UInt32.ofNat_toNat]
  have versionWord : wordAt (header flags ++ rest) 4 = layoutVersion := by
    rw [wordAt, versionSlice, Octets.toNat_littleEndian 4 _ layoutVersion.toNat_lt,
      UInt32.ofNat_toNat]
  have flagsWord : wordAt (header flags ++ rest) 8 = flags := by
    rw [wordAt, flagsSlice, Octets.toNat_littleEndian 4 _ flags.toNat_lt, UInt32.ofNat_toNat]
  have long : ¬ (header flags ++ rest).length < headerLength := by
    rw [List.length_append, length_header, Nat.not_lt]
    exact Nat.le_add_right headerLength _
  have present : (header flags ++ rest).isEmpty = false := rfl
  have notNewer : ¬ layoutVersion > layoutVersion := by decide
  rw [readHeader]
  simp only [present, long, magicWord, versionWord, flagsWord, notNewer, ne_eq, not_true_eq_false,
    if_false, Bool.false_eq_true]

namespace Trailer

/-- Every field of a trailer fits the octets that the container has for it. -/
structure Fits (trailer : Trailer) : Prop where
  directoryOffset : trailer.directoryOffset < Octets.bound 8
  directoryLength : trailer.directoryLength < Octets.bound 8
  entryCount : trailer.entryCount < Octets.bound 8

theorem length_octets
    (trailer : Trailer) :
    trailer.octets.length = trailerLength :=
  rfl

/-- A written trailer starts with its magic word. -/
theorem wordAt_octets
    (trailer : Trailer) :
    wordAt trailer.octets 0 = trailerMagic := by
  have magicSlice : Octets.slice trailer.octets 0 4 = Octets.littleEndian 4 trailerMagic.toNat := by
    rw [octets]
    simp only [List.append_assoc]
    exact Octets.slice_append_zero (Octets.length_littleEndian 4 _) _
  rw [wordAt, magicSlice, Octets.toNat_littleEndian 4 _ trailerMagic.toNat_lt,
    UInt32.ofNat_toNat]

/-- A written trailer is read back. -/
theorem ofOctets_octets
    {trailer : Trailer}
    (fits : trailer.Fits) :
    ofOctets trailer.octets = .ok trailer := by
  have fieldSlices :
      Octets.slice trailer.octets 8 8 = Octets.littleEndian 8 trailer.directoryOffset ∧
        Octets.slice trailer.octets 16 8 = Octets.littleEndian 8 trailer.directoryLength ∧
        Octets.slice trailer.octets 24 8 = Octets.littleEndian 8 trailer.entryCount ∧
        Octets.slice trailer.octets 32 4 =
          Octets.littleEndian 4 trailer.directoryChecksum.toNat := by
    rw [octets]
    simp only [List.append_assoc]
    refine ⟨?_, ?_, ?_, ?_⟩ <;>
      simp (disch := simp) only [Octets.slice_append_of_length_le, Octets.slice_append_zero,
        Octets.length_littleEndian, Nat.reduceSub]
  rcases fieldSlices with ⟨offsetSlice, lengthSlice, countSlice, checksumSlice⟩
  rw [ofOctets_eq_ok_iff]
  constructor
  · exact wordAt_octets trailer
  · rw [spelled, numberAt, numberAt, numberAt, wordAt, offsetSlice, lengthSlice, countSlice,
      checksumSlice, Octets.toNat_littleEndian 8 _ fits.directoryOffset,
      Octets.toNat_littleEndian 8 _ fits.directoryLength,
      Octets.toNat_littleEndian 8 _ fits.entryCount,
      Octets.toNat_littleEndian 4 _ trailer.directoryChecksum.toNat_lt, UInt32.ofNat_toNat]

end Trailer

/-! ## Ordering entries by name -/

/-- Placing an entry adds it to those that are there. -/
theorem perm_of_placeByName?
    {entry : DirectoryEntry}
    {known placed : List DirectoryEntry}
    (place : placeByName? entry known = some placed) :
    placed.Perm (entry :: known) := by
  induction known generalizing placed with
  | nil =>
    cases place
    exact List.Perm.refl _
  | cons first rest ih =>
    rw [placeByName?] at place
    split at place
    · cases place
    split at place
    · cases place
      exact List.Perm.refl _
    · rcases Option.map_eq_some_iff.1 place with ⟨others, placedOthers, rfl⟩
      exact ((ih placedOthers).cons first).trans (List.Perm.swap entry first rest)

/-- An entry whose name is free can be placed. -/
theorem placeByName?_isSome
    {entry : DirectoryEntry}
    {known : List DirectoryEntry}
    (free : entry.name ∉ known.map DirectoryEntry.name) :
    ∃ placed, placeByName? entry known = some placed := by
  induction known with
  | nil => exact ⟨[entry], rfl⟩
  | cons first rest ih =>
    rw [List.map_cons, List.mem_cons, not_or] at free
    rcases ih free.2 with ⟨placed, place⟩
    rw [placeByName?, if_neg free.1, place]
    split
    · exact ⟨_, rfl⟩
    · exact ⟨_, rfl⟩

/-- Added entries join those that are known, and each of them lies within the limits. -/
theorem perm_of_addEntries
    {limit : Nat}
    {known entries added : List DirectoryEntry}
    (adding : addEntries limit known entries = .ok added) :
    added.Perm (known ++ entries) ∧
      ∀ entry ∈ entries, headerLength ≤ entry.offset ∧ entry.storedEnd ≤ limit := by
  induction entries generalizing known with
  | nil =>
    cases adding
    rw [List.append_nil]
    exact ⟨List.Perm.refl _, fun entry member => absurd member List.not_mem_nil⟩
  | cons entry rest ih =>
    rw [addEntries] at adding
    split at adding
    · cases adding
    split at adding
    · cases adding
    next within =>
    split at adding
    · cases adding
    next placed place =>
    rcases ih adding with ⟨perm, inside⟩
    rw [not_or, Nat.not_lt, Nat.not_lt] at within
    constructor
    · have joined := (perm_of_placeByName? place).append_right rest
      exact perm.trans (joined.trans List.perm_middle.symm)
    · intro other member
      rcases List.mem_cons.1 member with rfl | later
      · exact within
      · exact inside other later

/-- Entries within the limits whose names are all different can be added. -/
theorem addEntries_isOk
    {limit : Nat}
    (narrow : limit < Octets.bound 8)
    {known entries : List DirectoryEntry}
    (distinct : ((known ++ entries).map DirectoryEntry.name).Nodup)
    (inside : ∀ entry ∈ entries, headerLength ≤ entry.offset ∧ entry.storedEnd ≤ limit) :
    ∃ added, addEntries limit known entries = .ok added := by
  induction entries generalizing known with
  | nil => exact ⟨known, rfl⟩
  | cons entry rest ih =>
    rcases inside entry List.mem_cons_self with ⟨behind, before⟩
    have distinctNames :
        ((entry :: (known ++ rest)).map DirectoryEntry.name).Nodup :=
      (List.perm_middle.map DirectoryEntry.name).nodup_iff.1 distinct
    have free : entry.name ∉ known.map DirectoryEntry.name := by
      intro taken
      rw [List.map_cons, List.nodup_cons, List.map_append, List.mem_append] at distinctNames
      exact distinctNames.1 (Or.inl taken)
    rcases placeByName?_isSome free with ⟨placed, place⟩
    have joined := (perm_of_placeByName? place).append_right rest
    have distinctPlaced : ((placed ++ rest).map DirectoryEntry.name).Nodup :=
      (joined.map DirectoryEntry.name).nodup_iff.2 distinctNames
    have noOverflow : ¬ entry.storedEnd ≥ Octets.bound 8 :=
      Nat.not_le.2 (Nat.lt_of_le_of_lt before narrow)
    have within : ¬ (entry.offset < headerLength ∨ entry.storedEnd > limit) := by
      rw [not_or]
      exact ⟨Nat.not_lt.2 behind, Nat.not_lt.2 before⟩
    rcases ih distinctPlaced fun other member => inside other (List.mem_cons_of_mem _ member) with
      ⟨added, adding⟩
    refine ⟨added, ?_⟩
    rw [addEntries, if_neg noOverflow, if_neg within, place]
    exact adding

/-! ## Images of finished drafts -/

namespace Draft

/-- The image of a draft starts with a header. -/
def StartsWithHeader (draft : Draft) : Prop :=
  ∃ flags rest, draft.image = header flags ++ rest

/-- A draft whose entries and whose finished image have sizes that a container can state. -/
structure Sizes (draft : Draft) : Prop where
  entries : ∀ entry ∈ draft.entries, entry.Fits
  image : draft.sealedImage.length < Octets.bound 8

theorem StartsWithHeader.headerLength_le
    {draft : Draft}
    (starts : draft.StartsWithHeader) :
    headerLength ≤ draft.image.length := by
  rcases starts with ⟨flags, rest, image⟩
  rw [image, List.length_append, length_header]
  exact Nat.le_add_right headerLength _

/-- The trailer of a finished draft. -/
def closing
    (draft : Draft) :
    Trailer where
  directoryOffset := draft.image.length
  directoryLength := (DirectoryEntry.encodeAll draft.entries).length
  entryCount := draft.entries.length
  directoryChecksum := crc32 (DirectoryEntry.encodeAll draft.entries)

theorem sealedImage_eq
    (draft : Draft) :
    draft.sealedImage =
      draft.image ++ (DirectoryEntry.encodeAll draft.entries ++ draft.closing.octets) :=
  rfl

theorem length_sealedImage
    (draft : Draft) :
    draft.sealedImage.length =
      draft.image.length + (DirectoryEntry.encodeAll draft.entries).length + trailerLength := by
  rw [sealedImage_eq, List.length_append, List.length_append, Trailer.length_octets,
    Nat.add_assoc]

/-- Every entry takes at least one octet of the directory. -/
theorem length_le_encodeAll
    (entries : List DirectoryEntry) :
    entries.length ≤ (DirectoryEntry.encodeAll entries).length := by
  induction entries with
  | nil => exact Nat.le_refl 0
  | cons entry rest ih =>
    have first : 1 ≤ entry.encode.length := by
      rw [DirectoryEntry.encode_eq, List.length_append, DirectoryEntry.length_fixedPart]
      exact Nat.le_trans (by decide) (Nat.le_add_right DirectoryEntry.fixedLength _)
    have spelled :
        DirectoryEntry.encodeAll (entry :: rest) =
          entry.encode ++ DirectoryEntry.encodeAll rest := rfl
    rw [spelled, List.length_append, List.length_cons]
    omega

/-- The trailer of a finished draft states what its fields have room for. -/
theorem closing_fits
    {draft : Draft}
    (small : draft.sealedImage.length < Octets.bound 8) :
    draft.closing.Fits := by
  have length := draft.length_sealedImage
  have counted := length_le_encodeAll draft.entries
  constructor
  · show draft.image.length < Octets.bound 8
    omega
  · show (DirectoryEntry.encodeAll draft.entries).length < Octets.bound 8
    omega
  · show draft.entries.length < Octets.bound 8
    omega

/-- The directory stands where the trailer says. -/
theorem slice_sealedImage
    (draft : Draft) :
    Octets.slice draft.sealedImage draft.closing.directoryOffset draft.closing.directoryLength =
      DirectoryEntry.encodeAll draft.entries :=
  Octets.slice_middle draft.image (DirectoryEntry.encodeAll draft.entries) draft.closing.octets

/-- The trailer is the end of the finished image. -/
theorem drop_sealedImage
    (draft : Draft) :
    draft.sealedImage.drop (draft.sealedImage.length - trailerLength) =
      draft.closing.octets := by
  have front :
      draft.sealedImage.length - trailerLength =
        (draft.image ++ DirectoryEntry.encodeAll draft.entries).length := by
    rw [length_sealedImage, List.length_append, Nat.add_sub_cancel]
  rw [front, sealedImage_eq, ← List.append_assoc, List.drop_left]

/-- The finished image lists the entries of the draft. -/
theorem lists_sealedImage
    {draft : Draft}
    (starts : draft.StartsWithHeader)
    (sizes : draft.Sizes) :
    Lists draft.sealedImage draft.closing draft.entries := by
  have behindHeader := starts.headerLength_le
  have length := draft.length_sealedImage
  have small := sizes.image
  have trailerLength_eq : trailerLength = 64 := rfl
  constructor
  case long =>
    rw [length]
    omega
  case trailer_read =>
    rw [drop_sealedImage]
    exact Trailer.ofOctets_octets (closing_fits sizes.image)
  case narrow =>
    show draft.image.length + (DirectoryEntry.encodeAll draft.entries).length < Octets.bound 8
    omega
  case behindHeader => exact behindHeader
  case meetsTrailer =>
    show draft.image.length + (DirectoryEntry.encodeAll draft.entries).length = _
    omega
  case checksum =>
    rw [slice_sealedImage]
    rfl
  case decoded =>
    rw [slice_sealedImage]
    exact DirectoryEntry.decodeAll_encodeAll sizes.entries

/-- The finished image lists nothing else. -/
theorem Sizes.lists_unique
    {draft : Draft}
    (sizes : draft.Sizes)
    {trailer : Trailer}
    {listed : List DirectoryEntry}
    (lists : Lists draft.sealedImage trailer listed) :
    trailer = draft.closing ∧ listed = draft.entries := by
  have trailerRead := lists.trailer_read
  rw [drop_sealedImage, Trailer.ofOctets_octets (closing_fits sizes.image)] at trailerRead
  have sameTrailer : draft.closing = trailer := Except.ok.inj trailerRead
  subst sameTrailer
  have decoded := lists.decoded
  rw [slice_sealedImage] at decoded
  exact ⟨rfl, Except.ok.inj (decoded.symm.trans (DirectoryEntry.decodeAll_encodeAll sizes.entries))⟩

/-- A finished draft can be opened exactly if its entries lie within its image. -/
theorem ofImage_sealedImage_isOk_iff
    {draft : Draft}
    (starts : draft.StartsWithHeader)
    (sizes : draft.Sizes)
    (distinct : (draft.entries.map DirectoryEntry.name).Nodup)
    (behind : ∀ entry ∈ draft.entries, headerLength ≤ entry.offset)
    (path : String)
    (verify : Bool) :
    (∃ container, ofImage path draft.sealedImage verify = .ok container) ↔
      ∀ entry ∈ draft.entries, entry.storedEnd ≤ draft.image.length := by
  have lists := lists_sealedImage starts sizes
  constructor
  · rintro ⟨container, opened⟩
    rcases ofImage_eq_ok_iff.1 opened with ⟨flags, entries, -, read, -⟩
    rcases readEntries_eq_ok_iff.1 read with ⟨trailer, listed, others, adding⟩
    rcases sizes.lists_unique others with ⟨rfl, rfl⟩
    intro entry member
    exact ((perm_of_addEntries adding).2 entry member).2
  · intro inside
    have narrow : draft.image.length < Octets.bound 8 := by
      have length := draft.length_sealedImage
      have small := sizes.image
      omega
    have distinctListed : (([] ++ draft.entries).map DirectoryEntry.name).Nodup := distinct
    rcases
        addEntries_isOk narrow distinctListed
          fun entry member => ⟨behind entry member, inside entry member⟩ with
      ⟨added, adding⟩
    rcases starts with ⟨flags, rest, image⟩
    have headerRead : readHeader draft.sealedImage = .ok flags := by
      rw [sealedImage_eq, image, List.append_assoc]
      exact readHeader_header flags _
    have entriesRead : readEntries draft.sealedImage = .ok added :=
      readEntries_eq_ok_iff.2 ⟨draft.closing, draft.entries, lists, adding⟩
    exact ⟨_, ofImage_eq_ok_iff.2 ⟨flags, added, headerRead, entriesRead, rfl⟩⟩

/-- An opened finished draft has the entries of the draft. -/
theorem entries_of_ofImage_sealedImage
    {draft : Draft}
    (sizes : draft.Sizes)
    {path : String}
    {verify : Bool}
    {container : Container}
    (opened : ofImage path draft.sealedImage verify = .ok container) :
    container.image = draft.sealedImage ∧ container.verify = verify ∧
      container.entries.Perm draft.entries := by
  rcases ofImage_eq_ok_iff.1 opened with ⟨flags, entries, -, read, rfl⟩
  rcases readEntries_eq_ok_iff.1 read with ⟨trailer, listed, others, adding⟩
  rcases sizes.lists_unique others with ⟨rfl, rfl⟩
  exact ⟨rfl, rfl, (perm_of_addEntries adding).1⟩

end Draft

end Container

end BuildCapture
