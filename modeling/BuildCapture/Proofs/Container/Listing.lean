import BuildCapture.Proofs.Container.Sealing

/-!
# Which images open

The fields of an entry fill the octets in front of its name without a gap, so
reading a directory is the exact inverse of writing one: octets decode to some
entries only if they are what these entries encode to.  In particular every
entry that was read has fields which a directory can state.

Entries are put in the order of their names one by one, and a name that is
already there is noticed.  An image therefore opens exactly if it starts with a
header and ends with a directory of entries with different names, each of which
lies between the header and the directory, and a trailer that states it.
-/

namespace BuildCapture

namespace Octets

/-! ## Numbers and texts -/

/-- Octets write a number that fits them. -/
theorem toNat_lt_bound
    (data : Octets) :
    toNat data < bound data.length := by
  induction data with
  | nil => exact Nat.one_pos
  | cons octet rest ih =>
    have small := octet.toNat_lt
    have wide : bound (octet :: rest).length = bound rest.length * 256 := rfl
    rw [toNat, wide]
    omega

/-- The octets of the number that octets write are those octets. -/
theorem littleEndian_toNat
    (data : Octets) :
    littleEndian data.length (toNat data) = data := by
  induction data with
  | nil => rfl
  | cons octet rest ih =>
    have small := octet.toNat_lt
    have low : UInt8.ofNat (octet.toNat + 256 * toNat rest) = octet := by
      apply UInt8.toNat_inj.1
      rw [UInt8.toNat_ofNat']
      omega
    have high : (octet.toNat + 256 * toNat rest) / 256 = toNat rest := by omega
    rw [toNat, List.length_cons, littleEndian, low, high, ih]

/-- A text that octets are read as has these octets. -/
theorem ofText_of_text?
    {data : Octets}
    {text : String}
    (read : text? data = some text) :
    ofText text = data := by
  rw [text?, String.fromUTF8?] at read
  split at read
  · cases read
    rfl
  · cases read

/-- Octets that are a vector are exactly its octets. -/
theorem toList_of_toVector?
    {size : Nat}
    {data : Octets}
    {vector : Vector UInt8 size}
    (read : toVector? size data = some vector) :
    vector.toList = data := by
  rw [toVector?] at read
  split at read
  · cases read
    rfl
  · cases read

/-! ## Slices -/

/-- A number of some octets is written back as these octets. -/
theorem littleEndian_toNat_slice
    {data : Octets}
    {offset length : Nat}
    (inside : offset + length ≤ data.length) :
    littleEndian length (toNat (slice data offset length)) = slice data offset length := by
  have same := littleEndian_toNat (slice data offset length)
  rw [length_slice inside] at same
  exact same

/-- A number of some octets fits them. -/
theorem toNat_slice_lt
    {data : Octets}
    {offset length : Nat}
    (inside : offset + length ≤ data.length) :
    toNat (slice data offset length) < bound length := by
  have small := toNat_lt_bound (slice data offset length)
  rw [length_slice inside] at small
  exact small

end Octets

namespace DirectoryEntry

/-! ## Directories -/

/-- The entry that octets spell in front of its name. -/
def spelled
    (data : Octets)
    (name : String)
    (digest : Digest) :
    DirectoryEntry where
  name := name
  flags := UInt16.ofNat (Octets.toNat (Octets.slice data 2 2))
  offset := Container.numberAt data 4
  storedLength := Container.numberAt data 12
  rawLength := Container.numberAt data 20
  checksum := Container.wordAt data 28
  digest := digest

/-- A spelled entry is written with the octets that spell it. -/
theorem fixedPart_spelled
    {data : Octets}
    {name : String}
    {digest : Digest}
    (long : fixedLength ≤ data.length)
    (nameLength : (Octets.ofText name).length = Octets.toNat (Octets.slice data 0 2))
    (digestOctets : digest.toList = Octets.slice data 32 32) :
    (spelled data name digest).fixedPart = data.take fixedLength := by
  have enough : 64 ≤ data.length := long
  have flags :
      (spelled data name digest).flags.toNat = Octets.toNat (Octets.slice data 2 2) :=
    UInt16.toNat_ofNat_of_lt' (Octets.toNat_slice_lt (by omega : 2 + 2 ≤ data.length))
  have checksum :
      (spelled data name digest).checksum.toNat = Octets.toNat (Octets.slice data 28 4) :=
    UInt32.toNat_ofNat_of_lt' (Octets.toNat_slice_lt (by omega : 28 + 4 ≤ data.length))
  rw [fixedPart, flags, checksum]
  simp only [spelled, Container.numberAt, nameLength, digestOctets]
  -- every field is written back as its slice, and each slice ends where the next one starts
  simp (disch := omega) only [Octets.littleEndian_toNat_slice, Octets.slice_append_slice]
  rfl

/-- A spelled entry has fields that a directory can state. -/
theorem fits_spelled
    {data : Octets}
    {name : String}
    {digest : Digest}
    (long : fixedLength ≤ data.length)
    (nameLength : (Octets.ofText name).length = Octets.toNat (Octets.slice data 0 2)) :
    (spelled data name digest).Fits := by
  have enough : 64 ≤ data.length := long
  constructor
  case name =>
    show (Octets.ofText name).length < Octets.bound 2
    rw [nameLength]
    exact Octets.toNat_slice_lt (by omega)
  case offset => exact Octets.toNat_slice_lt (by omega)
  case storedLength => exact Octets.toNat_slice_lt (by omega)
  case rawLength => exact Octets.toNat_slice_lt (by omega)

/-- Octets start with an entry exactly if they start with what the entry encodes to. -/
theorem takeFirst_eq_ok_iff
    {data rest : Octets}
    {entry : DirectoryEntry} :
    takeFirst data = .ok (entry, rest) ↔ entry.Fits ∧ data = entry.encode ++ rest := by
  constructor
  · intro first
    rw [takeFirst] at first
    split at first
    · cases first
    next digest digestRead =>
    simp only at first
    split at first
    · cases first
    next enoughName =>
    split at first
    · cases first
    next name nameRead =>
    cases first
    have digestOctets := Octets.toList_of_toVector? digestRead
    have nameOctets := Octets.ofText_of_text? nameRead
    have long : fixedLength ≤ data.length := by
      have full : (Octets.slice data 32 32).length = 32 := by
        rw [← digestOctets]
        exact digest.size_toArray
      rw [Octets.slice, List.length_take, List.length_drop] at full
      show 64 ≤ data.length
      omega
    have enough : 64 ≤ data.length := long
    have nameLength :
        (Octets.ofText name).length = Octets.toNat (Octets.slice data 0 2) := by
      rw [nameOctets]
      rw [List.length_take] at enoughName ⊢
      omega
    have front := fixedPart_spelled long nameLength digestOctets
    refine ⟨fits_spelled long nameLength, ?_⟩
    show data = (spelled data name digest).encode ++ _
    rw [encode_eq, front]
    show data = data.take fixedLength ++ Octets.ofText name ++ _
    rw [nameOctets, List.append_assoc, List.take_append_drop, List.take_append_drop]
  · rintro ⟨fits, rfl⟩
    exact takeFirst_encode fits rest

/-- A directory lists entries exactly if it is what they encode to. -/
theorem decodeAll_eq_ok_iff
    {count : Nat}
    {data : Octets}
    {entries : List DirectoryEntry} :
    decodeAll count data = .ok entries ↔
      count = entries.length ∧ (∀ entry ∈ entries, entry.Fits) ∧ data = encodeAll entries := by
  constructor
  · intro decoded
    induction count generalizing data entries with
    | zero =>
      rw [decodeAll] at decoded
      split at decoded
      · next empty =>
        cases decoded
        exact ⟨rfl, fun entry member => absurd member List.not_mem_nil, List.isEmpty_iff.1 empty⟩
      · cases decoded
    | succ count ih =>
      rw [decodeAll] at decoded
      split at decoded
      · cases decoded
      next entry rest first =>
      split at decoded
      · cases decoded
      next others decodedOthers =>
      cases decoded
      rcases takeFirst_eq_ok_iff.1 first with ⟨fits, rfl⟩
      rcases ih decodedOthers with ⟨rfl, fitOthers, rfl⟩
      exact ⟨rfl, List.forall_mem_cons.2 ⟨fits, fitOthers⟩, rfl⟩
  · rintro ⟨rfl, fit, rfl⟩
    exact decodeAll_encodeAll fit

end DirectoryEntry

namespace Container

/-! ## Entries in the order of their names -/

/-- The name of one entry comes before that of another. -/
def Precedes (left right : DirectoryEntry) : Prop :=
  Octets.textBefore left.name right.name

theorem precedes_iff
    {left right : DirectoryEntry} :
    Precedes left right ↔ Octets.ofText left.name < Octets.ofText right.name :=
  decide_eq_true_iff

theorem Precedes.name_ne
    {left right : DirectoryEntry}
    (precedes : Precedes left right) :
    left.name ≠ right.name := by
  intro same
  rw [precedes_iff, same] at precedes
  exact List.lt_irrefl _ precedes

theorem Precedes.trans
    {left middle right : DirectoryEntry}
    (before : Precedes left middle)
    (behind : Precedes middle right) :
    Precedes left right :=
  precedes_iff.2 (List.lt_trans (precedes_iff.1 before) (precedes_iff.1 behind))

/-- Of two entries with different names one precedes the other. -/
theorem precedes_of_not_precedes
    {left right : DirectoryEntry}
    (different : left.name ≠ right.name)
    (notBefore : ¬ Precedes left right) :
    Precedes right left := by
  rw [precedes_iff] at notBefore ⊢
  by_contra notBehind
  exact different (Octets.ofText_injective (List.le_antisymm notBehind notBefore))

/-- Among entries in order, an entry is placed in order and only if its name is free. -/
theorem pairwise_of_placeByName?
    {entry : DirectoryEntry}
    {known placed : List DirectoryEntry}
    (ordered : known.Pairwise Precedes)
    (place : placeByName? entry known = some placed) :
    placed.Pairwise Precedes := by
  induction known generalizing placed with
  | nil =>
    cases place
    exact List.pairwise_singleton Precedes entry
  | cons first rest ih =>
    rcases List.pairwise_cons.1 ordered with ⟨firstBefore, restOrdered⟩
    rw [placeByName?] at place
    split at place
    · cases place
    next different =>
    split at place
    · next before =>
      cases place
      refine List.pairwise_cons.2 ⟨?_, ordered⟩
      intro other member
      rcases List.mem_cons.1 member with rfl | later
      · exact before
      · exact Precedes.trans before (firstBefore other later)
    · next notBefore =>
      rcases Option.map_eq_some_iff.1 place with ⟨others, placeOthers, rfl⟩
      refine List.pairwise_cons.2 ⟨?_, ih restOrdered placeOthers⟩
      intro other member
      rcases List.mem_cons.1 ((perm_of_placeByName? placeOthers).mem_iff.1 member) with
        rfl | later
      · exact precedes_of_not_precedes different notBefore
      · exact firstBefore other later

/-- Added entries are in order. -/
theorem pairwise_of_addEntries
    {limit : Nat}
    {known entries added : List DirectoryEntry}
    (ordered : known.Pairwise Precedes)
    (adding : addEntries limit known entries = .ok added) :
    added.Pairwise Precedes := by
  induction entries generalizing known with
  | nil =>
    cases adding
    exact ordered
  | cons entry rest ih =>
    rw [addEntries] at adding
    split at adding
    · cases adding
    split at adding
    · cases adding
    split at adding
    · cases adding
    next placed place =>
    exact ih (pairwise_of_placeByName? ordered place) adding

/-- Entries in order have different names. -/
theorem nodup_names_of_pairwise
    {entries : List DirectoryEntry}
    (ordered : entries.Pairwise Precedes) :
    (entries.map DirectoryEntry.name).Nodup :=
  List.pairwise_map.2 (ordered.imp Precedes.name_ne)

/-! ## Opening -/

/-- Entries that can be told apart and lie between the header and a limit. -/
structure Listable (limit : Nat) (entries : List DirectoryEntry) : Prop where
  distinct : (entries.map DirectoryEntry.name).Nodup
  inside : ∀ entry ∈ entries, headerLength ≤ entry.offset ∧ entry.storedEnd ≤ limit

/-- Exactly listable entries can be put in order. -/
theorem addEntries_isOk_iff
    {limit : Nat}
    (narrow : limit < Octets.bound 8)
    {entries : List DirectoryEntry} :
    (∃ added, addEntries limit [] entries = .ok added) ↔ Listable limit entries := by
  constructor
  · rintro ⟨added, adding⟩
    rcases perm_of_addEntries adding with ⟨perm, inside⟩
    have ordered := pairwise_of_addEntries List.Pairwise.nil adding
    exact ⟨(perm.map DirectoryEntry.name).nodup_iff.1 (nodup_names_of_pairwise ordered), inside⟩
  · intro listable
    exact addEntries_isOk narrow listable.distinct listable.inside

/--
An image that consists of something as long as a header, the directory of
listable entries, and a trailer that states the directory and its place.
-/
structure Closes
    (image front : Octets)
    (listed : List DirectoryEntry)
    (closing : Octets) : Prop where
  image : image = front ++ (DirectoryEntry.encodeAll listed ++ closing)
  behindHeader : headerLength ≤ front.length
  narrow : front.length + (DirectoryEntry.encodeAll listed).length < Octets.bound 8
  fit : ∀ entry ∈ listed, entry.Fits
  listable : Listable front.length listed
  length_closing : closing.length = trailerLength
  magic : wordAt closing 0 = trailerMagic
  stated : Trailer.spelled closing = {
    directoryOffset := front.length
    directoryLength := (DirectoryEntry.encodeAll listed).length
    entryCount := listed.length
    directoryChecksum := crc32 (DirectoryEntry.encodeAll listed) }

/-- An image that lists listable entries is what these entries and its trailer make it. -/
theorem closes_of_lists
    {image : Octets}
    {trailer : Trailer}
    {listed : List DirectoryEntry}
    (lists : Lists image trailer listed)
    (listable : Listable trailer.directoryOffset listed) :
    Closes image (image.take trailer.directoryOffset) listed
      (image.drop (image.length - trailerLength)) := by
  rcases DirectoryEntry.decodeAll_eq_ok_iff.1 lists.decoded with ⟨counted, fit, directory⟩
  rcases Trailer.ofOctets_eq_ok_iff.1 lists.trailer_read with ⟨magic, spelled⟩
  have long := lists.long
  have meets := lists.meetsTrailer
  have front : (image.take trailer.directoryOffset).length = trailer.directoryOffset :=
    List.length_take_of_le (by omega)
  have directoryLength :
      (DirectoryEntry.encodeAll listed).length = trailer.directoryLength := by
    rw [← directory]
    exact Octets.length_slice (by omega)
  constructor
  case image =>
    rw [← directory, ← meets]
    exact (Octets.take_append_slice image trailer.directoryOffset trailer.directoryLength).symm
  case behindHeader =>
    rw [front]
    exact lists.behindHeader
  case narrow =>
    rw [front, directoryLength]
    exact lists.narrow
  case fit => exact fit
  case listable =>
    rw [front]
    exact listable
  case length_closing =>
    rw [List.length_drop]
    omega
  case magic => exact magic
  case stated => rw [← spelled, front, directoryLength, ← counted, ← directory, lists.checksum]

/-- An image that closes like a container lists its entries. -/
theorem Closes.lists
    {image front closing : Octets}
    {listed : List DirectoryEntry}
    (closes : Closes image front listed closing) :
    Lists image (Trailer.spelled closing) listed := by
  have length :
      image.length =
        front.length + (DirectoryEntry.encodeAll listed).length + trailerLength := by
    rw [closes.image, List.length_append, List.length_append, closes.length_closing, Nat.add_assoc]
  have ending : image.drop (image.length - trailerLength) = closing := by
    rw [length, Nat.add_sub_cancel, ← List.length_append, closes.image, ← List.append_assoc,
      List.drop_left]
  have directory :
      Octets.slice image front.length (DirectoryEntry.encodeAll listed).length =
        DirectoryEntry.encodeAll listed := by
    rw [closes.image]
    exact Octets.slice_middle front (DirectoryEntry.encodeAll listed) closing
  have behindHeader := closes.behindHeader
  constructor
  case long => omega
  case trailer_read =>
    rw [ending]
    exact Trailer.ofOctets_eq_ok_iff.2 ⟨closes.magic, rfl⟩
  case narrow =>
    rw [closes.stated]
    exact closes.narrow
  case behindHeader =>
    rw [closes.stated]
    exact behindHeader
  case meetsTrailer =>
    rw [closes.stated]
    show front.length + (DirectoryEntry.encodeAll listed).length = _
    omega
  case checksum =>
    rw [closes.stated, directory]
  case decoded =>
    rw [closes.stated, directory]
    exact DirectoryEntry.decodeAll_encodeAll closes.fit

/-- An image opens exactly if it starts with a header and closes like a container. -/
theorem ofImage_isOk_iff
    {path : String}
    {image : Octets}
    {verify : Bool} :
    (∃ container, ofImage path image verify = .ok container) ↔
      (∃ flags, readHeader image = .ok flags) ∧
        ∃ front listed closing, Closes image front listed closing := by
  constructor
  · rintro ⟨container, opened⟩
    rcases ofImage_eq_ok_iff.1 opened with ⟨flags, entries, header, read, -⟩
    rcases readEntries_eq_ok_iff.1 read with ⟨trailer, listed, lists, adding⟩
    have narrow := Nat.lt_of_le_of_lt (Nat.le_add_right _ _) lists.narrow
    exact ⟨⟨flags, header⟩, _, listed, _,
      closes_of_lists lists ((addEntries_isOk_iff narrow).1 ⟨entries, adding⟩)⟩
  · rintro ⟨⟨flags, header⟩, front, listed, closing, closes⟩
    have narrow := Nat.lt_of_le_of_lt (Nat.le_add_right _ _) closes.narrow
    rcases (addEntries_isOk_iff narrow).2 closes.listable with ⟨entries, adding⟩
    have limit : (Trailer.spelled closing).directoryOffset = front.length := by
      rw [closes.stated]
    rw [← limit] at adding
    have read := readEntries_eq_ok_iff.2 ⟨_, listed, closes.lists, adding⟩
    exact ⟨_, ofImage_eq_ok_iff.2 ⟨flags, entries, header, read, rfl⟩⟩

/-- The entries of an opened image have fields that a directory can state. -/
theorem fits_of_ofImage
    {path : String}
    {image : Octets}
    {verify : Bool}
    {container : Container}
    (opened : ofImage path image verify = .ok container) :
    ∀ entry ∈ container.entries, entry.Fits := by
  rcases ofImage_eq_ok_iff.1 opened with ⟨flags, entries, -, read, rfl⟩
  rcases readEntries_eq_ok_iff.1 read with ⟨trailer, listed, lists, adding⟩
  rcases DirectoryEntry.decodeAll_eq_ok_iff.1 lists.decoded with ⟨-, fit, -⟩
  intro entry member
  exact fit entry ((perm_of_addEntries adding).1.mem_iff.1 member)

end Container

end BuildCapture
