import BuildCapture.Proofs.Container.Sealing

/-!
# Reading an entry and streaming it

An entry is fetched whole by `read` or piece by piece by `openEntry`.  Reading
compares the length of what a compressed entry expands to with the length that
the directory states; a stream is never compared with it.  The two therefore
agree on an entry exactly if its directory entry states the length of what it
streams.

Whole data and streams are decompressed by different functions, which treat
wide windows and empty data differently.  The comparison of the two ways to
fetch is about stored octets on which these functions agree, which all octets
that an encoder writes are.
-/

namespace BuildCapture

namespace Zstd

/-! ## Two decoders -/

/-- Stored octets that are expanded whole exactly if they stream something that fits. -/
def DecodersAgree (stored : Octets) : Prop :=
  ∀ (capacity : Nat) (content : Octets),
    decompressWhole? capacity stored = some content ↔
      decompressStream? stored = some content ∧ content.length ≤ capacity

/-- Data is expanded whole if its frames decode and their contents fit. -/
theorem decompressWhole?_eq_some_iff
    {capacity : Nat}
    {stored content : Octets} :
    decompressWhole? capacity stored = some content ↔
      decompress? (Nat.pow 2 42) stored = some content ∧ content.length ≤ capacity := by
  unfold decompressWhole?
  cases decoded : decompress? (Nat.pow 2 42) stored with
  | none => simp
  | some found =>
    simp only [Option.some.injEq]
    split
    · next fits =>
      constructor
      · intro same
        cases same
        exact ⟨rfl, fits⟩
      · intro facts
        exact congrArg some facts.1
    · next long =>
      constructor
      · intro same
        cases same
      · rintro ⟨rfl, fits⟩
        exact absurd fits long

/-- Decoders that find the same frames agree whatever the capacity. -/
theorem decodersAgree_of_decompress?
    {stored : Octets}
    (same : decompress? (Nat.pow 2 42) stored = decompressStream? stored) :
    DecodersAgree stored := by
  intro capacity content
  rw [decompressWhole?_eq_some_iff, same]

/-- Decoders agree on what an encoder wrote. -/
theorem Encodes.decodersAgree
    {packed data : Octets}
    (encodes : Encodes packed data) :
    DecodersAgree packed := by
  apply decodersAgree_of_decompress?
  rw [(decompressWhole?_eq_some_iff.1 encodes.whole).1, encodes.stream]

/-- A frame that is decoded with a narrow window is decoded with a wide one, too. -/
theorem takeFrame?_mono
    {narrow wide : Nat}
    (wider : narrow ≤ wide)
    {data : Octets}
    {taken : Octets × Octets}
    (decoded : takeFrame? narrow data = some taken) :
    takeFrame? wide data = some taken := by
  rw [takeFrame?] at decoded ⊢
  rcases Option.bind_eq_some_iff.1 decoded with ⟨⟨header, rest⟩, begun, continued⟩
  refine Option.bind_eq_some_iff.2 ⟨(header, rest), begun, ?_⟩
  simp only at continued ⊢
  split at continued
  · cases continued
  · next fits =>
    rw [not_or] at fits
    rw [if_neg (not_or.2 ⟨fits.1, fun wide => fits.2 (Nat.lt_of_le_of_lt wider wide)⟩)]
    exact continued

theorem takeFrames?_mono
    {narrow wide : Nat}
    (wider : narrow ≤ wide)
    {fuel : Nat}
    {known contents : List Octets}
    {data : Octets}
    (decoded : takeFrames? narrow fuel known data = some contents) :
    takeFrames? wide fuel known data = some contents := by
  fun_induction takeFrames? narrow fuel known data with
  | case1 => cases decoded
  | case2 => exact decoded
  | case3 => cases decoded
  | case4 fuel known b0 b1 b2 b3 rest magic isFrame content later taken ih =>
    rw [takeFrames?, if_pos isFrame, takeFrame?_mono wider taken]
    exact ih decoded
  | case5 => cases decoded
  | case6 fuel known b0 b1 b2 b3 rest magic noFrame skippable later dropped ih =>
    rw [takeFrames?, if_neg noFrame, if_pos skippable, dropped]
    exact ih decoded
  | case7 => cases decoded
  | case8 => cases decoded

/-- Data that is decoded both whole and as a stream gives the same in both ways. -/
theorem eq_of_decompressWhole?
    {capacity : Nat}
    {stored streamed content : Octets}
    (stream : decompressStream? stored = some streamed)
    (whole : decompressWhole? capacity stored = some content) :
    content = streamed := by
  have decoded := (decompressWhole?_eq_some_iff.1 whole).1
  cases stored with
  | nil => cases stream
  | cons octet rest =>
    rw [decompressStream?, decompress?] at stream
    rcases Option.map_eq_some_iff.1 stream with ⟨contents, taken, rfl⟩
    have wider : streamWindow ≤ Nat.pow 2 42 := by decide
    rw [decompress?, takeFrames?_mono wider taken] at decoded
    exact (Option.some.inj decoded).symm

end Zstd

namespace Container

/-! ## Streams -/

/-- The octets in the place of an entry. -/
def octetsOf
    (container : Container)
    (entry : DirectoryEntry) :
    Octets :=
  Octets.slice container.image entry.offset entry.storedLength

/-- Streaming an entry ends without a fault and yields exactly some data. -/
def Streams (container : Container) (name : String) (data : Octets) : Prop :=
  container.openEntry name = .ok (.ofOctets data)

/-- A compressed entry whose directory entry states another length than it streams. -/
def Misstates (container : Container) (name : String) : Prop :=
  ∃ entry content,
    container.find? name = some entry ∧ entry.isCompressed = true ∧
      container.Streams name content ∧ content.length ≠ entry.rawLength

section Entry

variable
    {container : Container}
    {name : String}
    {entry : DirectoryEntry}
    {data : Octets}

/-- The stored octets of an entry, if they are given out, are those in its place. -/
theorem stored_eq_ok_iff
    {stored : Octets} :
    container.stored entry = .ok stored ↔
      stored = container.octetsOf entry ∧
        (container.verify = true → crc32 stored = entry.checksum) := by
  simp only [Container.stored, octetsOf]
  split
  · next damaged =>
    constructor
    · intro kept
      cases kept
    · rintro ⟨rfl, checked⟩
      exact absurd (checked damaged.1) damaged.2
  · next sound =>
    constructor
    · intro kept
      cases kept
      refine ⟨rfl, ?_⟩
      intro verified
      exact Decidable.byContradiction fun different => sound ⟨verified, different⟩
    · rintro ⟨rfl, -⟩
      rfl

/-- A stream yields data without a fault if its octets are the data or decompress to it. -/
theorem expandStream_eq_ofOctets_iff
    {stored : Octets} :
    expandStream entry stored = .ofOctets data ↔
      if entry.isCompressed then Zstd.decompressStream? stored = some data else stored = data := by
  unfold expandStream
  split
  · cases decoded : Zstd.decompressStream? stored with
    | none => simp [Source.ofOctets]
    | some content => simp [Source.ofOctets]
  · simp [Source.ofOctets]

/-- Streaming an entry is decided by the octets in its place. -/
theorem streams_iff
    (found : container.find? name = some entry) :
    container.Streams name data ↔
      (container.verify = true → crc32 (container.octetsOf entry) = entry.checksum) ∧
        if entry.isCompressed then
          Zstd.decompressStream? (container.octetsOf entry) = some data
        else container.octetsOf entry = data := by
  rw [← expandStream_eq_ofOctets_iff]
  simp only [Streams, openEntry, found]
  cases kept : container.stored entry with
  | error failure =>
    constructor
    · intro streamed
      cases streamed
    · rintro ⟨checked, -⟩
      rw [stored_eq_ok_iff.2 ⟨rfl, checked⟩] at kept
      cases kept
  | ok stored =>
    rcases stored_eq_ok_iff.1 kept with ⟨rfl, checked⟩
    constructor
    · intro streamed
      exact ⟨checked, Except.ok.inj streamed⟩
    · intro facts
      exact congrArg Except.ok facts.2

/-- An entry has at most one stream. -/
theorem Streams.unique
    {other : Octets}
    (streams : container.Streams name data)
    (streamsOther : container.Streams name other) :
    data = other := by
  have same : Source.ofOctets data = Source.ofOctets other :=
    Except.ok.inj (streams.symm.trans streamsOther)
  exact congrArg Source.data same

/-! ## The two ways to fetch an entry -/

/-- The octets in the place of a compressed entry are ones on which the decoders agree. -/
def DecodersAgreeOn (container : Container) (name : String) : Prop :=
  ∀ entry,
    container.find? name = some entry → entry.isCompressed = true →
      Zstd.DecodersAgree (container.octetsOf entry)

/-- Octets expand to what they stream, if that has the length that a compressed entry states. -/
theorem expand_eq_ok_iff_expandStream
    {stored : Octets}
    (agree : entry.isCompressed = true → Zstd.DecodersAgree stored) :
    expand entry stored = .ok data ↔
      expandStream entry stored = .ofOctets data ∧
        (entry.isCompressed = true → data.length = entry.rawLength) := by
  rw [expandStream_eq_ofOctets_iff]
  unfold expand
  split
  · next compressed =>
    have whole := agree compressed entry.rawLength
    cases expanded : Zstd.decompressWhole? entry.rawLength stored with
    | none =>
      constructor
      · intro failed
        cases failed
      · rintro ⟨streamed, long⟩
        have fits := Nat.le_of_eq (long compressed)
        rw [(whole data).2 ⟨streamed, fits⟩] at expanded
        cases expanded
    | some content =>
      rw [((whole content).1 expanded).1, Option.some.injEq]
      simp only
      split
      · next long =>
        constructor
        · intro read
          cases read
          exact ⟨rfl, fun _ => long⟩
        · intro facts
          exact congrArg Except.ok facts.1
      · next short =>
        constructor
        · intro read
          cases read
        · rintro ⟨rfl, long⟩
          exact absurd (long compressed) short
  · next plain =>
    constructor
    · intro read
      exact ⟨Except.ok.inj read, fun compressed => absurd compressed plain⟩
    · intro facts
      exact congrArg Except.ok facts.1

/-- An entry reads as what it streams, if that has the length that a compressed entry states. -/
theorem read_eq_ok_iff_streams
    (agree : container.DecodersAgreeOn name)
    (found : container.find? name = some entry) :
    container.read name = .ok data ↔
      container.Streams name data ∧
        (entry.isCompressed = true → data.length = entry.rawLength) := by
  have kept := @stored_eq_ok_iff container entry (container.octetsOf entry)
  simp only [true_and] at kept
  have expanded := @expand_eq_ok_iff_expandStream entry data _ (agree entry found)
  rw [expandStream_eq_ofOctets_iff] at expanded
  rw [read_eq_ok_iff, streams_iff found]
  constructor
  · rintro ⟨other, foundOther, keptOther, expandedOther⟩
    cases Option.some.inj (found.symm.trans foundOther)
    rcases expanded.1 expandedOther with ⟨streamed, long⟩
    exact ⟨⟨kept.1 keptOther, streamed⟩, long⟩
  · rintro ⟨⟨checked, streamed⟩, long⟩
    exact ⟨entry, found, kept.2 checked, expanded.2 ⟨streamed, long⟩⟩

/-- Only an entry that is found streams anything. -/
theorem Streams.found
    (streams : container.Streams name data) :
    ∃ entry, container.find? name = some entry := by
  unfold Streams openEntry at streams
  split at streams
  · cases streams
  · next entry found => exact ⟨entry, found⟩

/-- Only an entry that is found is read. -/
theorem found_of_read
    (read : container.read name = .ok data) :
    ∃ entry, container.find? name = some entry := by
  rcases read_eq_ok_iff.1 read with ⟨entry, found, -⟩
  exact ⟨entry, found⟩

/-- What an entry reads as is what it streams. -/
theorem Streams.of_read
    (agree : container.DecodersAgreeOn name)
    (read : container.read name = .ok data) :
    container.Streams name data := by
  rcases found_of_read read with ⟨entry, found⟩
  exact ((read_eq_ok_iff_streams agree found).1 read).1

/-- An entry that streams something reads as nothing else. -/
theorem Streams.eq_of_read
    {other : Octets}
    (streams : container.Streams name data)
    (read : container.read name = .ok other) :
    other = data := by
  rcases read_eq_ok_iff.1 read with ⟨entry, found, -, expanded⟩
  have streamed := ((streams_iff found).1 streams).2
  rw [expand] at expanded
  split at expanded
  · next compressed =>
    rw [if_pos compressed] at streamed
    split at expanded
    · cases expanded
    next content whole =>
    split at expanded
    · cases expanded
      exact Zstd.eq_of_decompressWhole? streamed whole
    · cases expanded
  · next plain =>
    rw [if_neg plain] at streamed
    exact (Except.ok.inj expanded).symm.trans streamed

/-- What a misstated entry fails with when it is read. -/
def misstatement
    (entry : DirectoryEntry)
    (content : Octets) :
    Corruption :=
  if content.length ≤ entry.rawLength then .entryLength entry.name else .compression

/-- A compressed entry with another length than it streams is not read. -/
theorem read_of_misstates
    (agree : container.DecodersAgreeOn name)
    (found : container.find? name = some entry)
    (compressed : entry.isCompressed = true)
    (streams : container.Streams name data)
    (misstated : data.length ≠ entry.rawLength) :
    container.read name = .error (.corrupt (misstatement entry data)) := by
  rw [streams_iff found, if_pos compressed] at streams
  have kept := stored_eq_ok_iff.2 ⟨rfl, streams.1⟩
  have whole := agree entry found compressed entry.rawLength
  have expanded : expand entry (container.octetsOf entry) = .error (misstatement entry data) := by
    rw [expand, if_pos compressed, misstatement]
    by_cases fits : data.length ≤ entry.rawLength
    · rw [(whole data).2 ⟨streams.2, fits⟩, if_pos fits]
      exact if_neg misstated
    · cases fitted : Zstd.decompressWhole? entry.rawLength (container.octetsOf entry) with
      | none =>
        rw [if_neg fits]
      | some content =>
        rcases (whole content).1 fitted with ⟨streamed, short⟩
        cases Option.some.inj (streamed.symm.trans streams.2)
        exact absurd short fits
  simp only [Container.read, found, kept, expanded]

end Entry

/--
Reading an entry and streaming it give the same, unless the entry is compressed
and states another length than it streams.  What is read is streamed in any
case; a misstated entry is streamed in full, but reading it reports corruption.
-/
theorem read_agrees_with_stream_iff
    {container : Container}
    {name : String}
    (agree : container.DecodersAgreeOn name) :
    ((∀ data, container.read name = .ok data ↔ container.Streams name data) ↔
        ¬ container.Misstates name) ∧
      (∀ data, container.read name = .ok data → container.Streams name data) ∧
      (container.Misstates name →
        ∃ entry content,
          container.find? name = some entry ∧ container.Streams name content ∧
            container.read name = .error (.corrupt (misstatement entry content))) := by
  refine ⟨⟨?_, ?_⟩, ?_, ?_⟩
  · rintro same ⟨entry, content, found, compressed, streams, misstated⟩
    have read := (same content).2 streams
    rw [read_of_misstates agree found compressed streams misstated] at read
    cases read
  · intro stated data
    constructor
    · exact Streams.of_read agree
    · intro streams
      rcases streams.found with ⟨entry, found⟩
      refine (read_eq_ok_iff_streams agree found).2 ⟨streams, ?_⟩
      intro compressed
      exact Decidable.byContradiction fun misstated =>
        stated ⟨entry, data, found, compressed, streams, misstated⟩
  · intro data
    exact Streams.of_read agree
  · rintro ⟨entry, content, found, compressed, streams, misstated⟩
    exact ⟨entry, content, found, streams,
      read_of_misstates agree found compressed streams misstated⟩

/-! ## A packed entry -/

/-- A frame with one block, which holds the octets 1, 2 and 3 as they are. -/
def letterFrame : Octets := [0x28, 0xB5, 0x2F, 0xFD, 0x00, 0x58, 0x19, 0x00, 0x00, 1, 2, 3]

theorem decompress?_letterFrame :
    Zstd.decompress? (Nat.pow 2 42) letterFrame = some [1, 2, 3] ∧
      Zstd.decompressStream? letterFrame = some [1, 2, 3] := by
  decide +kernel

/-- An entry that is stored as this frame and states the given length. -/
def packedEntry
    (rawLength : Nat) :
    DirectoryEntry where
  name := "a"
  flags := DirectoryEntry.compressedFlags
  offset := headerLength
  storedLength := letterFrame.length
  rawLength := rawLength
  checksum := crc32 letterFrame
  digest := sha256 [1, 2, 3]

/-- A draft with the packed entry. -/
def packedDraft
    (rawLength : Nat) :
    Draft where
  image := header 0 ++ letterFrame
  entries := [packedEntry rawLength]
  compression := {}

/-- The finished draft, opened. -/
def packed
    (rawLength : Nat) :
    Container where
  path := "packed"
  image := (packedDraft rawLength).sealedImage
  flags := 0
  entries := [packedEntry rawLength]
  verify := true

/-- A file system with the finished draft. -/
def packedFiles
    (rawLength : Nat) :
    FileSystem where
  workingDirectory := []
  nodes := [(["packed"], .file 1 1 (packedDraft rawLength).sealedImage)]
  clock := 2

/-- The packed entry is opened whatever length it states. -/
theorem openFile_packedFiles
    {rawLength : Nat}
    (small : rawLength < Octets.bound 8) :
    openFile (packedFiles rawLength) "packed" true = .ok (packed rawLength) := by
  have starts : (packedDraft rawLength).StartsWithHeader := ⟨0, letterFrame, rfl⟩
  have sizes : (packedDraft rawLength).Sizes := by
    constructor
    case entries =>
      intro entry member
      cases List.mem_singleton.1 member
      constructor
      case name => exact (by decide : (Octets.ofText "a").length < Octets.bound 2)
      case offset => exact (by decide : headerLength < Octets.bound 8)
      case storedLength => exact (by decide : letterFrame.length < Octets.bound 8)
      case rawLength => exact small
    case image =>
      have directory :
          (DirectoryEntry.encodeAll (packedDraft rawLength).entries).length = 65 := rfl
      rw [Draft.length_sealedImage, directory]
      show (header 0 ++ letterFrame).length + 65 + trailerLength < _
      decide
  have found :
      (packedFiles rawLength).read "packed" = .ok (packedDraft rawLength).sealedImage := rfl
  rw [openFile_of_read found]
  refine ofImage_eq_ok_iff.2 ⟨0, [packedEntry rawLength], ?_, ?_, rfl⟩
  · rw [Draft.sealedImage_eq]
    exact readHeader_header 0 _
  · exact readEntries_eq_ok_iff.2 ⟨_, _, Draft.lists_sealedImage starts sizes, rfl⟩

theorem packedEntry_isCompressed
    (rawLength : Nat) :
    (packedEntry rawLength).isCompressed = true := by
  show decide (DirectoryEntry.compressedFlags &&& DirectoryEntry.compressedFlags ≠ 0) = true
  decide

theorem octetsOf_packed
    (rawLength : Nat) :
    (packed rawLength).octetsOf (packedEntry rawLength) = letterFrame := by
  have middle := Octets.slice_middle (header 0) letterFrame (packedDraft rawLength).ending
  rw [← List.append_assoc] at middle
  exact middle

/-- The decoders agree on the packed entry, and it streams the three octets. -/
theorem packed_streams
    (rawLength : Nat) :
    (packed rawLength).DecodersAgreeOn "a" ∧ (packed rawLength).Streams "a" [1, 2, 3] := by
  rcases decompress?_letterFrame with ⟨whole, stream⟩
  have found : (packed rawLength).find? "a" = some (packedEntry rawLength) := rfl
  constructor
  · intro entry other _
    cases Option.some.inj (found.symm.trans other)
    rw [octetsOf_packed]
    exact Zstd.decodersAgree_of_decompress? (whole.trans stream.symm)
  · rw [streams_iff found, octetsOf_packed, if_pos (packedEntry_isCompressed rawLength)]
    exact ⟨fun _ => rfl, stream⟩

/-- An entry of three octets that states three reads as what it streams. -/
theorem stated_entry_reads_as_it_streams :
    openFile (packedFiles 3) "packed" true = .ok (packed 3) ∧
      (packed 3).Streams "a" [1, 2, 3] ∧
        ∀ data, (packed 3).read "a" = .ok data ↔ (packed 3).Streams "a" data := by
  rcases packed_streams 3 with ⟨agree, streams⟩
  refine ⟨openFile_packedFiles (by decide), streams, (read_agrees_with_stream_iff agree).1.2 ?_⟩
  rintro ⟨entry, content, found, -, streamed, misstated⟩
  cases List.mem_singleton.1 (List.mem_of_find?_eq_some found)
  cases streams.unique streamed
  exact misstated rfl

/-- An entry of three octets that states four is streamed in full, but not read. -/
theorem misstated_entry_streams_but_is_not_read :
    openFile (packedFiles 4) "packed" true = .ok (packed 4) ∧
      (packed 4).DecodersAgreeOn "a" ∧ (packed 4).Streams "a" [1, 2, 3] ∧
        (packed 4).read "a" = .error (.corrupt (.entryLength "a")) := by
  rcases packed_streams 4 with ⟨agree, streams⟩
  refine ⟨openFile_packedFiles (by decide), agree, streams, ?_⟩
  exact read_of_misstates agree rfl (packedEntry_isCompressed 4) streams (by decide)

end Container

end BuildCapture
