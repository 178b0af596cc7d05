import BuildCapture.Module.Image
import BuildCapture.Proofs.Json.Reading
import BuildCapture.Proofs.Module.Info
import BuildCapture.Proofs.Octets.Slice

/-!
# Reading back module images

The fields of a header have fixed places, and its last two state the length and
the checksum of the metadata behind it.  Reading an image therefore asks for the
header, then for as many octets as the header states, and leaves the rest.

An image that was cut short is truncated if the cut falls within header or
metadata, and describes the same module with less of a body otherwise.
-/

namespace BuildCapture

open Json Json.Tree

/-! ## Metadata -/

/-- Metadata is read back from its tree. -/
theorem ModuleMetadata.roundTrips :
    RoundTrips 6 ModuleMetadata.toTree ModuleMetadata.ofTree? := by
  refine roundTrips_fields (by decide) (fun _ => by rfl) ?_ ?_
  · intro metadata
    simp only [List.forall_mem_cons]
    exact ⟨roundTrips_text.within _, ModuleRef.roundTrips.list.within _,
      ExportedType.roundTrips.list.within _, List.forall_mem_nil _⟩
  · intro metadata found lookups
    simp only [List.forall_mem_cons] at lookups
    rcases lookups with ⟨name, dependencies, exports, -⟩
    simp only [Fields.required_of_lookup name, Fields.defaulted_of_lookup dependencies,
      Fields.defaulted_of_lookup exports, roundTrips_text.reads, ModuleRef.roundTrips.list.reads,
      ExportedType.roundTrips.list.reads]
    rfl

/-! ## Identities and versions -/

theorem ModuleId.ofOctets?_octets
    (id : ModuleId) :
    ofOctets? id.octets = some id := by
  rw [ofOctets?, octets, Octets.toVector?_toList]
  rfl

/-- A version is read back from its eight octets. -/
theorem ModuleVersion.ofOctets_octets
    (version : ModuleVersion) :
    ofOctets version.octets = version := by
  have part : ∀ word : UInt16,
      UInt16.ofNat (Octets.toNat (Octets.littleEndian 2 word.toNat)) = word := by
    intro word
    rw [Octets.toNat_littleEndian 2 _ word.toNat_lt, UInt16.ofNat_toNat]
  have last := Octets.slice_append_zero (Octets.length_littleEndian 2 version.revision.toNat) []
  rw [List.append_nil] at last
  rw [ofOctets, octets]
  simp only [List.append_assoc]
  simp (disch := simp) only [Octets.slice_append_of_length_le, Octets.slice_append_zero,
    Octets.length_littleEndian, Nat.reduceSub, last, part]

/-! ## What describing a module asks for -/

namespace ModuleInfo

/--
How many octets describing a module asks for: the header, and the metadata too
unless the header is refused.
-/
def extent
    (data : Octets) :
    Nat :=
  let header := Header.ofOctets data
  if data.length < ModuleImage.headerLength ∨ header.magic ≠ ModuleImage.magic ∨
      header.headerVersion ≠ ModuleImage.headerVersion ∨
      header.metadataLength.toNat > ModuleImage.maximalMetadata then
    ModuleImage.headerLength
  else
    ModuleImage.headerLength + header.metadataLength.toNat

/-- Where the octets suffice, the fault behind them does not matter for the description. -/
theorem ofSource_eq
    (source : Source) :
    ofSource source =
      if source.data.length < extent source.data then
        .error (shortfall source.fault)
      else
        ofSource (.ofOctets source.data) := by
  rw [ofSource, ofSource, extent, Source.ofOctets]
  by_cases short : source.data.length < ModuleImage.headerLength
  · simp only [short, true_or, if_true]
  by_cases magic : (Header.ofOctets source.data).magic ≠ ModuleImage.magic
  · simp [short, magic]
  by_cases version : (Header.ofOctets source.data).headerVersion ≠ ModuleImage.headerVersion
  · simp [short, magic, version]
  by_cases large :
      (Header.ofOctets source.data).metadataLength.toNat > ModuleImage.maximalMetadata
  · simp [short, magic, version, large]
  have enough :
      (source.data.drop ModuleImage.headerLength).length <
          (Header.ofOctets source.data).metadataLength.toNat ↔
        source.data.length <
          ModuleImage.headerLength + (Header.ofOctets source.data).metadataLength.toNat := by
    rw [List.length_drop]
    omega
  simp only [short, magic, version, large, or_self, if_false, enough]
  split <;> rfl

/-- What is described by the octets of a source is described by them alone. -/
theorem ofOctets_of_ofSource
    {source : Source}
    {info : ModuleInfo}
    {body : Octets}
    (reading : ofSource source = .ok (info, body)) :
    ofOctets source.data = .ok info := by
  rw [ofSource_eq] at reading
  split at reading
  · cases reading
  · rw [ofOctets, reading]
    rfl

/-- What octets describe is described whatever comes behind them. -/
theorem ofSource_of_ofOctets
    {source : Source}
    {info : ModuleInfo}
    (described : ofOctets source.data = .ok info) :
    ∃ body, ofSource source = .ok (info, body) := by
  cases reading : ofSource (.ofOctets source.data) with
  | error fault =>
    rw [ofOctets, reading] at described
    cases described
  | ok found =>
    rw [ofOctets, reading] at described
    cases described
    refine ⟨found.2, ?_⟩
    -- the octets suffice, so the fault behind them was not met
    have enough : ¬ source.data.length < extent source.data := by
      intro short
      have failing := ofSource_eq (.ofOctets source.data)
      rw [Source.ofOctets, if_pos short] at failing
      rw [Source.ofOctets, failing] at reading
      cases reading
    rw [ofSource_eq, if_neg enough, reading]

end ModuleInfo

namespace ModuleImage

variable {image : ModuleImage}

/-- What an image says about its module. -/
def info
    (image : ModuleImage) :
    ModuleInfo where
  id := image.id
  name := image.metadata.name
  version := image.version
  dependencies := image.metadata.dependencies
  exports := image.metadata.exports

/-! ## Headers -/

theorem length_header
    (image : ModuleImage) :
    image.header.length = headerLength := by
  simp [header, headerLength, ModuleId.octets, ModuleVersion.octets]

/-- The fields of a header have the places that reading expects. -/
theorem slices_header
    (image : ModuleImage)
    (rest : Octets) :
    Octets.slice (image.header ++ rest) 0 4 = Octets.littleEndian 4 magic.toNat ∧
      Octets.slice (image.header ++ rest) 4 2 = Octets.littleEndian 2 headerVersion.toNat ∧
      Octets.slice (image.header ++ rest) 6 2 = Octets.littleEndian 2 image.flags ∧
      Octets.slice (image.header ++ rest) 8 16 = image.id.octets ∧
      Octets.slice (image.header ++ rest) 24 8 = image.version.octets ∧
      Octets.slice (image.header ++ rest) 32 4 = Octets.littleEndian 4 image.document.length ∧
      Octets.slice (image.header ++ rest) 36 4 =
        Octets.littleEndian 4 (crc32 image.document).toNat := by
  have identity : image.id.octets.length = 16 := by simp [ModuleId.octets]
  have version : image.version.octets.length = 8 := by simp [ModuleVersion.octets]
  rw [header]
  simp only [List.append_assoc]
  refine ⟨?_, ?_, ?_, ?_, ?_, ?_, ?_⟩ <;>
    simp (disch := simp [identity, version]) only [Octets.slice_append_of_length_le,
      Octets.slice_append_zero, Octets.length_littleEndian, identity, version, Nat.reduceSub]

/-- The lowest flag tells whether the module is an extension. -/
theorem flags_eq
    (image : ModuleImage) :
    image.flags = if image.info.isExtension then 1 else 0 :=
  rfl

/-- The fields of a header, read from an image. -/
theorem ofOctets_header
    (bounded : image.document.length ≤ maximalMetadata)
    (rest : Octets) :
    ModuleInfo.Header.ofOctets (image.header ++ rest) = {
      magic := magic
      headerVersion := headerVersion
      id := image.id.octets
      version := image.version
      metadataLength := UInt32.ofNat image.document.length
      metadataChecksum := crc32 image.document } := by
  have fits : image.document.length < Octets.bound 4 := Nat.lt_of_le_of_lt bounded (by decide)
  rcases slices_header image rest with
    ⟨magicSlice, layout, -, identity, version, length, checksum⟩
  rw [ModuleInfo.Header.ofOctets, magicSlice, layout, identity, version, length, checksum,
    ModuleVersion.ofOctets_octets, Octets.toNat_littleEndian 4 _ magic.toNat_lt,
    Octets.toNat_littleEndian 2 _ headerVersion.toNat_lt, Octets.toNat_littleEndian 4 _ fits,
    Octets.toNat_littleEndian 4 _ (crc32 image.document).toNat_lt, UInt32.ofNat_toNat,
    UInt16.ofNat_toNat, UInt32.ofNat_toNat]

/-! ## Reading -/

/-- The metadata document of an image describes its module. -/
theorem ofMetadata_document
    (image : ModuleImage) :
    ModuleInfo.ofMetadata image.id image.version image.document = .ok image.info := by
  have tidy := ModuleMetadata.roundTrips.tidy image.metadata 6 (Nat.le_refl 6)
  have reads : (read? image.document).bind ModuleMetadata.ofTree? = some image.metadata := by
    rw [document, tidy.read? tidy.prints, Option.bind_some, ModuleMetadata.roundTrips.reads]
  rw [ModuleInfo.ofMetadata, reads]
  rfl

/-- Behind the header of an image, reading goes on with the metadata that the header states. -/
theorem ofSource_header
    (bounded : image.document.length ≤ maximalMetadata)
    (rest : Octets)
    (fault : Option FileFault) :
    ModuleInfo.ofSource ⟨image.header ++ rest, fault⟩ =
      if rest.length < image.document.length then
        .error (ModuleInfo.shortfall fault)
      else if crc32 (rest.take image.document.length) ≠ crc32 image.document then
        .error .checksumMismatch
      else
        (ModuleInfo.ofMetadata image.id image.version (rest.take image.document.length)).map
          fun info => (info, rest.drop image.document.length) := by
  have long : ¬ (image.header ++ rest).length < headerLength := by
    rw [List.length_append, length_header]
    omega
  have behind : (image.header ++ rest).drop headerLength = rest := by
    rw [← length_header image, List.drop_left]
  have stated : (UInt32.ofNat image.document.length).toNat = image.document.length :=
    UInt32.toNat_ofNat_of_lt' (Nat.lt_of_le_of_lt bounded (by decide))
  rw [ModuleInfo.ofSource, if_neg long]
  simp only [ofOctets_header bounded, behind, stated, ne_eq, not_true_eq_false, if_false,
    gt_iff_lt, if_neg (Nat.not_lt.2 bounded), ModuleId.ofOctets?_octets]
  cases ModuleInfo.ofMetadata image.id image.version (rest.take image.document.length) <;> rfl

/-- An image is read with whatever follows its metadata as the rest. -/
theorem ofSource_complete
    (bounded : image.document.length ≤ maximalMetadata)
    (rest : Octets)
    (fault : Option FileFault) :
    ModuleInfo.ofSource ⟨image.header ++ (image.document ++ rest), fault⟩ =
      .ok (image.info, rest) := by
  have enough : ¬ (image.document ++ rest).length < image.document.length := by
    rw [List.length_append]
    omega
  rw [ofSource_header bounded, if_neg enough, List.take_left, List.drop_left,
    if_neg (not_not_intro rfl), ofMetadata_document, Except.map]

/-- An image that ends within its header or metadata is as short as its source breaks off. -/
theorem ofSource_cut
    (bounded : image.document.length ≤ maximalMetadata)
    {length : Nat}
    (within : length < headerLength + image.document.length)
    (rest : Octets)
    (fault : Option FileFault) :
    ModuleInfo.ofSource ⟨(image.header ++ (image.document ++ rest)).take length, fault⟩ =
      .error (ModuleInfo.shortfall fault) := by
  rw [List.take_append, length_header]
  by_cases header : length < headerLength
  · have short : (image.header.take length ++
        (image.document ++ rest).take (length - headerLength)).length < headerLength := by
      rw [List.length_append, List.length_take, List.length_take]
      omega
    rw [ModuleInfo.ofSource, if_pos short]
  · have whole : image.header.take length = image.header :=
      List.take_of_length_le (by rw [length_header]; omega)
    have short :
        ((image.document ++ rest).take (length - headerLength)).length <
          image.document.length := by
      rw [List.length_take]
      omega
    rw [whole, ofSource_header bounded, if_pos short]

theorem octets_eq
    (image : ModuleImage) :
    image.octets = image.header ++ (image.document ++ image.body) :=
  List.append_assoc _ _ _

/--
An image whose metadata is not too long is read back: what it says about its
module, in order, with exactly its body left.  Its lowest flag is set exactly if
the module is an extension.  Of an image that was cut short, the same is read
with less of the body, unless the cut falls within header or metadata: then the
image is truncated.
-/
theorem written_image_is_read_back
    (image : ModuleImage)
    (bounded : image.document.length ≤ maximalMetadata) :
    ModuleInfo.ofSource (.ofOctets image.octets) = .ok (image.info, image.body) ∧
      (Octets.toNat (image.octets.slice 6 2) % 2 = 1 ↔ image.info.isExtension = true) ∧
      ∀ length < image.octets.length,
        ModuleInfo.ofSource (.ofOctets (image.octets.take length)) =
          if length < headerLength + image.document.length then
            .error .truncated
          else
            .ok (image.info, image.body.take (length - (headerLength + image.document.length))) := by
  rw [octets_eq]
  refine ⟨ofSource_complete bounded image.body none, ?_, ?_⟩
  · have flagged : image.flags < Octets.bound 2 := by
      rw [flags_eq]
      split <;> decide
    rcases slices_header image (image.document ++ image.body) with ⟨-, -, flags, -⟩
    rw [flags, Octets.toNat_littleEndian 2 _ flagged, flags_eq]
    cases image.info.isExtension <;> decide
  · intro length _
    split
    · next within => exact ofSource_cut bounded within image.body none
    · next behind =>
      have cut :
          (image.header ++ (image.document ++ image.body)).take length =
            image.header ++ (image.document ++
              image.body.take (length - (headerLength + image.document.length))) := by
        have header : image.header.length ≤ length := by
          rw [length_header]
          omega
        have document : image.document.length ≤ length - headerLength := by omega
        rw [List.take_append, List.take_of_length_le header, length_header, List.take_append,
          List.take_of_length_le document, Nat.sub_sub]
      rw [cut]
      exact ofSource_complete bounded _ none

/-! ## A small image -/

/-- An analyzer that depends on its compiler, with a body of three octets. -/
def linter : ModuleImage where
  id := .repeating 7
  version := ⟨1, 2, 3, 4⟩
  metadata := {
    name := "Lint\n"
    dependencies := [⟨"Compiler", ⟨4, 8, 0, 0⟩⟩]
    exports := [⟨"NoTabs", [⟨.analyzer, ["C#"]⟩]⟩, ⟨"Helpers", []⟩] }
  body := [1, 2, 3]

theorem length_document_linter : linter.document.length = 197 := by
  decide +kernel

/-- The image is read back; without its last four octets it is truncated, without two it is not. -/
theorem linter_is_read_back :
    linter.document.length ≤ maximalMetadata ∧
      ModuleInfo.ofSource (.ofOctets linter.octets) = .ok (linter.info, [1, 2, 3]) ∧
      Octets.toNat (linter.octets.slice 6 2) % 2 = 1 ∧
      ModuleInfo.ofSource (.ofOctets (linter.octets.take 260)) = .error .truncated ∧
      ModuleInfo.ofSource (.ofOctets (linter.octets.take 262)) = .ok (linter.info, [1]) := by
  have bounded : linter.document.length ≤ maximalMetadata := by
    rw [length_document_linter]
    decide
  have whole : linter.octets.length = 264 := by
    rw [octets_eq, List.length_append, List.length_append, length_header, length_document_linter]
    rfl
  rcases written_image_is_read_back linter bounded with ⟨reads, flag, cuts⟩
  have within := cuts 260 (by rw [whole]; decide)
  have behind := cuts 262 (by rw [whole]; decide)
  rw [length_document_linter] at within behind
  exact ⟨bounded, reads, flag.2 rfl, within, behind⟩

end ModuleImage

end BuildCapture
