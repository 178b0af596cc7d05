import BuildCapture.Proofs.Container.Listing
import BuildCapture.Proofs.Container.Pendings

/-!
# Containers that were cut short

A container is recognised by its two ends.  Its header does not say how long it
is, and the entries hold whatever octets they were given, so the first octets of
a container can be a container themselves: those of an entry may spell a
directory and a trailer.

That is the only way to miss that octets are lost at the end.  A container that
was cut short opens exactly if what is left closes like a container, and then
the magic word of a trailer stands among what was written between the header and
the trailer.  A container in which the word does not occur there is never opened
once it was cut.
-/

namespace BuildCapture

namespace Container

/-! ## Words in data -/

/-- A word stands at an offset exactly if its four octets do. -/
theorem wordAt_eq_iff
    {data : Octets}
    {offset : Nat}
    {word : UInt32}
    (inside : offset + 4 ≤ data.length) :
    wordAt data offset = word ↔
      Octets.slice data offset 4 = Octets.littleEndian 4 word.toNat := by
  have small : Octets.toNat (Octets.slice data offset 4) < 2 ^ 32 := Octets.toNat_slice_lt inside
  constructor
  · rintro rfl
    rw [wordAt, UInt32.toNat_ofNat_of_lt' small, Octets.littleEndian_toNat_slice inside]
  · intro spelled
    rw [wordAt, spelled, Octets.toNat_littleEndian 4 _ word.toNat_lt, UInt32.ofNat_toNat]

/-- In front of a cut the words are those of the data. -/
theorem wordAt_take
    {offset cut : Nat}
    (before : offset + 4 ≤ cut)
    (data : Octets) :
    wordAt (data.take cut) offset = wordAt data offset := by
  rw [wordAt, wordAt, Octets.slice_take before]

/-- Behind a cut the words are those further on. -/
theorem wordAt_drop
    (data : Octets)
    (cut offset : Nat) :
    wordAt (data.drop cut) offset = wordAt data (cut + offset) := by
  rw [wordAt, wordAt, Octets.slice_drop]

/-- The magic word of a trailer does not overlap with itself. -/
theorem apart_of_trailerMagic
    {data : Octets}
    {first second : Nat}
    (before : first < second)
    (inside : second + 4 ≤ data.length)
    (here : wordAt data first = trailerMagic)
    (there : wordAt data second = trailerMagic) :
    first + 4 ≤ second := by
  rw [wordAt_eq_iff (by omega)] at here
  rw [wordAt_eq_iff inside] at there
  by_contra overlap
  rcases Nat.exists_eq_add_of_lt before with ⟨gap, rfl⟩
  have initial :
      data[first + gap + 1 + 0]? = (Octets.littleEndian 4 trailerMagic.toNat)[0]? := by
    rw [← Octets.getElem?_slice (by omega : 0 < 4), there]
  have inner :
      data[first + (gap + 1)]? = (Octets.littleEndian 4 trailerMagic.toNat)[gap + 1]? := by
    rw [← Octets.getElem?_slice (by omega : gap + 1 < 4), here]
  -- the octet that starts the second word would be a later one of the first
  have same :
      (Octets.littleEndian 4 trailerMagic.toNat)[gap + 1]? =
        (Octets.littleEndian 4 trailerMagic.toNat)[0]? :=
    inner.symm.trans initial
  rcases gap with _ | _ | _ | more
  · exact absurd same (by decide)
  · exact absurd same (by decide)
  · exact absurd same (by decide)
  · omega

/-! ## Cutting an image -/

/-- The octets in front of a cut close like a container. -/
def ClosesAt (image : Octets) (cut : Nat) : Prop :=
  ∃ front listed closing, Closes (image.take cut) front listed closing

/-- Where a container closes at a cut there is room for its ends, and the magic word is there. -/
theorem ClosesAt.magic
    {image : Octets}
    {cut : Nat}
    (closes : ClosesAt image cut)
    (within : cut ≤ image.length) :
    headerLength + trailerLength ≤ cut ∧
      wordAt image (cut - trailerLength) = trailerMagic := by
  rcases closes with ⟨front, listed, closing, closes⟩
  have lists := closes.lists
  have long := lists.long
  have magic := (Trailer.ofOctets_eq_ok_iff.1 lists.trailer_read).1
  have trailerLength_eq : trailerLength = 64 := rfl
  rw [List.length_take_of_le within] at long magic
  rw [wordAt_drop, wordAt_take (by omega)] at magic
  exact ⟨long, magic⟩

/-- The first octets of an image with a header open exactly if they close like a container. -/
theorem ofImage_take_isOk_iff
    {flags : UInt32}
    {rest : Octets}
    {cut : Nat}
    (within : cut ≤ (header flags ++ rest).length)
    {path : String}
    {verify : Bool} :
    (∃ container, ofImage path ((header flags ++ rest).take cut) verify = .ok container) ↔
      ClosesAt (header flags ++ rest) cut := by
  rw [ofImage_isOk_iff]
  constructor
  · rintro ⟨-, closes⟩
    exact closes
  · intro closes
    refine ⟨⟨flags, ?_⟩, closes⟩
    have long := (ClosesAt.magic closes within).1
    have behind : (header flags).length ≤ cut := Nat.le_trans (Nat.le_add_right _ _) long
    rw [List.take_append, List.take_of_length_le behind]
    exact readHeader_header flags _

/-! ## Published containers -/

namespace Draft

/-- The magic word of the trailer stands where the trailer of a finished draft starts. -/
theorem wordAt_sealedImage
    (draft : Draft) :
    wordAt draft.sealedImage (draft.sealedImage.length - trailerLength) = trailerMagic := by
  have ending := draft.drop_sealedImage
  have word := wordAt_drop draft.sealedImage (draft.sealedImage.length - trailerLength) 0
  rw [ending, Trailer.wordAt_octets] at word
  exact word.symm

end Draft

/-- Where a container closes short of the trailer, its own trailer starts in front of that. -/
theorem ClosesAt.magic_inside
    {draft : Draft}
    {cut : Nat}
    (closes : ClosesAt draft.sealedImage cut)
    (short : cut < draft.sealedImage.length) :
    headerLength + trailerLength ≤ cut ∧
      cut - trailerLength + 4 ≤ draft.sealedImage.length - trailerLength ∧
        wordAt draft.sealedImage (cut - trailerLength) = trailerMagic := by
  rcases closes.magic (Nat.le_of_lt short) with ⟨long, magic⟩
  have trailerLength_eq : trailerLength = 64 := rfl
  refine ⟨long, ?_, magic⟩
  exact apart_of_trailerMagic (by omega) (by omega) magic draft.wordAt_sealedImage

namespace Desk

variable [Zstd.Encoder]

/--
A container that was sealed after any run and then cut short opens exactly if
what is left closes like a container.  In that case the magic word of a trailer
stands where that trailer starts, between the header and the trailer of the
container.
-/
theorem truncated_container_opens_iff_it_closes
    {files started : FileSystem}
    {path : String}
    {config : WriterConfig}
    {writer : Writer}
    (creating : Writer.create files path config = (started, .ok writer))
    {actions : List Action}
    {desk : Desk}
    (reached : desk = run { bench := ⟨started, writer⟩ } actions)
    {finished : Workbench}
    (finishing : desk.bench.finish = (finished, .ok ())) :
    ∃ image,
      finished.files.read path = .ok image ∧
        ∀ cut, cut < image.length →
          (∀ (cutFiles : FileSystem) (cutPath : String) (verify : Bool),
            cutFiles.read cutPath = .ok (image.take cut) →
              ((∃ container, openFile cutFiles cutPath verify = .ok container) ↔
                ClosesAt image cut)) ∧
          (ClosesAt image cut →
            headerLength + trailerLength ≤ cut ∧
              cut - trailerLength + 4 ≤ image.length - trailerLength ∧
                wordAt image (cut - trailerLength) = trailerMagic) := by
  rcases Workbench.sound_create creating with ⟨fresh, samePath, -⟩
  have start :
      ({ bench := ⟨started, writer⟩ } : Desk).bench.Sound
        ({ bench := ⟨started, writer⟩ } : Desk).accepted
        ({ bench := ⟨started, writer⟩ } : Desk).held := fresh
  have sound := sound_run start actions
  rw [← reached] at sound
  have place : desk.bench.writer.path = path := by
    rw [reached, path_run]
    exact samePath
  rcases Workbench.read_of_finish sound.backed finishing with ⟨found, -⟩
  rw [place] at found
  refine ⟨_, found, ?_⟩
  intro cut short
  constructor
  · intro cutFiles cutPath verify content
    rcases sound.draft.starts with ⟨flags, rest, image⟩
    have starts :
        desk.bench.writer.draft.sealedImage =
          header flags ++ (rest ++ desk.bench.writer.draft.ending) := by
      rw [Draft.sealedImage, image, List.append_assoc]
    rw [openFile_of_read content]
    rw [starts] at short ⊢
    exact ofImage_take_isOk_iff (Nat.le_of_lt short)
  · intro closes
    exact closes.magic_inside short

end Desk

/-! ## Two containers that were cut short -/

/-- A file system with one file. -/
def soleFile
    (content : Octets) :
    FileSystem where
  workingDirectory := []
  nodes := [(["cut"], .file 1 1 content)]
  clock := 2

/-- One entry with three octets. -/
def letterActions : List Action := [.write "x" [97, 98, 99]]

set_option maxRecDepth 100000 in
/-- However much is cut off a container with three octets, what is left does not open. -/
theorem truncated_letters_do_not_open :
    ∃ desk image,
      plainDesk letterActions = some desk ∧
        desk.bench.finish.1.files.read "plain" = .ok image ∧
          ∀ cut, cut < image.length →
            ∀ verify, ¬ ∃ container,
              openFile (soleFile (image.take cut)) "cut" verify = .ok container := by
  have starts : ∃ started writer, plainStart = (started, .ok writer) := ⟨_, _, rfl⟩
  rcases starts with ⟨started, writer, starting⟩
  have reached :
      ∃ desk, plainDesk letterActions = some desk ∧ desk.bench.finish.2 = .ok () ∧
        ∃ image, desk.bench.finish.1.files.read "plain" = .ok image ∧
          ∀ offset < image.length - trailerLength, wordAt image offset ≠ trailerMagic := by
    refine ⟨_, rfl, ?_, _, rfl, ?_⟩
    · decide +kernel
    · decide +kernel
  rcases reached with ⟨desk, run, sealing, image, content, foreign⟩
  have same : desk = Desk.run { bench := ⟨started, writer⟩ } letterActions := by
    have there := run
    rw [plainDesk, starting] at there
    exact (Option.some.inj there).symm
  have finishing : desk.bench.finish = (desk.bench.finish.1, .ok ()) := Prod.ext rfl sealing
  rcases Desk.truncated_container_opens_iff_it_closes starting same finishing with
    ⟨published, found, facts⟩
  cases Except.ok.inj (content.symm.trans found)
  refine ⟨desk, image, run, content, ?_⟩
  intro cut short verify opens
  rcases facts cut short with ⟨opens_iff, magic_inside⟩
  rcases magic_inside ((opens_iff (soleFile (image.take cut)) "cut" verify rfl).1 opens) with
    ⟨-, inside, magic⟩
  exact foreign _ (by omega) magic

set_option maxRecDepth 100000 in
/--
An entry that holds the end of an empty container.  Up to there the container
is the file of an empty container, and it opens as one.
-/
theorem container_in_container_opens :
    ∃ desk image,
      plainDesk [.write "x" (Draft.new plainConfig).ending] = some desk ∧
        desk.bench.finish.2 = .ok () ∧
          desk.bench.finish.1.files.read "plain" = .ok image ∧ 128 < image.length ∧
            image.take 128 = (Draft.new plainConfig).sealedImage ∧
              (openFile (soleFile (image.take 128)) "cut" true).isOk = true := by
  refine ⟨_, _, rfl, ?_, rfl, ?_, ?_, ?_⟩
  · decide +kernel
  · decide +kernel
  · decide +kernel
  · decide +kernel

end Container

end BuildCapture
