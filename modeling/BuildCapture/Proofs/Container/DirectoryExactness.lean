import BuildCapture.Proofs.Container.Listing
import BuildCapture.Proofs.Container.Stored

/-!
# The exactness of the directory codec

An encoded entry says itself where it ends, so an encoded directory can not be
continued or cut without being noticed: what follows the stated number of
entries is left over, and a cut goes through an entry or leaves one out.  A
directory is therefore read exactly if it was written, with exactly the entries
that were written, and it does not depend on the stated number of entries which
entries these are.
-/

namespace BuildCapture.DirectoryEntry

/-! ## Continued directories -/

/-- Octets behind the last entry are noticed. -/
theorem decodeAll_append
    {entries : List DirectoryEntry}
    (fit : ∀ entry ∈ entries, entry.Fits)
    {more : Octets}
    (lacking : more ≠ []) :
    decodeAll entries.length (encodeAll entries ++ more) = .error .trailingDirectory := by
  induction entries with
  | nil =>
    have left : more.isEmpty = false := List.isEmpty_eq_false_iff.2 lacking
    show (if more.isEmpty then Except.ok [] else _) = _
    rw [left]
    rfl
  | cons entry rest ih =>
    have first :
        takeFirst (encodeAll (entry :: rest) ++ more) = .ok (entry, encodeAll rest ++ more) := by
      have spelled : encodeAll (entry :: rest) = entry.encode ++ encodeAll rest := rfl
      rw [spelled, List.append_assoc]
      exact takeFirst_encode (fit entry List.mem_cons_self) _
    have others := ih fun other member => fit other (List.mem_cons_of_mem _ member)
    rw [List.length_cons, decodeAll, first]
    simp only [others]

/-! ## Cut directories -/

/-- What decoding answers where octets are missing. -/
inductive IsShortage : Corruption → Prop
  | entry : IsShortage .shortDirectoryEntry
  | name : IsShortage .shortEntryName

/-- Of an entry that is cut, the fields or the name are too short. -/
theorem takeFirst_of_cut
    {entry : DirectoryEntry}
    (fits : entry.Fits)
    {front missing : Octets}
    (cut : entry.encode = front ++ missing)
    (lacking : missing ≠ []) :
    ∃ cause, takeFirst front = .error cause ∧ IsShortage cause := by
  have lost : 0 < missing.length := List.length_pos_iff.2 lacking
  have total : front.length + missing.length = 64 + (Octets.ofText entry.name).length := by
    rw [← List.length_append, ← cut, encode_eq, List.length_append, length_fixedPart]
    rfl
  by_cases short : front.length < 64
  · have noDigest : Octets.toVector? 32 (Octets.slice front 32 32) = none := by
      rw [Octets.toVector?, dif_neg]
      rw [Octets.slice, List.length_take, List.length_drop]
      omega
    refine ⟨_, ?_, .entry⟩
    rw [takeFirst, noDigest]
  · have digestLength : (Octets.slice front 32 32).length = 32 := Octets.length_slice (by omega)
    -- the length of the name is in front of the cut
    have stated : Octets.toNat (Octets.slice front 0 2) = (Octets.ofText entry.name).length := by
      have inside : Octets.slice front 0 2 = Octets.slice (front ++ missing) 0 2 :=
        (Octets.slice_append_left (by omega) missing).symm
      rw [inside, ← cut, encode_eq, (slices_fixedPart entry _).1]
      exact Octets.toNat_littleEndian 2 _ fits.name
    refine ⟨_, ?_, .name⟩
    rw [takeFirst, Octets.toVector?, dif_pos digestLength]
    simp only [stated]
    rw [if_pos]
    rw [List.length_take, List.length_drop]
    show min _ (front.length - 64) < _
    omega

/-- A directory that is cut is too short for its number of entries. -/
theorem decodeAll_of_cut
    {entries : List DirectoryEntry}
    (fit : ∀ entry ∈ entries, entry.Fits)
    {front missing : Octets}
    (cut : encodeAll entries = front ++ missing)
    (lacking : missing ≠ []) :
    ∃ cause, decodeAll entries.length front = .error cause ∧ IsShortage cause := by
  induction entries generalizing front with
  | nil =>
    have nothing : front ++ missing = [] := cut.symm
    exact absurd (List.append_eq_nil_iff.1 nothing).2 lacking
  | cons entry rest ih =>
    have spelled : entry.encode ++ encodeAll rest = front ++ missing := cut
    rw [List.length_cons, decodeAll]
    rcases List.append_eq_append_iff.1 spelled with
      ⟨front', rfl, cutRest⟩ | ⟨missing', cutEntry, continues⟩
    · -- the first entry is whole, and the cut goes through the others
      rw [takeFirst_encode (fit entry List.mem_cons_self)]
      rcases ih (fun other member => fit other (List.mem_cons_of_mem _ member)) cutRest with
        ⟨cause, failed, shortage⟩
      simp only [failed]
      exact ⟨cause, rfl, shortage⟩
    · by_cases whole : missing' = []
      · -- the cut is right behind the first entry, of which nothing is missing
        rw [whole, List.append_nil] at cutEntry
        have cutRest : encodeAll rest = [] ++ missing := (whole ▸ continues).symm
        have first := takeFirst_encode (fit entry List.mem_cons_self) []
        rw [List.append_nil] at first
        rw [← cutEntry, first]
        rcases ih (fun other member => fit other (List.mem_cons_of_mem _ member)) cutRest with
          ⟨cause, failed, shortage⟩
        simp only [failed]
        exact ⟨cause, rfl, shortage⟩
      · rcases takeFirst_of_cut (fit entry List.mem_cons_self) cutEntry whole with
          ⟨cause, failed, shortage⟩
        rw [failed]
        exact ⟨cause, rfl, shortage⟩

/-! ## Equal directories -/

/-- Only no entries take no octets. -/
theorem eq_nil_of_encodeAll
    {entries : List DirectoryEntry}
    (empty : encodeAll entries = []) :
    entries = [] := by
  have counted := Container.Draft.length_le_encodeAll entries
  rw [empty] at counted
  exact List.length_eq_zero_iff.1 (Nat.le_zero.1 counted)

/-- Different entries have different directories. -/
theorem encodeAll_injective
    {left right : List DirectoryEntry}
    (fitLeft : ∀ entry ∈ left, entry.Fits)
    (fitRight : ∀ entry ∈ right, entry.Fits)
    (same : encodeAll left = encodeAll right) :
    left = right := by
  induction left generalizing right with
  | nil => exact (eq_nil_of_encodeAll same.symm).symm
  | cons entry rest ih =>
    cases right with
    | nil => exact eq_nil_of_encodeAll same
    | cons other others =>
      have first := takeFirst_encode (fitLeft entry List.mem_cons_self) (encodeAll rest)
      have firstToo := takeFirst_encode (fitRight other List.mem_cons_self) (encodeAll others)
      have spelled : entry.encode ++ encodeAll rest = other.encode ++ encodeAll others := same
      rw [spelled, firstToo, Except.ok.injEq, Prod.mk.injEq] at first
      rcases first with ⟨rfl, sameRest⟩
      have fitRest := (List.forall_mem_cons.1 fitLeft).2
      have fitOthers := (List.forall_mem_cons.1 fitRight).2
      rw [ih fitRest fitOthers sameRest.symm]

/-! ## The codec -/

/--
Octets decode to some entries exactly if they are the directory of these
entries, as many as were asked for, and their fields fit: names of less than
65536 octets, and numbers of eight octets, as a machine has them anyway.  So
every directory is read back, no other octets decode to its entries, with
octets missing or left over it is rejected, and only its own number of entries
is accepted.
-/
theorem directory_codec_is_exact :
    (∀ (count : Nat) (data : Octets) (entries : List DirectoryEntry),
      decodeAll count data = .ok entries ↔
        entries.length = count ∧ (∀ entry ∈ entries, entry.Fits) ∧ encodeAll entries = data) ∧
      (∀ entries : List DirectoryEntry,
        (∀ entry ∈ entries, entry.Fits) →
          decodeAll entries.length (encodeAll entries) = .ok entries ∧
            (∀ front : Octets,
              front <+: encodeAll entries → front ≠ encodeAll entries →
                ∃ cause, decodeAll entries.length front = .error cause ∧ IsShortage cause) ∧
            ∀ more : Octets,
              more ≠ [] →
                decodeAll entries.length (encodeAll entries ++ more) =
                  .error .trailingDirectory) ∧
      (∀ (count otherCount : Nat) (data otherData : Octets) (entries : List DirectoryEntry),
        decodeAll count data = .ok entries →
          decodeAll otherCount otherData = .ok entries → data = otherData) ∧
      ∀ (count otherCount : Nat) (data : Octets) (entries otherEntries : List DirectoryEntry),
        decodeAll count data = .ok entries →
          decodeAll otherCount data = .ok otherEntries →
            count = otherCount ∧ entries = otherEntries := by
  refine ⟨?_, ?_, ?_, ?_⟩
  · intro count data entries
    rw [decodeAll_eq_ok_iff, eq_comm (a := count), eq_comm (a := data)]
  · intro entries fit
    refine ⟨decodeAll_encodeAll fit, ?_, fun more lacking => decodeAll_append fit lacking⟩
    rintro front ⟨missing, cut⟩ proper
    apply decodeAll_of_cut fit cut.symm
    rintro rfl
    exact proper ((List.append_nil front).symm.trans cut)
  · intro count otherCount data otherData entries decoded decodedToo
    rw [decodeAll_eq_ok_iff] at decoded decodedToo
    exact decoded.2.2.trans decodedToo.2.2.symm
  · intro count otherCount data entries otherEntries decoded decodedToo
    rcases decodeAll_eq_ok_iff.1 decoded with ⟨counted, fit, directory⟩
    rcases decodeAll_eq_ok_iff.1 decodedToo with ⟨countedToo, fitToo, directoryToo⟩
    have same := encodeAll_injective fit fitToo (directory.symm.trans directoryToo)
    exact ⟨by rw [counted, countedToo, same], same⟩

/-! ## A directory of two entries -/

/-- An entry that is stored as it is, and one that is stored compressed. -/
def twoEntries : List DirectoryEntry := [
  {
    name := "manifest.json"
    flags := 0
    offset := 64
    storedLength := 10
    rawLength := 10
    checksum := 0xDEADBEEF
    digest := .replicate 32 1 },
  {
    name := "blobs/ab"
    flags := compressedFlags
    offset := 74
    storedLength := 5
    rawLength := 900
    checksum := 7
    digest := .replicate 32 2 }]

/-- The directory is read back, but not without its last octet or with another one behind it. -/
theorem two_entries_are_read_back :
    (∀ entry ∈ twoEntries, entry.Fits) ∧
      decodeAll 2 (encodeAll twoEntries) = .ok twoEntries ∧
        (∃ cause, decodeAll 2 (encodeAll twoEntries).dropLast = .error cause ∧
          IsShortage cause) ∧
          decodeAll 2 (encodeAll twoEntries ++ [0]) = .error .trailingDirectory := by
  have fit : ∀ entry ∈ twoEntries, entry.Fits := by
    intro entry member
    rcases member with _ | ⟨_, _ | ⟨_, last⟩⟩
    · exact ⟨by decide, by decide, by decide, by decide⟩
    · exact ⟨by decide, by decide, by decide, by decide⟩
    · cases last
  rcases directory_codec_is_exact.2.1 twoEntries fit with ⟨readBack, cut, continued⟩
  have front : (encodeAll twoEntries).dropLast <+: encodeAll twoEntries :=
    List.dropLast_prefix (encodeAll twoEntries)
  have shorter : (encodeAll twoEntries).dropLast ≠ encodeAll twoEntries := by decide
  exact ⟨fit, readBack, cut _ front shorter, continued [0] (List.cons_ne_nil _ _)⟩

end BuildCapture.DirectoryEntry
