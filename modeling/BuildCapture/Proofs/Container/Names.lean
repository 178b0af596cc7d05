import BuildCapture.Proofs.Container.Exhaustion
import BuildCapture.Proofs.Container.Listing
import BuildCapture.Proofs.Container.Pendings
import BuildCapture.Proofs.Container.Settled
import BuildCapture.Proofs.Octets.Text

/-!
# Names that a directory can state

The directory states the length of a name in two octets, but a writer accepts
names of any length and writes down what these two octets can hold of the
length.  A container lists the names that were put into it exactly if all of
them are short enough.  With a longer name the directory is not read as it was
written, and already one such entry keeps the whole container from opening.
-/

namespace BuildCapture.Container

/-! ## Deposits -/

/-- An entry that is put into a container at once, from memory or from a source. -/
inductive Deposit where
  | write (name : String) (data : Octets)
  | stream (name : String) (source : Source)
deriving DecidableEq, Repr

/-- The name of a deposit, with its data. -/
def Deposit.item : Deposit → String × Octets
  | .write name data => (name, data)
  | .stream name source => (name, source.data)

/-- The name of a deposit has a length that a directory can state. -/
def Deposit.IsShort (deposit : Deposit) : Prop :=
  (Octets.ofText deposit.item.1).length < Octets.bound 2

namespace Workbench

variable [Zstd.Encoder]

/-- Puts an entry in; streamed octets get their name right away. -/
def deposit
    (bench : Workbench) :
    Deposit → Except Failure Workbench
  | .write name data => bench.write name data
  | .stream name source =>
    match bench.stream source with
    | .error failure => .error failure
    | .ok (pending, streamed) =>
      match streamed.commit pending name with
      | (_, .error failure) => .error failure
      | (committed, .ok ()) => .ok committed

/-- Puts entries in, all of which have to be accepted. -/
def depositAll
    (bench : Workbench) :
    List Deposit → Except Failure Workbench
  | [] => .ok bench
  | first :: rest =>
    match bench.deposit first with
    | .error failure => .error failure
    | .ok next => next.depositAll rest

/-- A deposit that is accepted keeps the workbench settled and at its path. -/
theorem Settled.deposit
    {bench next : Workbench}
    {accepted : List (String × Octets)}
    (settled : bench.Settled accepted)
    {deposit : Deposit}
    (depositing : bench.deposit deposit = .ok next) :
    next.Settled (accepted ++ [deposit.item]) ∧ next.writer.path = bench.writer.path := by
  cases deposit with
  | write name data =>
    exact ⟨settled.write depositing, (continues_write depositing).path⟩
  | stream name source =>
    rw [Workbench.deposit] at depositing
    split at depositing
    · cases depositing
    next pending streamed streaming =>
    split at depositing
    · cases depositing
    next committed committing =>
    cases depositing
    rcases settled.stream_commit streaming committing with ⟨data, all, -, settledNext, continues⟩
    rw [← Source.data_of_readAll all] at settledNext
    exact ⟨settledNext, continues.path⟩

/-- Deposits that are all accepted keep the workbench settled and at its path. -/
theorem Settled.depositAll
    {bench final : Workbench}
    {accepted : List (String × Octets)}
    (settled : bench.Settled accepted)
    {deposits : List Deposit}
    (depositing : bench.depositAll deposits = .ok final) :
    final.Settled (accepted ++ deposits.map Deposit.item) ∧
      final.writer.path = bench.writer.path := by
  induction deposits generalizing bench accepted with
  | nil =>
    cases depositing
    rw [List.map_nil, List.append_nil]
    exact ⟨settled, rfl⟩
  | cons first rest ih =>
    rw [Workbench.depositAll] at depositing
    split at depositing
    · cases depositing
    next next depositingFirst =>
    rcases settled.deposit depositingFirst with ⟨settledNext, samePath⟩
    rcases ih settledNext depositing with ⟨settledFinal, samePathFinal⟩
    rw [List.append_assoc] at settledFinal
    exact ⟨settledFinal, samePathFinal.trans samePath⟩

/--
Entries that were all accepted are listed by the sealed container exactly if
all their names are short; it then opens and serves their data.
-/
theorem deposits_are_listed_iff_names_are_short
    {files started : FileSystem}
    {path : String}
    {config : WriterConfig}
    {writer : Writer}
    (creating : Writer.create files path config = (started, .ok writer))
    {deposits : List Deposit}
    {bench finished : Workbench}
    (depositing : (⟨started, writer⟩ : Workbench).depositAll deposits = .ok bench)
    (finishing : bench.finish = (finished, .ok ()))
    (verify : Bool) :
    ((∃ container,
        openFile finished.files path verify = .ok container ∧
          (container.entries.map DirectoryEntry.name).Perm
            (deposits.map fun deposit => deposit.item.1)) ↔
        ∀ deposit ∈ deposits, deposit.IsShort) ∧
      ((∀ deposit ∈ deposits, deposit.IsShort) →
        ∃ container,
          openFile finished.files path verify = .ok container ∧
            ∀ deposit ∈ deposits, container.read deposit.item.1 = .ok deposit.item.2) := by
  rcases settled_create creating with ⟨fresh, samePath, -⟩
  rcases fresh.depositAll depositing with ⟨settled, samePathLater⟩
  rw [List.nil_append] at settled
  have place : bench.writer.path = path := samePathLater.trans samePath
  have serves (short : ∀ deposit ∈ deposits, deposit.IsShort) :
      ∃ container,
        openFile finished.files path verify = .ok container ∧
          (container.entries.map DirectoryEntry.name).Perm
            ((deposits.map Deposit.item).map Prod.fst) ∧
          ∀ item ∈ deposits.map Deposit.item, container.read item.1 = .ok item.2 := by
    rw [← place]
    exact settled.opens (List.forall_mem_map.2 short) finishing verify
  rw [List.map_map] at serves
  refine ⟨⟨?_, ?_⟩, ?_⟩
  · rintro ⟨container, opened, listed⟩ deposit member
    have fromImage := opened
    rcases read_of_finish settled.sound.backed finishing with ⟨found, -⟩
    rw [place] at found
    rw [openFile_of_read found] at fromImage
    have listedName := listed.mem_iff.2 (List.mem_map_of_mem member)
    rcases List.mem_map.1 listedName with ⟨entry, entryMember, sameName⟩
    rw [Deposit.IsShort, ← sameName]
    exact (fits_of_ofImage fromImage entry entryMember).name
  · intro short
    rcases serves short with ⟨container, opened, listed, -⟩
    exact ⟨container, opened, listed⟩
  · intro short
    rcases serves short with ⟨container, opened, -, reads⟩
    exact ⟨container, opened, List.forall_mem_map.1 reads⟩

end Workbench

/-! ## Short names -/

/-- An entry from memory and one from a source. -/
def shortDeposits : List Deposit := [
  .write "a" [120],
  .stream "b" (.ofOctets [97, 98, 99])]

/-- The workbench after deposits in a new container that stores everything as it is. -/
def plainDeposits
    (deposits : List Deposit) :
    Option Workbench :=
  match plainStart with
  | (_, .error _) => none
  | (started, .ok writer) => ((⟨started, writer⟩ : Workbench).depositAll deposits).toOption

set_option maxRecDepth 100000 in
/-- Both entries are accepted and listed. -/
theorem short_names_are_listed :
    ∃ bench finished container,
      plainDeposits shortDeposits = some bench ∧ bench.finish = (finished, .ok ()) ∧
        openFile finished.files "plain" true = .ok container ∧
          (container.entries.map DirectoryEntry.name).Perm ["a", "b"] := by
  have starts : ∃ started writer, plainStart = (started, .ok writer) := ⟨_, _, rfl⟩
  rcases starts with ⟨started, writer, starting⟩
  have reached :
      ∃ bench, plainDeposits shortDeposits = some bench ∧ bench.finish.2 = .ok () := by
    refine ⟨_, rfl, ?_⟩
    decide +kernel
  rcases reached with ⟨bench, run, sealing⟩
  have depositing : (⟨started, writer⟩ : Workbench).depositAll shortDeposits = .ok bench := by
    cases deposited : (⟨started, writer⟩ : Workbench).depositAll shortDeposits with
    | error failure =>
      rw [plainDeposits, starting] at run
      simp only [deposited] at run
      cases run
    | ok other =>
      rw [plainDeposits, starting] at run
      simp only [deposited] at run
      exact congrArg Except.ok (Option.some.inj run)
  have finishing : bench.finish = (bench.finish.1, .ok ()) := Prod.ext rfl sealing
  have short : ∀ deposit ∈ shortDeposits, deposit.IsShort := by
    unfold Deposit.IsShort
    decide
  rcases (Workbench.deposits_are_listed_iff_names_are_short starting depositing finishing true).1.2
      short with ⟨container, opened, listed⟩
  exact ⟨bench, bench.finish.1, container, run, finishing, opened, listed⟩

/-! ## A long name -/

/-- An entry is written with its name behind the fields of fixed length. -/
theorem length_encodeAll_singleton
    (entry : DirectoryEntry) :
    (DirectoryEntry.encodeAll [entry]).length =
      DirectoryEntry.fixedLength + (Octets.ofText entry.name).length := by
  have spelled : DirectoryEntry.encodeAll [entry] = entry.encode ++ [] := rfl
  rw [spelled, List.append_nil, DirectoryEntry.encode_eq, List.length_append,
    DirectoryEntry.length_fixedPart]

/-- A container whose only entry has a long name does not open. -/
theorem not_opened_of_long_name
    {draft : Draft}
    {entry : DirectoryEntry}
    (entries : draft.entries = [entry])
    (long : Octets.bound 2 ≤ (Octets.ofText entry.name).length)
    (small : draft.sealedImage.length < Octets.bound 8)
    (path : String)
    (verify : Bool) :
    ∃ failure, ofImage path draft.sealedImage verify = .error failure := by
  cases opened : ofImage path draft.sealedImage verify with
  | error failure => exact ⟨failure, rfl⟩
  | ok container =>
    rcases ofImage_eq_ok_iff.1 opened with ⟨flags, known, -, read, -⟩
    rcases readEntries_eq_ok_iff.1 read with ⟨trailer, listed, lists, -⟩
    have trailerRead := lists.trailer_read
    rw [Draft.drop_sealedImage, Trailer.ofOctets_octets (Draft.closing_fits small)] at trailerRead
    cases trailerRead
    have decoded := lists.decoded
    rw [Draft.slice_sealedImage, entries, DirectoryEntry.decodeAll_eq_ok_iff] at decoded
    rcases decoded with ⟨counted, fit, same⟩
    have one : listed.length = 1 := by
      rw [← counted, Draft.closing, entries]
      rfl
    -- both directories take the same octets, but the name that was read is short
    rcases List.length_eq_one_iff.1 one with ⟨other, rfl⟩
    have lengths := congrArg List.length same
    rw [length_encodeAll_singleton, length_encodeAll_singleton] at lengths
    have short := (fit other (List.mem_singleton.2 rfl)).name
    omega

/-- The draft of a plain container with one empty entry. -/
def draftWithName
    (name : String) :
    Draft :=
  (Draft.new plainConfig).gained name [] ([], 0)

theorem length_draftWithName
    (name : String) :
    (draftWithName name).sealedImage.length =
      headerLength + (DirectoryEntry.fixedLength + (Octets.ofText name).length) +
        trailerLength := by
  have image : (draftWithName name).image.length = headerLength := rfl
  rw [Draft.length_sealedImage, image]
  exact congrArg (fun length => headerLength + length + trailerLength)
    (length_encodeAll_singleton _)

theorem length_draftWithName_le
    {name : String}
    (fits : (Octets.ofText name).length ≤ Nat.pow 2 20) :
    (draftWithName name).sealedImage.length ≤ FileSystem.maximalFile := by
  have room : headerLength + (DirectoryEntry.fixedLength + Nat.pow 2 20) + trailerLength ≤
      FileSystem.maximalFile := by decide
  have longest :=
    Nat.add_le_add_right
      (Nat.add_le_add_left (Nat.add_le_add_left fits DirectoryEntry.fixedLength) headerLength)
      trailerLength
  rw [length_draftWithName]
  exact Nat.le_trans longest room

theorem plainStart_admits :
    plainStart.1.Admits (.ofPath "plain") := by
  refine ⟨rfl, ["plain"], rfl, ?_⟩
  nofun

/-- A plain container with one empty entry is sealed, whatever the name of the entry. -/
theorem plain_name_is_sealed
    (name : String)
    (fits : (Octets.ofText name).length ≤ Nat.pow 2 20) :
    ∃ started writer written finished,
      plainStart = (started, .ok writer) ∧
        (⟨started, writer⟩ : Workbench).write name [] = .ok written ∧
          written.finish = (finished, .ok ()) ∧
            finished.files.read "plain" = .ok (draftWithName name).sealedImage := by
  have starts : ∃ started writer, plainStart = (started, .ok writer) := ⟨_, _, rfl⟩
  rcases starts with ⟨started, writer, starting⟩
  rcases Workbench.sound_create starting with ⟨sound, samePath, fresh⟩
  have writing :
      (⟨started, writer⟩ : Workbench).write name [] =
        .ok (Workbench.grow ⟨started, writer⟩ (draftWithName name)) := by
    have drafting : writer.draft.write name [] = .ok (draftWithName name) := by
      rw [fresh]
      rfl
    rw [Workbench.write, drafting]
  have backed := (sound.write writing).backed
  have admits :
      (Workbench.grow ⟨started, writer⟩ (draftWithName name)).files.Admits
        (.ofPath writer.path) := by
    have startAdmits : started.Admits (.ofPath "plain") := by
      have here := plainStart_admits
      rw [starting] at here
      exact here
    rw [samePath]
    exact startAdmits.congr (Workbench.rewrites_write writing).files.sameShape
  cases finishing : (Workbench.grow ⟨started, writer⟩ (draftWithName name)).finish with
  | mk finished outcome =>
    cases outcome with
    | error failure =>
      have full := (Workbench.error_of_finish backed rfl admits finishing).2
      exact absurd (length_draftWithName_le fits) (Nat.not_le.2 full)
    | ok done =>
      have found := (Workbench.read_of_finish backed finishing).1
      refine ⟨started, writer, _, finished, starting, writing, finishing, ?_⟩
      rw [← samePath]
      exact found

/-- A long name is accepted and sealed, and yet nothing opens. -/
theorem plain_long_name_is_not_opened
    {name : String}
    (long : Octets.bound 2 ≤ (Octets.ofText name).length)
    (fits : (Octets.ofText name).length ≤ Nat.pow 2 20) :
    ∃ started writer written finished,
      plainStart = (started, .ok writer) ∧
        (⟨started, writer⟩ : Workbench).write name [] = .ok written ∧
          written.finish = (finished, .ok ()) ∧
            ∀ verify, ∃ failure, openFile finished.files "plain" verify = .error failure := by
  rcases plain_name_is_sealed name fits with
    ⟨started, writer, written, finished, starting, writing, finishing, found⟩
  refine ⟨started, writer, written, finished, starting, writing, finishing, ?_⟩
  intro verify
  have small : (draftWithName name).sealedImage.length < Octets.bound 8 :=
    Nat.lt_of_le_of_lt (length_draftWithName_le fits) maximalFile_lt
  rw [openFile_of_read found]
  exact not_opened_of_long_name rfl long small "plain" verify

/-- A name of so many letters. -/
def nameOfLength
    (count : Nat) :
    String :=
  String.ofList (List.replicate count 'a')

theorem length_nameOfLength
    (count : Nat) :
    (Octets.ofText (nameOfLength count)).length = count := by
  rw [nameOfLength, Octets.ofText_ofList_of_lt, List.length_map, List.length_replicate]
  intro symbol member
  rw [List.eq_of_mem_replicate member]
  decide

/-- An entry with a name of 65536 letters is accepted and sealed, and yet nothing opens. -/
theorem long_name_is_sealed_but_not_opened :
    ∃ started writer written finished,
      plainStart = (started, .ok writer) ∧
        (⟨started, writer⟩ : Workbench).write (nameOfLength 65536) [] = .ok written ∧
          written.finish = (finished, .ok ()) ∧
            ∀ verify, ∃ failure, openFile finished.files "plain" verify = .error failure := by
  apply plain_long_name_is_not_opened
  · rw [length_nameOfLength]
    decide
  · rw [length_nameOfLength]
    decide

end BuildCapture.Container
