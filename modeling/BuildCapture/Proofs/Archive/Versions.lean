import BuildCapture.Proofs.Archive.Documents
import BuildCapture.Proofs.Json.Settling

/-!
# Versions of documents

A record and a manifest state the version of their layout in a member of their
own.  The version is looked at before anything else is: a document of a newer
version is told apart from a damaged one, whatever else it holds, and only a
version that is known is read at all.

Which version a document states is decided by the document as it was written.
It is the value of the last member with the name, if that is a natural number
of 64 bits, and otherwise the document states none.
-/

namespace BuildCapture

open Json Json.Tree

/-! ## Versioned formats -/

/-- A kind of documents, each of which states the version of its layout. -/
structure VersionedFormat (Value : Type) where
  document : Document
  /-- The name of the member with the version. -/
  member : String
  /-- The newest version that is read. -/
  newest : Nat
  unversioned : Corruption
  newer : Nat → Malformation
  /-- The value that a tree of a known version holds. -/
  ofTree? : Tree → Option Value

namespace VersionedFormat

variable
    {Value : Type}

/-- The value that a document of a versioned format stores. -/
def decode
    (format : VersionedFormat Value)
    (data : Octets) :
    Except Failure Value :=
  match readSettled? data with
  | none => .error (.corrupt (.undecodable format.document))
  | some tree =>
    match tree.memberNumber? format.member with
    | none => .error (.corrupt format.unversioned)
    | some version =>
      if version > format.newest then
        .error (.invalidFormat (format.newer version))
      else
        match format.ofTree? tree with
        | none => .error (.corrupt (.malformed format.document))
        | some value => .ok value

/-- The outcomes that a document of a known version may have. -/
inductive Fits (format : VersionedFormat Value) : Except Failure Value → Prop where
  | read (value : Value) : Fits format (.ok value)
  | malformed : Fits format (.error (.corrupt (.malformed format.document)))

/-- The outcome of reading a document is the one that the version of the document demands. -/
structure Gates
    (format : VersionedFormat Value)
    (document : Octets)
    (outcome : Except Failure Value) :
    Prop where
  unreadable : readSettled? document = none →
    outcome = .error (.corrupt (.undecodable format.document))
  unversioned : readSettled? document ≠ none →
    (∀ version, ¬ States document format.member version) →
      outcome = .error (.corrupt format.unversioned)
  newer : ∀ version, States document format.member version → format.newest < version →
    outcome = .error (.invalidFormat (format.newer version))
  known : ∀ version, States document format.member version → version ≤ format.newest →
    format.Fits outcome
  accepted : ∀ value, outcome = .ok value →
    ∃ version, States document format.member version ∧ version ≤ format.newest

/-- A document that states a version is read as that version demands. -/
theorem gates_of_stated
    {format : VersionedFormat Value}
    {document : Octets}
    {tree : Tree}
    {version : Nat}
    (reading : readSettled? document = some tree)
    (number : tree.memberNumber? format.member = some version) :
    format.Gates document (format.decode document) := by
  have states := (states_iff reading).2 number
  have only : ∀ other, States document format.member other → other = version := by
    intro other statesOther
    exact Option.some.inj (((states_iff reading).1 statesOther).symm.trans number)
  simp only [decode, reading, number]
  constructor
  case unreadable => exact fun unreadable => absurd (reading.symm.trans unreadable) nofun
  case unversioned => exact fun _ statesNone => absurd states (statesNone version)
  case newer =>
    intro other statesOther newer
    rw [only other statesOther] at newer ⊢
    exact if_pos newer
  case known =>
    intro other statesOther known
    rw [only other statesOther] at known
    simp only [if_neg (Nat.not_lt.2 known)]
    split
    · exact .malformed
    · exact .read _
  case accepted =>
    intro value outcome
    refine ⟨version, states, ?_⟩
    by_contra newer
    simp only [if_pos (Nat.not_le.1 newer)] at outcome
    cases outcome

/-- A document of a versioned format is read as its version demands. -/
theorem gates_decode
    (format : VersionedFormat Value)
    (document : Octets) :
    format.Gates document (format.decode document) := by
  cases reading : readSettled? document with
  | none =>
    have unreadable :
        format.decode document = .error (.corrupt (.undecodable format.document)) := by
      rw [decode, reading]
    have statesNone : ∀ version, ¬ States document format.member version := by
      rintro version ⟨⟨settled, readable⟩, -⟩
      rw [reading] at readable
      cases readable
    rw [unreadable]
    exact {
      unreadable := fun _ => rfl
      unversioned := fun readable => absurd reading readable
      newer := fun version states => absurd states (statesNone version)
      known := fun version states => absurd states (statesNone version)
      accepted := nofun }
  | some tree =>
    cases number : tree.memberNumber? format.member with
    | some version => exact gates_of_stated reading number
    | none =>
      have statesNone : ∀ version, ¬ States document format.member version := by
        intro version states
        exact absurd (number.symm.trans ((states_iff reading).1 states)) nofun
      simp only [decode, reading, number]
      exact {
        unreadable := fun unreadable => absurd (reading.symm.trans unreadable) nofun
        unversioned := fun _ _ => rfl
        newer := fun version states => absurd states (statesNone version)
        known := fun version states => absurd states (statesNone version)
        accepted := nofun }

/-- A document that prints a tidy tree states the number that the tree has. -/
theorem states_of_prints
    {tree : Tree}
    (tidy : tree.Tidy nestingLimit)
    {printed : Octets}
    (prints : Prints printed tree.tokens)
    {name : String}
    {version : Nat}
    (number : tree.memberNumber? name = some version) :
    States printed name version :=
  (states_iff (tidy.readSettled? prints)).2 number

end VersionedFormat

/-! ## Records and manifests -/

/-- The format of records. -/
def InvocationRecord.format : VersionedFormat InvocationRecord where
  document := .record
  member := "version"
  newest := layoutVersion
  unversioned := .unversionedRecord
  newer := .newerRecord
  ofTree? := ofEnvelope?

theorem InvocationRecord.decode_eq_format
    (document : Octets) :
    decode document = format.decode document := by
  rw [decode, VersionedFormat.decode]
  cases readSettled? document with
  | none => rfl
  | some tree =>
    simp only [format]
    cases tree.memberNumber? "version" with
    | none => rfl
    | some version => cases ofEnvelope? tree <;> rfl

namespace Manifest

/-- The format of manifests. -/
def format : VersionedFormat Manifest where
  document := .manifest
  member := "format_version"
  newest := currentFormat
  unversioned := .unversionedManifest
  newer := .newerArchive
  ofTree? := ofTree?

theorem decode_eq_format
    (document : Octets) :
    decode document = format.decode document := by
  rw [decode, VersionedFormat.decode]
  cases readSettled? document with
  | none => rfl
  | some tree =>
    simp only [format]
    cases tree.memberNumber? "format_version" with
    | none => rfl
    | some version => cases ofTree? tree <;> rfl

/-- The document of a manifest states the version of the manifest. -/
theorem states_encode
    (manifest : Manifest) :
    States manifest.encode "format_version" manifest.formatVersion.toNat := by
  have tidy : manifest.toTree.Tidy nestingLimit :=
    roundTrips.tidy manifest nestingLimit (by decide)
  exact VersionedFormat.states_of_prints tidy (tidy.prints_lines 0) (memberNumber?_toTree manifest)

/-- A manifest of a newer format is refused. -/
theorem decode_encode_of_newer
    {manifest : Manifest}
    (newer : currentFormat < manifest.formatVersion.toNat) :
    decode manifest.encode =
      .error (.invalidFormat (.newerArchive manifest.formatVersion.toNat)) := by
  rw [decode_eq_format]
  exact (format.gates_decode manifest.encode).newer _ (states_encode manifest) newer

end Manifest

/--
Records and manifests are read as their versions demand, whatever else they
hold.  Versions have 64 bits, and those that are known are zero and one.  A
manifest is read back from its document if its format is known, and otherwise
its document is refused as one of a newer format.
-/
theorem documents_are_read_by_version :
    (∀ document, InvocationRecord.format.Gates document (InvocationRecord.decode document)) ∧
      (∀ document, Manifest.format.Gates document (Manifest.decode document)) ∧
      (∀ document name version, States document name version → version < Octets.bound 8) ∧
      (InvocationRecord.format.newest = 1 ∧ Manifest.format.newest = 1) ∧
      ∀ manifest : Manifest,
        Manifest.decode manifest.encode =
          if manifest.formatVersion.toNat ≤ 1 then .ok manifest
          else .error (.invalidFormat (.newerArchive manifest.formatVersion.toNat)) := by
  refine ⟨?_, ?_, ?_, ⟨rfl, rfl⟩, ?_⟩
  · intro document
    rw [InvocationRecord.decode_eq_format]
    exact InvocationRecord.format.gates_decode document
  · intro document
    rw [Manifest.decode_eq_format]
    exact Manifest.format.gates_decode document
  · exact fun document name version states => states.lt
  · intro manifest
    split
    · next known => exact Manifest.decode_encode known
    · next newer => exact Manifest.decode_encode_of_newer (Nat.not_le.1 newer)

/-! ## A repeated version -/

/-- A document that states two versions, and whose body is no record. -/
def repeatedVersion : Octets :=
  Octets.ofText "\x7b\"version\":0,\"record\":[],\"version\":18446744073709551615\x7d"

/-- The last version counts, and no look is taken at the body. -/
theorem repeated_version_is_newer :
    States repeatedVersion "version" 18446744073709551615 ∧
      InvocationRecord.decode repeatedVersion =
        .error (.invalidFormat (.newerRecord 18446744073709551615)) := by
  have number : (readSettled? repeatedVersion).bind (memberNumber? "version") =
      some 18446744073709551615 := by
    decide +kernel
  rcases Option.bind_eq_some_iff.1 number with ⟨tree, reading, stated⟩
  have states : States repeatedVersion "version" 18446744073709551615 :=
    (states_iff reading).2 stated
  have gates := documents_are_read_by_version.1 repeatedVersion
  exact ⟨states, gates.newer _ states (by decide)⟩

end BuildCapture
