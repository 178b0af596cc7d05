import BuildCapture.Failure
import BuildCapture.Record

/-!
# Stored records

A record is stored as a JSON document that wraps it together with the version
of its layout.  The version is looked at before anything else, so a record of
a newer layout is told apart from a damaged one whatever its body holds.
-/

namespace BuildCapture

open Json

/-- The natural number that a member of an object holds. -/
def Json.Tree.memberNumber?
    (name : String) : Tree → Option Nat
  | .object members =>
    match List.lookup (Octets.ofText name) members with
    | some (.number (.natural value)) => some value
    | _ => none
  | _ => none

namespace InvocationRecord

/-- The newest layout version, which is also the one that is written. -/
def layoutVersion : Nat := 1

/-- A record with its version as a tree. -/
def envelope
    (record : InvocationRecord) :
    Tree :=
  .ofFields [("version", .ofNat layoutVersion), ("record", record.toTree)]

/-- The record that an envelope holds. -/
def ofEnvelope?
    (tree : Tree) :
    Option InvocationRecord := do
  let fields ← tree.fields? ["version", "record"]
  let _ ← fields.required "version" Tree.uint32?
  fields.required "record" ofTree?

/-- The document that stores a record. -/
def encode
    (record : InvocationRecord) :
    Octets :=
  record.envelope.render

/-- The record a document stores. -/
def decode
    (data : Octets) :
    Except Failure InvocationRecord :=
  match Tree.readSettled? data with
  | none => .error (.corrupt (.undecodable .record))
  | some tree =>
    match tree.memberNumber? "version" with
    | none => .error (.corrupt .unversionedRecord)
    | some version =>
      if version > layoutVersion then
        .error (.invalidFormat (.newerRecord version))
      else
        match ofEnvelope? tree with
        | none => .error (.corrupt (.malformed .record))
        | some record => .ok record

/-- The name of the container entry that holds the record with an index. -/
def entryName
    (index : Nat) :
    String :=
  "records/" ++ Decimal.text index ++ ".json"

end InvocationRecord

end BuildCapture
