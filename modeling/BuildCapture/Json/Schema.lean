import BuildCapture.Json.Tree

/-!
# Typed views of JSON trees

Every stored structure is written as a tree and read from one.  This module
holds the shapes they are made of: texts, integers of a given width, lists,
values that may be null, named choices and structures with named fields.

A structure is an object whose members carry the field names, or an array that
gives the fields by position.  Members with other names are ignored, whatever
their values; an absent field is only acceptable where the reader has a
default for it.
-/

namespace BuildCapture.Json.Tree

/-! ## Scalars -/

/-- A text as a tree. -/
def ofText
    (text : String) :
    Tree :=
  .text (Octets.ofText text)

/-- A natural number as a tree. -/
def ofNat
    (value : Nat) :
    Tree :=
  .number (.natural value)

/-- An integer as a tree. -/
def ofInt : Int → Tree
  | .ofNat value => .number (.natural value)
  | .negSucc value => .number (.negative (value + 1))

/-- The text a tree holds. -/
def text? : Tree → Option String
  | .text data => Octets.text? data
  | _ => none

/-- The truth value a tree holds. -/
def bool? : Tree → Option Bool
  | .bool value => some value
  | _ => none

/-- The natural number a tree holds, if it is below `limit`. -/
def natural?
    (limit : Nat) : Tree → Option Nat
  | .number (.natural value) => if value < limit then some value else none
  | _ => none

/-- The integer a tree holds, if it is at least `-limit` and below `limit`. -/
def integer?
    (limit : Nat) : Tree → Option Int
  | .number (.natural value) => if value < limit then some (.ofNat value) else none
  | .number (.negative magnitude) =>
    if magnitude ≤ limit then some (-(.ofNat magnitude)) else none
  | _ => none

/-- The eight-bit number a tree holds. -/
def uint8?
    (tree : Tree) :
    Option UInt8 :=
  (tree.natural? (Octets.bound 1)).map UInt8.ofNat

/-- The sixteen-bit number a tree holds. -/
def uint16?
    (tree : Tree) :
    Option UInt16 :=
  (tree.natural? (Octets.bound 2)).map UInt16.ofNat

/-- The thirty-two-bit number a tree holds. -/
def uint32?
    (tree : Tree) :
    Option UInt32 :=
  (tree.natural? (Octets.bound 4)).map UInt32.ofNat

/-- The sixty-four-bit number a tree holds. -/
def uint64?
    (tree : Tree) :
    Option UInt64 :=
  (tree.natural? (Octets.bound 8)).map UInt64.ofNat

/-! ## Lists and null -/

/-- A list of values as an array. -/
def ofList
    {α : Type}
    (item : α → Tree)
    (values : List α) :
    Tree :=
  .array (values.map item)

/-- The values an array holds. -/
def list?
    {α : Type}
    (item? : Tree → Option α) : Tree → Option (List α)
  | .array items => items.mapM item?
  | _ => none

/-- A value or null. -/
def ofOption
    {α : Type}
    (value : α → Tree) : Option α → Tree
  | none => .null
  | some present => value present

/-- The value a tree holds, none where it is null. -/
def option?
    {α : Type}
    (value? : Tree → Option α) : Tree → Option (Option α)
  | .null => some none
  | tree => (value? tree).map some

/-! ## Named choices -/

/-- The choice with a given name, as a text or as the key of an object whose value is null. -/
def choice?
    {α : Type}
    (choices : List (String × α)) : Tree → Option α
  | .text name => (Octets.text? name).bind fun name => List.lookup name choices
  | .object [(name, .null)] => (Octets.text? name).bind fun name => List.lookup name choices
  | _ => none

/-! ## Structures -/

/-- The fields of a structure that are present, by name. -/
abbrev Fields := List (String × Tree)

/-- A structure with these fields as an object. -/
def ofFields
    (fields : Fields) :
    Tree :=
  .object (fields.map fun (name, value) => (Octets.ofText name, value))

/-- The members whose key is one of `names`; every key has to be text. -/
def knownMembers?
    (names : List String) : List (Octets × Tree) → Option Fields
  | [] => some []
  | (key, value) :: rest => do
    let name ← Octets.text? key
    let others ← knownMembers? names rest
    return if names.contains name then (name, value) :: others else others

/-- Whether a name stands for more than one field. -/
def hasRepeats : Fields → Bool
  | [] => false
  | (name, _) :: rest => (rest.any fun other => other.1 == name) || hasRepeats rest

/-- The fields of a structure whose fields have these names, in this order. -/
def fields?
    (names : List String) : Tree → Option Fields
  | .object members => do
    let known ← knownMembers? names members
    if hasRepeats known then none else some known
  | .array items => if items.length ≤ names.length then some (names.zip items) else none
  | _ => none

/-- The value of a field that has to be present. -/
def Fields.required
    {α : Type}
    (fields : Fields)
    (name : String)
    (value? : Tree → Option α) :
    Option α :=
  (List.lookup name fields).bind value?

/-- The value of a field, `absent` where it is missing. -/
def Fields.defaulted
    {α : Type}
    (fields : Fields)
    (name : String)
    (value? : Tree → Option α)
    (absent : α) :
    Option α :=
  match List.lookup name fields with
  | none => some absent
  | some tree => value? tree

/-- A field that is left out where it has no value. -/
def Fields.whenSome
    {α : Type}
    (name : String)
    (value : α → Tree) : Option α → Fields
  | none => []
  | some present => [(name, value present)]

end BuildCapture.Json.Tree
