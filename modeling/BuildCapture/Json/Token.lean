import BuildCapture.Json.Number
import BuildCapture.Json.Text

/-!
# JSON tokens

A JSON document is a sequence of tokens with blanks between them.  Writing a
token sequence without blanks and reading it gives the sequence back, provided
no two values stand side by side, which the grammar never lets happen.
-/

namespace BuildCapture.Json

/-- The smallest meaningful piece of a JSON document. -/
inductive Token where
  | null
  | bool (value : Bool)
  | number (value : Number)
  | text (data : Octets)
  | comma
  | colon
  | openArray
  | closeArray
  | openObject
  | closeObject
deriving DecidableEq, Repr

namespace Token

/-! ## Writing -/

/-- The octets that write a token. -/
def render : Token → Octets
  | .null => [0x6E, 0x75, 0x6C, 0x6C]
  | .bool true => [0x74, 0x72, 0x75, 0x65]
  | .bool false => [0x66, 0x61, 0x6C, 0x73, 0x65]
  | .number value => value.render
  | .text data => Text.render data
  | .comma => [0x2C]
  | .colon => [0x3A]
  | .openArray => [0x5B]
  | .closeArray => [0x5D]
  | .openObject => [0x7B]
  | .closeObject => [0x7D]

/-! ## Reading -/

/-- Whether an octet may stand between tokens. -/
def isBlank
    (octet : UInt8) :
    Bool :=
  octet == 0x20 || octet == 0x09 || octet == 0x0A || octet == 0x0D

/-- The token at the start of the data, and what follows it. -/
def take? : Octets → Option (Token × Octets)
  | 0x2C :: rest => some (.comma, rest)
  | 0x3A :: rest => some (.colon, rest)
  | 0x5B :: rest => some (.openArray, rest)
  | 0x5D :: rest => some (.closeArray, rest)
  | 0x7B :: rest => some (.openObject, rest)
  | 0x7D :: rest => some (.closeObject, rest)
  | 0x22 :: rest => (Text.takeRest? [] none rest).map fun (data, rest) => (.text data, rest)
  | 0x6E :: 0x75 :: 0x6C :: 0x6C :: rest => some (.null, rest)
  | 0x74 :: 0x72 :: 0x75 :: 0x65 :: rest => some (.bool true, rest)
  | 0x66 :: 0x61 :: 0x6C :: 0x73 :: 0x65 :: rest => some (.bool false, rest)
  | data => (Number.take? data).map fun (value, rest) => (.number value, rest)

/-- Reads at most `fuel` tokens, newest first in `known`, up to the end of the data. -/
def scan? :
    (fuel : Nat) →
    (known : List Token) →
    Octets →
    Option (List Token)
  | 0, _, _ => none
  | fuel + 1, known, data =>
    match data.dropWhile isBlank with
    | [] => some known.reverse
    | first :: rest =>
      match take? (first :: rest) with
      | none => none
      | some (token, rest) => scan? fuel (token :: known) rest

/-- All tokens of a document.  Each takes at least one octet, so the length bounds their number. -/
def ofOctets?
    (data : Octets) :
    Option (List Token) :=
  scan? (data.length + 1) [] data

/-- How many brackets are open after a token, given how many were open before. -/
def depthAfter
    (depth : Nat) : Token → Nat
  | .openArray | .openObject => depth + 1
  | .closeArray | .closeObject => depth - 1
  | _ => depth

/-- Whether no more than `limit` brackets are ever open at once. -/
def nestsWithin
    (limit : Nat) :
    (depth : Nat) → List Token → Bool
  | _, [] => true
  | depth, token :: rest =>
    depthAfter depth token ≤ limit && nestsWithin limit (depthAfter depth token) rest

end Token

end BuildCapture.Json
