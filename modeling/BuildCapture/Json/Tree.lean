import BuildCapture.Json.Token

/-!
# JSON trees

A tree holds a JSON document as it was written: members keep their order and
may repeat a key, and strings are octets that need not be text.  Documents are
written from trees and read into them.  `Tree.ofTokens?` reads with an
explicit stack of unfinished containers, so a document may nest as deeply as
it likes.

Some documents are read with stricter rules, as a `settled` tree: nesting is
bounded, every string is text, every number has a finite double, and of a
repeated key only the last member remains.
-/

namespace BuildCapture.Json

/-- A JSON document as written. -/
inductive Tree where
  | null
  | bool (value : Bool)
  | number (value : Number)
  | text (data : Octets)
  | array (items : List Tree)
  | object (members : List (Octets × Tree))
deriving Inhabited

namespace Tree

/-! ## Writing -/

mutual

/-- The tokens of a tree, without blanks between them. -/
def tokens : Tree → List Token
  | .null => [.null]
  | .bool value => [.bool value]
  | .number value => [.number value]
  | .text data => [.text data]
  | .array [] => [.openArray, .closeArray]
  | .array (first :: rest) =>
    .openArray :: (tokens first ++ (itemTokens rest ++ [.closeArray]))
  | .object [] => [.openObject, .closeObject]
  | .object ((key, value) :: rest) =>
    .openObject :: .text key :: .colon :: (tokens value ++ (memberTokens rest ++ [.closeObject]))

/-- The tokens of the items after the first. -/
def itemTokens : List Tree → List Token
  | [] => []
  | item :: rest => .comma :: (tokens item ++ itemTokens rest)

/-- The tokens of the members after the first. -/
def memberTokens : List (Octets × Tree) → List Token
  | [] => []
  | (key, value) :: rest =>
    .comma :: .text key :: .colon :: (tokens value ++ memberTokens rest)

end

/-- The octets of a tree, without blanks. -/
def render
    (tree : Tree) :
    Octets :=
  tree.tokens.flatMap Token.render

/-- A line break and two spaces for each level. -/
def lineBreak
    (level : Nat) :
    Octets :=
  0x0A :: List.replicate (2 * level) 0x20

mutual

/-- The octets of a tree with each item and member on a line of its own. -/
def renderLines
    (level : Nat) : Tree → Octets
  | .array (first :: rest) =>
    0x5B :: (lineBreak (level + 1) ++ renderLines (level + 1) first ++
      itemLines (level + 1) rest ++ lineBreak level ++ [0x5D])
  | .object ((key, value) :: rest) =>
    0x7B :: (lineBreak (level + 1) ++ Text.render key ++ [0x3A, 0x20] ++
      renderLines (level + 1) value ++ memberLines (level + 1) rest ++ lineBreak level ++ [0x7D])
  | .array [] => [0x5B, 0x5D]
  | .object [] => [0x7B, 0x7D]
  | .null => Token.render .null
  | .bool value => Token.render (.bool value)
  | .number value => Token.render (.number value)
  | .text data => Token.render (.text data)

/-- The items after the first, each on a line of its own. -/
def itemLines
    (level : Nat) : List Tree → Octets
  | [] => []
  | item :: rest => 0x2C :: (lineBreak level ++ renderLines level item ++ itemLines level rest)

/-- The members after the first, each on a line of its own. -/
def memberLines
    (level : Nat) : List (Octets × Tree) → Octets
  | [] => []
  | (key, value) :: rest =>
    0x2C :: (lineBreak level ++ Text.render key ++ [0x3A, 0x20] ++ renderLines level value ++
      memberLines level rest)

end

/-! ## Reading -/

/-- A container whose end has not been reached; what it holds so far is kept newest first. -/
inductive Frame where
  | array (items : List Tree)
  | object (members : List (Octets × Tree)) (key : Octets)

/-- How far a document has been read: the unfinished containers, innermost first, and what may follow. -/
inductive Progress where
  /-- A value has to follow. -/
  | atValue (stack : List Frame)
  /-- An array was opened: its first item or its end has to follow. -/
  | atFirstItem (stack : List Frame)
  /-- An object was opened: its first key or its end has to follow. -/
  | atFirstKey (stack : List Frame)
  /-- A key has to follow. -/
  | atKey (stack : List Frame) (members : List (Octets × Tree))
  /-- The colon after a key has to follow. -/
  | atColon (stack : List Frame) (members : List (Octets × Tree)) (key : Octets)
  /-- A value is complete. -/
  | after (stack : List Frame) (tree : Tree)

namespace Progress

/-- Starts a value in the innermost container. -/
def beginValue
    (stack : List Frame) : Token → Option Progress
  | .null => some (.after stack .null)
  | .bool value => some (.after stack (.bool value))
  | .number value => some (.after stack (.number value))
  | .text data => some (.after stack (.text data))
  | .openArray => some (.atFirstItem stack)
  | .openObject => some (.atFirstKey stack)
  | _ => none

/-- Goes on after a complete value. -/
def afterValue
    (tree : Tree) :
    (stack : List Frame) → Token → Option Progress
  | .array items :: stack, .comma => some (.atValue (.array (tree :: items) :: stack))
  | .array items :: stack, .closeArray => some (.after stack (.array (tree :: items).reverse))
  | .object members key :: stack, .comma => some (.atKey stack ((key, tree) :: members))
  | .object members key :: stack, .closeObject =>
    some (.after stack (.object ((key, tree) :: members).reverse))
  | _, _ => none

/-- Reads one more token, if the grammar allows it here. -/
def step? : Progress → Token → Option Progress
  | .atValue stack, token => beginValue stack token
  | .atFirstItem stack, .closeArray => some (.after stack (.array []))
  | .atFirstItem stack, token => beginValue (.array [] :: stack) token
  | .atFirstKey stack, .closeObject => some (.after stack (.object []))
  | .atFirstKey stack, .text key => some (.atColon stack [] key)
  | .atFirstKey _, _ => none
  | .atKey stack members, .text key => some (.atColon stack members key)
  | .atKey _ _, _ => none
  | .atColon stack members key, .colon => some (.atValue (.object members key :: stack))
  | .atColon _ _ _, _ => none
  | .after stack tree, token => afterValue tree stack token

/-- Reads all remaining tokens; the document has to be complete with the last. -/
def finish? : Progress → List Token → Option Tree
  | .after [] tree, [] => some tree
  | _, [] => none
  | progress, token :: rest =>
    match progress.step? token with
    | none => none
    | some next => finish? next rest

end Progress

/-- The tree whose tokens these are. -/
def ofTokens?
    (tokens : List Token) :
    Option Tree :=
  Progress.finish? (.atValue []) tokens

/-- The tree a document writes, at any depth and with any strings and numbers. -/
def read?
    (data : Octets) :
    Option Tree := do
  ofTokens? (← Token.ofOctets? data)

/-! ## Settled trees -/

/-- How many containers may be nested in a settled document. -/
def nestingLimit : Nat := 127

/-- Of each key only its last member. -/
def lastMembers : List (Octets × Tree) → List (Octets × Tree)
  | [] => []
  | (key, value) :: rest =>
    if rest.any fun later => later.1 == key then
      lastMembers rest
    else
      (key, value) :: lastMembers rest

mutual

/-- The tree with one member for each key, if all its strings are text and its numbers bounded. -/
def settle? : Tree → Option Tree
  | .null => some .null
  | .bool value => some (.bool value)
  | .number (.unbounded _) => none
  | .number value => some (.number value)
  | .text data => (Octets.text? data).map fun _ => .text data
  | .array items => (settleItems? items).map .array
  | .object members => (settleMembers? members).map fun members => .object (lastMembers members)

/-- All items settled. -/
def settleItems? : List Tree → Option (List Tree)
  | [] => some []
  | item :: rest => do
    let settled ← settle? item
    let others ← settleItems? rest
    return settled :: others

/-- All members settled, repeated keys included. -/
def settleMembers? : List (Octets × Tree) → Option (List (Octets × Tree))
  | [] => some []
  | (key, value) :: rest => do
    let _ ← Octets.text? key
    let settled ← settle? value
    let others ← settleMembers? rest
    return (key, settled) :: others

end

/-- The settled tree a document writes. -/
def readSettled?
    (data : Octets) :
    Option Tree := do
  let tokens ← Token.ofOctets? data
  if Token.nestsWithin nestingLimit 0 tokens then
    (← ofTokens? tokens).settle?
  else
    none

end Tree

end BuildCapture.Json
