import BuildCapture.Text.Blank

/-!
# Recorded paths

Records keep every path exactly as the capturing machine spelled it, under
either separator convention.  This module derives other spellings: with the
separators of a given convention, and free of the machine's directories, as
the identity of an invocation needs them.

`relativize` strips a root directory, `canonicalText` does the same for every
absolute path inside a free text.
-/

namespace BuildCapture

/-- The separator convention of the machine that captured an archive. -/
inductive PathStyle where
  | unix
  | windows
deriving DecidableEq, Repr

namespace PathStyle

/-- The separator of a convention. -/
def separator : PathStyle → Char
  | .unix => '/'
  | .windows => '\\'

/-- The name of a convention. -/
def name : PathStyle → String
  | .unix => "unix"
  | .windows => "windows"

/-- Every convention with its name. -/
def named : List (String × PathStyle) :=
  [("unix", .unix), ("windows", .windows)]

/-- The flag by which a container names a convention. -/
def flag : PathStyle → UInt32
  | .unix => 0
  | .windows => 1

/-- The convention that the lowest flag names. -/
def ofFlags
    (flags : UInt32) :
    PathStyle :=
  if flags &&& 1 = 1 then .windows else .unix

end PathStyle

namespace SourcePath

/-! ## Characters -/

/-- Whether a character separates components under either convention. -/
def isSeparator
    (symbol : Char) :
    Bool :=
  symbol == '/' || symbol == '\\'

/-- Backslashes turned into slashes. -/
def slashes
    (path : List Char) :
    List Char :=
  path.map fun symbol => if symbol == '\\' then '/' else symbol

/-- Slashes turned into backslashes. -/
def backslashes
    (path : List Char) :
    List Char :=
  path.map fun symbol => if symbol == '/' then '\\' else symbol

/-- Whether a path is rooted under either convention. -/
def isRooted : List Char → Bool
  | '/' :: _ => true
  | '\\' :: _ => true
  | drive :: ':' :: separator :: _ => drive.isAlpha && isSeparator separator
  | _ => false

/-- The final component of a path. -/
def lastComponent
    (path : List Char) :
    List Char :=
  (path.reverse.takeWhile fun symbol => !isSeparator symbol).reverse

/-- What stands before the last slash; the root itself for a path directly below it. -/
def directory
    (path : List Char) :
    List Char :=
  match path.reverse.dropWhile fun symbol => symbol != '/' with
  | [] => []
  | [_] => ['/']
  | _ :: before => before.reverse

/-- A path without its trailing slashes. -/
def withoutTrailingSlashes
    (path : List Char) :
    List Char :=
  (path.reverse.dropWhile fun symbol => symbol == '/').reverse

/-- What follows a prefix, if the text starts with it. -/
def dropPrefix? : (start : List Char) → (text : List Char) → Option (List Char)
  | [], text => some text
  | _ :: _, [] => none
  | expected :: start, symbol :: text =>
    if expected = symbol then dropPrefix? start text else none

/-- A path below a root relative to it, the root itself as a point. -/
def below?
    (root path : List Char) :
    Option (List Char) :=
  match root with
  | [] => none
  | _ :: _ =>
    match dropPrefix? root path with
    | some [] => some ['.']
    | some ('/' :: rest) => some rest
    | _ => none

/-- The spelling of a path relative to a root, as characters. -/
def relativizeChars
    (path root : List Char) :
    List Char :=
  let path := slashes path
  match below? (withoutTrailingSlashes (slashes root)) path with
  | some relative => relative
  | none => if isRooted path then lastComponent path else path

/-! ## Texts -/

/-- A path with the separators of a convention. -/
def inStyle
    (path : String) : PathStyle → String
  | .unix => String.ofList (slashes path.toList)
  | .windows => String.ofList (backslashes path.toList)

/-- A path with forward slashes. -/
def normalize
    (path : String) :
    String :=
  String.ofList (slashes path.toList)

/-- Whether a path is rooted under either convention. -/
def isAbsolute
    (path : String) :
    Bool :=
  isRooted path.toList

/-- The directory of a path, with forward slashes and without a trailing one. -/
def parent
    (path : String) :
    String :=
  String.ofList (directory (slashes path.toList))

/-- The final component of a path under either convention. -/
def fileName
    (path : String) :
    String :=
  String.ofList (lastComponent path.toList)

/--
The spelling of a path that does not depend on the machine: relative to `root`
when it lies below it, otherwise its final component when it is absolute, and
with forward slashes when it is relative.
-/
def relativize
    (path root : String) :
    String :=
  String.ofList (relativizeChars path.toList root.toList)

/-- Whether a character ends a word of a free text. -/
def endsWord
    (symbol : Char) :
    Bool :=
  Text.isBlank symbol || symbol == ',' || symbol == ';'

/-- One word of a free text, relativized if it is an absolute path. -/
def canonicalWord
    (root word : List Char) :
    List Char :=
  if isRooted word then relativizeChars word root else slashes word

/--
A free text with every absolute path in it relativized: the words, joined by
commas.  A text without any separator stays as it is.
-/
def canonicalText
    (text root : String) :
    String :=
  if text.toList.any isSeparator then
    let words := (Text.pieces endsWord text.toList).filter fun word => !word.isEmpty
    String.ofList ((words.map (canonicalWord root.toList)).intersperse [',']).flatten
  else
    text

end SourcePath

end BuildCapture
