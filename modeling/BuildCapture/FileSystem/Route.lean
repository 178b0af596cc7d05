import BuildCapture.Octets

/-!
# Routes

A path of the file system names a way from the root or from the working
directory: down into a named child or up to the parent.  Empty components and
single points go nowhere.  A path that ends in a slash or a point has to lead
to a directory.
-/

namespace BuildCapture

/-- One step of a way through the file system. -/
inductive Step where
  | down (name : String)
  | up
deriving DecidableEq, Repr

/-- The way that a path names. -/
structure Route where
  isAbsolute : Bool
  steps : List Step
  /-- The way has to end at a directory. -/
  endsInDirectory : Bool
  /-- The path was empty, which leads nowhere. -/
  isEmpty : Bool := false
  /-- The path was longer than the system takes. -/
  isTooLong : Bool := false
deriving DecidableEq, Repr

namespace Route

/-- The components of a path between slashes. -/
def components : List Char → List (List Char)
  | [] => [[]]
  | symbol :: rest =>
    if symbol = '/' then
      [] :: components rest
    else
      match components rest with
      | [] => [[symbol]]
      | first :: others => (symbol :: first) :: others

/-- The step that a component stands for, if any. -/
def step?
    (component : List Char) :
    Option Step :=
  if component = [] ∨ component = ['.'] then
    none
  else if component = ['.', '.'] then
    some .up
  else
    some (.down (String.ofList component))

/-- The greatest length of a path, in octets. -/
def maximalLength : Nat := 4095

/-- The way that a path names. -/
def ofPath
    (path : String) :
    Route :=
  let parts := components path.toList
  { isAbsolute := path.toList.head? = some '/'
    steps := parts.filterMap step?
    endsInDirectory := parts.getLast? = some [] ∨ parts.getLast? = some ['.']
    isEmpty := path.isEmpty
    isTooLong := path.utf8ByteSize > maximalLength }

/-- The final component of a path, unless it is the root, the working directory or a parent. -/
def fileName?
    (path : String) :
    Option String :=
  match (ofPath path).steps.getLast? with
  | some (.down name) => some name
  | _ => none

/-- The way to the directory that holds the end of a route. -/
def parent
    (route : Route) :
    Route where
  isAbsolute := route.isAbsolute
  steps := route.steps.dropLast
  endsInDirectory := true

/-- The way to a file beside the end of a route, named like it with an added suffix. -/
def beside
    (route : Route)
    (suffix : String) :
    Route :=
  let steps :=
    match route.steps.getLast? with
    | some (.down name) => route.steps.dropLast ++ [.down (name ++ suffix)]
    | _ => route.steps ++ [.down suffix]
  { isAbsolute := route.isAbsolute
    steps := steps
    endsInDirectory := false }

/-- The way that goes further down from the end of a route. -/
def below
    (route : Route)
    (names : List String) :
    Route where
  isAbsolute := route.isAbsolute
  steps := route.steps ++ names.map .down
  endsInDirectory := false

/-- A path taken relative to a base, unless it is absolute. -/
def join
    (base path : String) :
    String :=
  if path.toList.head? = some '/' then
    path
  else if base.isEmpty ∨ base.toList.getLast? = some '/' then
    base ++ path
  else
    base ++ "/" ++ path

end Route

end BuildCapture
