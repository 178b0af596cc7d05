import BuildCapture.FileSystem
import Mathlib.Data.List.Basic
import Mathlib.Tactic.Basic

/-!
# What file operations do to nodes and ways

Putting, erasing and editing nodes is described by what stands at each location
afterwards.  A way that was open stays open as long as the directories on it
do, and none of the operations on files removes a directory.  From this follow
what is found after a file was edited, created or renamed.
-/

namespace BuildCapture

/-! ## Sources -/

/-- What can be read to its end is a source that does not break off. -/
theorem Source.readAll_eq_ok_iff
    {source : Source}
    {data : Octets} :
    source.readAll = .ok data ↔ source = .ofOctets data := by
  rcases source with ⟨octets, _ | fault⟩ <;> simp [readAll, ofOctets]

theorem Source.readAll_eq_error_iff
    {source : Source}
    {fault : FileFault} :
    source.readAll = .error fault ↔ source.fault = some fault := by
  rcases source with ⟨octets, _ | other⟩ <;> simp [readAll]

/-- A source that yields all its octets does not break off. -/
theorem Source.fault_of_readAll
    {source : Source}
    {data : Octets}
    (all : source.readAll = .ok data) :
    source.fault = none :=
  congrArg fault (readAll_eq_ok_iff.1 all)

theorem Source.data_of_readAll
    {source : Source}
    {data : Octets}
    (all : source.readAll = .ok data) :
    source.data = data :=
  congrArg Source.data (readAll_eq_ok_iff.1 all)

/-! ## Tables -/

/-- Taking one key out of a table does not matter for the others. -/
theorem lookup_filter_of_ne
    {α β : Type}
    [BEq α]
    [LawfulBEq α]
    {key other : α}
    (different : other ≠ key)
    (entries : List (α × β)) :
    List.lookup other (entries.filter fun entry => entry.1 != key) =
      List.lookup other entries := by
  induction entries with
  | nil => rfl
  | cons entry rest ih =>
    rcases entry with ⟨place, value⟩
    rw [List.filter_cons]
    by_cases here : place = key
    · have elsewhere : (other == place) = false := by
        rw [here]
        exact beq_false_of_ne different
      have removed : ¬ (place != key) = true := by
        simp [here]
      rw [if_neg removed, List.lookup_cons, elsewhere]
      exact ih
    · rw [if_pos (bne_iff_ne.2 here), List.lookup_cons, List.lookup_cons, ih]

namespace FileSystem

/-! ## Nodes -/

theorem lookup_without
    {location other : Location}
    (different : other ≠ location)
    (nodes : List (Location × Node)) :
    List.lookup other (without location nodes) = List.lookup other nodes :=
  lookup_filter_of_ne different nodes

theorem lookup_without_self
    (location : Location)
    (nodes : List (Location × Node)) :
    List.lookup location (without location nodes) = none := by
  rw [List.lookup_eq_none_iff]
  intro entry member
  have kept := (List.mem_filter.1 member).2
  simp only [bne_iff_ne, ne_eq] at kept
  exact bne_iff_ne.2 fun same => kept same.symm

/-- The root is a directory. -/
@[simp]
theorem node?_root
    (files : FileSystem) :
    files.node? [] = some .directory := by
  simp [node?]

/-- Where no directory stands is below the root. -/
theorem ne_root
    {files : FileSystem}
    {location : Location}
    (noDirectory : files.node? location ≠ some .directory) :
    location ≠ [] := by
  rintro rfl
  exact noDirectory (node?_root files)

theorem noDirectory_of_nothing
    {files : FileSystem}
    {location : Location}
    (nothing : files.node? location = none) :
    files.node? location ≠ some .directory := by
  rw [nothing]
  nofun

theorem ne_root_of_nothing
    {files : FileSystem}
    {location : Location}
    (nothing : files.node? location = none) :
    location ≠ [] :=
  ne_root (noDirectory_of_nothing nothing)

theorem noDirectory_of_file
    {files : FileSystem}
    {location : Location}
    {identity stamp : Nat}
    {content : Octets}
    {flaw : Option Flaw}
    (there : files.node? location = some (.file identity stamp content flaw)) :
    files.node? location ≠ some .directory := by
  rw [there]
  nofun

/-- A node that is put somewhere stands there and nothing else changes. -/
theorem node?_put
    (files : FileSystem)
    (location other : Location)
    (node : Node)
    (below : location ≠ []) :
    (files.put location node).node? other =
      if other = location then some node else files.node? other := by
  by_cases same : other = location
  · subst same
    simp [node?, put, below]
  · have elsewhere : (other == location) = false := beq_false_of_ne same
    simp [node?, put, same, List.lookup_cons, elsewhere, lookup_without same]

/-- Where a node is erased nothing is left and nothing else changes. -/
theorem node?_erase
    (files : FileSystem)
    (location other : Location)
    (below : location ≠ []) :
    (files.erase location).node? other =
      if other = location then none else files.node? other := by
  by_cases same : other = location
  · subst same
    simp [node?, erase, below, lookup_without_self]
  · simp [node?, erase, same, lookup_without same]

/-- A node after the file with an identity has been changed. -/
def edited
    (identity clock : Nat)
    (change : Octets → Octets) : Node → Node
  | .directory => .directory
  | .file other stamp content flaw =>
    if other = identity then .file other clock (change content) flaw
    else .file other stamp content flaw

theorem nodes_edit
    (files : FileSystem)
    (identity : Nat)
    (change : Octets → Octets) :
    (files.edit identity change).nodes =
      files.nodes.map fun entry => (entry.1, edited identity files.clock change entry.2) := by
  apply List.map_congr_left
  rintro ⟨place, node⟩ -
  cases node with
  | directory => rfl
  | file other stamp content flaw =>
    simp only [edited]
    split <;> rfl

/-- Changing a file changes the node that it is. -/
theorem node?_edit
    (files : FileSystem)
    (identity : Nat)
    (change : Octets → Octets)
    (location : Location) :
    (files.edit identity change).node? location =
      (files.node? location).map (edited identity files.clock change) := by
  by_cases root : location = []
  · subst root
    simp [edited]
  · simp only [node?, root, if_false, nodes_edit]
    induction files.nodes with
    | nil => rfl
    | cons entry rest ih =>
      rw [List.map_cons, List.lookup_cons, List.lookup_cons]
      cases location == entry.1 with
      | true => rfl
      | false => exact ih

/-! ## Ways -/

/-- Every directory of the first file system is one of the second. -/
def KeepsDirectories (before after : FileSystem) : Prop :=
  ∀ location, before.node? location = some .directory → after.node? location = some .directory

theorem keepsDirectories_put
    {files : FileSystem}
    {location : Location}
    (noDirectory : files.node? location ≠ some .directory)
    (node : Node) :
    KeepsDirectories files (files.put location node) := by
  intro other there
  have below := ne_root noDirectory
  have elsewhere : other ≠ location := by
    rintro rfl
    exact noDirectory there
  rw [node?_put _ _ _ _ below, if_neg elsewhere]
  exact there

theorem keepsDirectories_erase
    {files : FileSystem}
    {location : Location}
    (noDirectory : files.node? location ≠ some .directory) :
    KeepsDirectories files (files.erase location) := by
  intro other there
  have below := ne_root noDirectory
  have elsewhere : other ≠ location := by
    rintro rfl
    exact noDirectory there
  rw [node?_erase _ _ _ below, if_neg elsewhere]
  exact there

theorem keepsDirectories_edit
    (files : FileSystem)
    (identity : Nat)
    (change : Octets → Octets) :
    KeepsDirectories files (files.edit identity change) := by
  intro location there
  rw [node?_edit, there]
  rfl

/-- A way that is open stays open while its directories are kept. -/
theorem follow_eq_ok
    {before after : FileSystem}
    (kept : KeepsDirectories before after)
    {here location : Location}
    {steps : List Step}
    (followed : before.follow here steps = .ok location) :
    after.follow here steps = .ok location := by
  induction steps generalizing here with
  | nil => exact followed
  | cons step rest ih =>
    unfold follow at followed ⊢
    split at followed
    · cases followed
    · cases followed
    · next directory =>
      rw [kept here directory]
      cases step with
      | up => exact ih followed
      | down name =>
        simp only at followed ⊢
        split at followed
        · cases followed
        · next short =>
          rw [if_neg short]
          exact ih followed

/-- A route leads to one location while the directories are kept. -/
theorem locate_eq_ok
    {before after : FileSystem}
    (kept : KeepsDirectories before after)
    (start : after.workingDirectory = before.workingDirectory)
    {route : Route}
    {location : Location}
    (located : before.locate route = .ok location) :
    after.locate route = .ok location := by
  unfold locate at located ⊢
  rw [start]
  split at located
  · cases located
  next noNul =>
  split at located
  · cases located
  next notEmpty =>
  split at located
  · cases located
  next notLong =>
  rw [if_neg noNul, if_neg notEmpty, if_neg notLong]
  exact follow_eq_ok kept located

/-! ## Finding files -/

/-- A file is found at the end of a route where the route leads to it and may end at a file. -/
theorem find_eq_file_iff
    {files : FileSystem}
    {route : Route}
    {location : Location}
    {identity stamp : Nat}
    {content : Octets}
    {flaw : Option Flaw} :
    files.find route = .ok (location, .file identity stamp content flaw) ↔
      files.locate route = .ok location ∧
        files.node? location = some (.file identity stamp content flaw) ∧
        route.endsInDirectory = false := by
  constructor
  · intro found
    rw [find] at found
    split at found
    · cases found
    next place located =>
    split at found
    · cases found
    · cases found
    · next there =>
      split at found
      · cases found
      · next plain =>
        cases found
        exact ⟨located, there, Bool.not_eq_true _ ▸ plain⟩
  · rintro ⟨located, there, plain⟩
    simp only [find, located, there, plain]
    rfl

/-- A file stays where it is while another way of storing its directories is found. -/
theorem find_of_kept
    {before after : FileSystem}
    (kept : KeepsDirectories before after)
    (start : after.workingDirectory = before.workingDirectory)
    {route : Route}
    {location : Location}
    {identity stamp newIdentity newStamp : Nat}
    {content newContent : Octets}
    {flaw newFlaw : Option Flaw}
    (found : before.find route = .ok (location, .file identity stamp content flaw))
    (there : after.node? location = some (.file newIdentity newStamp newContent newFlaw)) :
    after.find route = .ok (location, .file newIdentity newStamp newContent newFlaw) := by
  rcases find_eq_file_iff.1 found with ⟨located, -, plain⟩
  exact find_eq_file_iff.2 ⟨locate_eq_ok kept start located, there, plain⟩

/-- A file that is changed is found changed. -/
theorem find_edit
    {files : FileSystem}
    {route : Route}
    {location : Location}
    {identity stamp : Nat}
    {content : Octets}
    {flaw : Option Flaw}
    (found : files.find route = .ok (location, .file identity stamp content flaw))
    (change : Octets → Octets) :
    (files.edit identity change).find route =
      .ok (location, .file identity files.clock (change content) flaw) := by
  have there := (find_eq_file_iff.1 found).2.1
  apply find_of_kept (keepsDirectories_edit files identity change) rfl found
  rw [node?_edit, there]
  simp [edited]

/-- What is found is what is opened. -/
theorem openSource_of_find
    {files : FileSystem}
    {path : String}
    {found : Location × Node}
    (finding : files.find (.ofPath path) = .ok found) :
    files.openSource path = .ok found.2.source := by
  rw [openSource, finding]
  rfl

/-- What can be read to its end is a file without a flaw. -/
theorem read_eq_ok_iff
    {files : FileSystem}
    {path : String}
    {content : Octets} :
    files.read path = .ok content ↔
      ∃ location identity stamp,
        files.find (.ofPath path) = .ok (location, .file identity stamp content) := by
  rw [read, openSource]
  cases files.find (.ofPath path) with
  | error fault => simp [Except.map]
  | ok found =>
    rcases found with ⟨location, _ | ⟨identity, stamp, other, _ | flaw⟩⟩ <;>
      simp [Except.map, Node.source, Source.readAll, Source.ofOctets]

theorem read_of_find
    {files : FileSystem}
    {path : String}
    {location : Location}
    {identity stamp : Nat}
    {content : Octets}
    (found : files.find (.ofPath path) = .ok (location, .file identity stamp content)) :
    files.read path = .ok content :=
  read_eq_ok_iff.2 ⟨location, identity, stamp, found⟩

/-! ## Creating and renaming -/

/-- A file that is put at the end of a route is found there. -/
theorem find_put
    {files : FileSystem}
    {route : Route}
    {location : Location}
    (located : files.locate route = .ok location)
    (noDirectory : files.node? location ≠ some .directory)
    (plain : route.endsInDirectory = false)
    (identity stamp clock : Nat)
    (content : Octets)
    (flaw : Option Flaw) :
    ({ files.put location (.file identity stamp content flaw) with clock } : FileSystem).find
        route =
      .ok (location, .file identity stamp content flaw) := by
  have below := ne_root noDirectory
  have kept :
      KeepsDirectories files
        { files.put location (.file identity stamp content flaw) with clock } :=
    keepsDirectories_put noDirectory _
  apply find_eq_file_iff.2
  refine ⟨locate_eq_ok kept rfl located, ?_, plain⟩
  have there := node?_put files location location (.file identity stamp content flaw) below
  rw [if_pos rfl] at there
  exact there

/-- A created file is found empty at the end of its route. -/
theorem find_createFile
    {files after : FileSystem}
    {route : Route}
    {identity : Nat}
    (created : files.createFile route = .ok (identity, after)) :
    ∃ location stamp,
      after.find route = .ok (location, .file identity stamp []) := by
  rw [createFile] at created
  split at created
  · cases created
  next location located =>
  split at created
  · cases created
  · next other stamp content flaw there =>
    split at created
    · cases created
    next plain =>
    cases created
    rw [Bool.not_eq_true] at plain
    exact ⟨location, _, find_put located (noDirectory_of_file there) plain _ _ _ _ _⟩
  · next nothing =>
    split at created
    · cases created
    next plain =>
    cases created
    rw [Bool.not_eq_true] at plain
    have noDirectory : files.node? location ≠ some .directory := by
      rw [nothing]
      simp
    exact ⟨location, _, find_put located noDirectory plain _ _ _ _ _⟩

/-- A renamed file is found at the end of the route it was moved to. -/
theorem find_rename
    {files after : FileSystem}
    {source target : Route}
    {origin : Location}
    {identity stamp : Nat}
    {content : Octets}
    {flaw : Option Flaw}
    (found : files.find source = .ok (origin, .file identity stamp content flaw))
    (renamed : files.rename source target = .ok after) :
    ∃ location, after.find target = .ok (location, .file identity stamp content flaw) := by
  rw [rename, found] at renamed
  split at renamed
  · cases renamed
  · cases renamed
  · cases renamed
  next place named content flaw location same located =>
  cases same
  split at renamed
  · cases renamed
  next plain =>
  rw [Bool.not_eq_true] at plain
  split at renamed
  · cases renamed
  next noDirectory =>
  cases renamed
  have originFile := (find_eq_file_iff.1 found).2.1
  have keptOrigin : KeepsDirectories files (files.erase origin) :=
    keepsDirectories_erase (noDirectory_of_file originFile)
  have noDirectoryLeft : (files.erase origin).node? location ≠ some .directory := by
    rw [node?_erase _ _ _ (ne_root (noDirectory_of_file originFile))]
    split
    · simp
    · exact noDirectory
  refine ⟨location, ?_⟩
  exact find_put (locate_eq_ok keptOrigin rfl located) noDirectoryLeft plain _ _ _ _ _

/-! ## Making directories -/

/-- What making one directory does to a file system, making all missing ones on a route does. -/
theorem createDirectoriesFrom_related
    {related : FileSystem → FileSystem → Prop}
    (refl : ∀ files, related files files)
    (trans : ∀ {first second third},
      related first second → related second third → related first third)
    (create : ∀ {files after route},
      files.createDirectory route = .ok after → related files after)
    (files : FileSystem)
    (route : Route)
    (depth : Nat) :
    related files (files.createDirectoriesFrom route depth).1 := by
  have settle :
      ∀ (files : FileSystem) (route : Route),
        related files (files.settleDirectory route (files.createDirectory route)).1 := by
    intro files route
    cases creating : files.createDirectory route with
    | error fault => exact refl files
    | ok after => exact create creating
  induction depth generalizing files route with
  | zero => exact settle files route
  | succ depth ih =>
    rw [createDirectoriesFrom]
    split
    · have above := ih files route.parent
      split
      · next after fault making =>
        rw [making] at above
        exact above
      · next after making =>
        rw [making] at above
        exact trans above (settle after route)
    · exact settle files route

/-! ## Contents -/

/-- Writing at the end of a content appends to it. -/
theorem overwritten_length
    (data content : Octets) :
    overwritten content.length data content = content ++ data := by
  rw [overwritten]
  split
  · next empty => rw [List.isEmpty_iff.1 empty, List.append_nil]
  · simp [resized]

/-- Cutting a content to less than its length keeps its beginning. -/
theorem resized_of_le
    {length : Nat}
    {content : Octets}
    (shorter : length ≤ content.length) :
    resized length content = content.take length := by
  simp [resized, Nat.sub_eq_zero_of_le shorter]

/-- Cutting a content to the length of a beginning leaves that beginning. -/
theorem resized_take
    {front content : Octets}
    {cut : Nat}
    (taken : front = content.take cut) :
    resized front.length content = front := by
  have length : front.length = min cut content.length := by
    rw [taken, List.length_take]
  have notLonger : front.length ≤ content.length := by
    rw [length]
    exact Nat.min_le_right _ _
  rw [resized_of_le notLonger, length, taken, ← List.take_eq_take_min]

end FileSystem

end BuildCapture
