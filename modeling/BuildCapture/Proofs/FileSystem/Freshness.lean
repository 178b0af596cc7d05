import BuildCapture.Proofs.FileSystem.Directories
import Mathlib.Data.List.Induction
import Mathlib.Data.List.Nodup
import Mathlib.Data.List.Perm.Subperm

/-!
# Fresh directories

A directory with a fresh name is made where nothing stands.  As many names are
tried as there are nodes, and one; they are all different, so one of them is
free.

In a rooted file system everything stands in a directory, so there is nothing
below a place where nothing stands.  File systems stay rooted while directories
are made on the way to another; and once a route leads to a directory, making
the directories on it changes nothing.
-/

namespace BuildCapture.FileSystem

/-! ## Fresh names -/

/-- What is below a location is not the root. -/
theorem below_ne_root
    (location : Location)
    (name : String)
    (rest : List String) :
    location ++ name :: rest ≠ [] :=
  List.append_ne_nil_of_right_ne_nil location (List.cons_ne_nil name rest)

theorem mem_locations_of_node?
    {files : FileSystem}
    {location : Location}
    (below : location ≠ [])
    (there : files.node? location ≠ none) :
    location ∈ files.nodes.map Prod.fst := by
  rcases Option.ne_none_iff_exists'.1 there with ⟨node, found⟩
  rw [node?, if_neg below] at found
  rcases List.lookup_eq_some_iff.1 found with ⟨before, behind, nodes, -⟩
  rw [nodes, List.map_append, List.map_cons]
  exact List.mem_append_right _ List.mem_cons_self

/-- The names that are tried for a fresh directory are all different. -/
theorem numbered_injective
    (start : String)
    (offset : Nat) :
    Function.Injective fun index => start ++ toString (offset + index) := by
  intro left right same
  have numerals : Nat.repr (offset + left) = Nat.repr (offset + right) :=
    (String.append_right_inj start).1 same
  have digits : Nat.toDigits 10 (offset + left) = Nat.toDigits 10 (offset + right) := by
    rw [← Nat.toList_repr, ← Nat.toList_repr, numerals]
  have numbers := congrArg (Nat.ofDigitChars 10 · 0) digits
  simp only [Nat.ofDigitChars_ten_toDigits] at numbers
  exact Nat.add_left_cancel numbers

/-- Nothing stands where a directory with a fresh name is made. -/
theorem node?_freshName
    (files : FileSystem)
    (parent : Location)
    (start : String) :
    files.node? (parent ++ [files.freshName parent start]) = none := by
  rw [freshName]
  cases searching : ((List.range (files.nodes.length + 1)).map fun index =>
      start ++ toString (files.clock + index)).find? fun name =>
        (files.node? (parent ++ [name])).isNone with
  | some name =>
    have free := List.find?_some searching
    exact Option.isNone_iff_eq_none.1 free
  | none =>
    exfalso
    rw [List.find?_eq_none] at searching
    -- all of the names are taken, but there are more of them than nodes
    let place (index : Nat) : Location := parent ++ [start ++ toString (files.clock + index)]
    have distinct : ((List.range (files.nodes.length + 1)).map place).Nodup := by
      refine List.nodup_range.map ?_
      intro left right same
      exact numbered_injective start files.clock
        (List.cons.inj (List.append_cancel_left same)).1
    have taken : (List.range (files.nodes.length + 1)).map place ⊆ files.nodes.map Prod.fst := by
      intro location member
      rcases List.mem_map.1 member with ⟨index, inside, rfl⟩
      have here := searching _ (List.mem_map_of_mem inside)
      refine mem_locations_of_node? (below_ne_root _ _ _) ?_
      exact fun nothing => here (Option.isNone_iff_eq_none.2 nothing)
    have fewer := (distinct.subperm taken).length_le
    rw [List.length_map, List.length_map, List.length_range] at fewer
    omega

/-- A fresh directory stands where nothing stood, and nothing else changes. -/
theorem node?_createFresh
    (files : FileSystem)
    (parent : Location)
    (start : String)
    (location : Location) :
    (files.createFresh parent start).2.node? location =
      if location = (files.createFresh parent start).1 then some .directory
      else files.node? location := by
  have below := below_ne_root parent (files.freshName parent start) []
  exact node?_put files (parent ++ [files.freshName parent start]) location .directory below

/-! ## Rooted file systems -/

/-- Everything stands in a directory, and relative paths start from one. -/
structure Rooted (files : FileSystem) : Prop where
  start : files.node? files.workingDirectory = some .directory
  above : ∀ location, files.node? location ≠ none →
    files.node? location.dropLast = some .directory

namespace Rooted

variable
    {files : FileSystem}
    (rooted : files.Rooted)

include rooted

/-- There is nothing below a place where nothing stands. -/
theorem nothing_below
    {location : Location}
    (nothing : files.node? location = none)
    {other : Location}
    (inside : location <+: other) :
    files.node? other = none := by
  rcases inside with ⟨rest, rfl⟩
  induction rest using List.reverseRecOn with
  | nil =>
    rw [List.append_nil]
    exact nothing
  | append_singleton front last ih =>
    by_contra there
    have above := rooted.above _ there
    rw [← List.append_assoc, List.dropLast_concat, ih] at above
    cases above

/-- Files stay rooted when a directory is put into another. -/
theorem put_directory
    {location : Location}
    (below : location ≠ [])
    (parent : files.node? location.dropLast = some .directory) :
    (files.put location .directory).Rooted := by
  have directory : ∀ other, files.node? other = some .directory →
      (files.put location .directory).node? other = some .directory := by
    intro other there
    rw [node?_put _ _ _ _ below]
    split
    · rfl
    · exact there
  constructor
  case start => exact directory _ rooted.start
  case above =>
    intro other there
    apply directory
    rw [node?_put _ _ _ _ below] at there
    split at there
    · next here =>
      rw [here]
      exact parent
    · exact rooted.above other there

end Rooted

/-! ## Making directories -/

/-- Where a way ends: at its start, or just below or above a directory. -/
theorem end_of_follow
    {files : FileSystem}
    {here location : Location}
    {steps : List Step}
    (followed : files.follow here steps = .ok location) :
    location = here ∨
      ∃ above, files.node? above = some .directory ∧
        (location = above.dropLast ∨ ∃ name, location = above ++ [name]) := by
  induction steps generalizing here with
  | nil => exact Or.inl (Except.ok.inj followed).symm
  | cons step rest ih =>
    rcases follow_cons_eq_ok followed with ⟨there, -, later⟩
    rcases ih later with ended | further
    · refine Or.inr ⟨here, there, ?_⟩
      cases step with
      | up => exact Or.inl ended
      | down name => exact Or.inr ⟨name, ended⟩
    · exact Or.inr further

theorem Rooted.startOf
    {files : FileSystem}
    (rooted : files.Rooted)
    (route : Route) :
    files.node? (files.startOf route) = some .directory := by
  rw [FileSystem.startOf]
  split
  · exact node?_root files
  · exact rooted.start

/-- Where a route leads to nothing, a directory can be put. -/
theorem Rooted.parent_of_locate
    {files : FileSystem}
    (rooted : files.Rooted)
    {route : Route}
    {location : Location}
    (located : files.locate route = .ok location)
    (nothing : files.node? location = none) :
    files.node? location.dropLast = some .directory := by
  have followed : files.follow (files.startOf route) route.steps = .ok location := by
    rw [locate] at located
    split at located
    · cases located
    split at located
    · cases located
    split at located
    · cases located
    · exact located
  rcases end_of_follow followed with atStart | ⟨above, there, upwards | ⟨name, downwards⟩⟩
  · rw [atStart, rooted.startOf route] at nothing
    cases nothing
  · have stands : files.node? above ≠ none := by
      rw [there]
      exact Option.some_ne_none _
    have directory := rooted.above above stands
    rw [upwards, directory] at nothing
    cases nothing
  · rw [downwards, List.dropLast_concat]
    exact there

/-- File systems stay rooted while directories are made. -/
theorem Rooted.createDirectories
    {files : FileSystem}
    (rooted : files.Rooted)
    (route : Route) :
    (files.createDirectories route).1.Rooted := by
  refine @createDirectoriesFrom_related (fun before after => before.Rooted → after.Rooted)
    (fun _ => id) (fun left right => right ∘ left) ?_ files route route.steps.length rooted
  intro before after other creating rootedBefore
  rcases createDirectory_eq_ok creating with ⟨location, located, nothing, rfl⟩
  exact rootedBefore.put_directory (ne_root_of_nothing nothing)
    (rootedBefore.parent_of_locate located nothing)

/-- Where a route leads to a directory, there are no directories to be made. -/
theorem createDirectories_of_leadsToDirectory
    {files : FileSystem}
    {route : Route}
    (leads : files.leadsToDirectory route = true) :
    files.createDirectories route = (files, .ok ()) := by
  rcases leadsToDirectory_iff.1 leads with ⟨location, located, there⟩
  have refused : files.createDirectory route = .error .exists := by
    rw [createDirectory, located]
    simp only [there]
  have settled : files.settleDirectory route (.error .exists) = (files, .ok ()) := by
    rw [settleDirectory, if_pos leads]
  rw [createDirectories]
  cases route.steps.length with
  | zero => rw [createDirectoriesFrom, refused, settled]
  | succ depth =>
    rw [createDirectoriesFrom, refused]
    exact settled

/-- Nothing is different but that directories stand where nothing stood. -/
def AddsDirectories (before after : FileSystem) : Prop :=
  ∀ location, after.node? location = before.node? location ∨
    before.node? location = none ∧ after.node? location = some .directory

theorem AddsDirectories.refl
    (files : FileSystem) :
    AddsDirectories files files :=
  fun _ => Or.inl rfl

theorem AddsDirectories.trans
    {first second third : FileSystem}
    (left : AddsDirectories first second)
    (right : AddsDirectories second third) :
    AddsDirectories first third := by
  intro location
  rcases right location with same | ⟨nothing, added⟩
  · rw [same]
    exact left location
  · rcases left location with same | ⟨-, there⟩
    · rw [same] at nothing
      exact Or.inr ⟨nothing, added⟩
    · rw [nothing] at there
      cases there

/-- Making directories adds some and does nothing else. -/
theorem addsDirectories_createDirectories
    (files : FileSystem)
    (route : Route) :
    AddsDirectories files (files.createDirectories route).1 := by
  refine @createDirectoriesFrom_related AddsDirectories AddsDirectories.refl
    AddsDirectories.trans ?_ files route route.steps.length
  intro before after other creating location
  rcases createDirectory_eq_ok creating with ⟨made, -, nothing, rfl⟩
  rw [node?_put _ _ _ _ (ne_root_of_nothing nothing)]
  split
  · next here => exact Or.inr ⟨here ▸ nothing, rfl⟩
  · exact Or.inl rfl

end BuildCapture.FileSystem
