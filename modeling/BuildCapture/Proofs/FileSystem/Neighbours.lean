import BuildCapture.Proofs.FileSystem.Directories
import BuildCapture.Proofs.FileSystem.Twins

/-!
# Files beside each other

The way to a file beside the end of a route goes through the same directories as
the route and ends somewhere else.  So whatever happens to that neighbour, the
route still leads to what it led to before.  This is what lets a program prepare
a file beside its final path without anybody at the final path noticing, provided
that the file it prepares is not shown at any other place.
-/

namespace BuildCapture.FileSystem

/-! ## Ways -/

/-- A way goes on from a directory, to a name that a file can have. -/
theorem follow_concat_eq_ok_iff
    {files : FileSystem}
    {here location : Location}
    {steps : List Step}
    {last : Step} :
    files.follow here (steps ++ [last]) = .ok location ↔
      ∃ above, files.follow here steps = .ok above ∧ files.node? above = some .directory ∧
        last.IsShort ∧ last.leadsTo above = location := by
  induction steps generalizing here with
  | nil =>
    constructor
    · intro followed
      rcases follow_cons_eq_ok followed with ⟨there, short, ended⟩
      exact ⟨here, rfl, there, short, Except.ok.inj ended⟩
    · rintro ⟨above, followed, there, short, rfl⟩
      cases followed
      exact follow_cons there short []
  | cons step rest ih =>
    constructor
    · intro followed
      rcases follow_cons_eq_ok followed with ⟨there, short, others⟩
      rcases ih.1 others with ⟨above, passed, ended⟩
      exact ⟨above, (follow_cons there short rest).trans passed, ended⟩
    · rintro ⟨above, followed, ended⟩
      rcases follow_cons_eq_ok followed with ⟨there, short, others⟩
      rw [List.cons_append, follow_cons there short]
      exact ih.2 ⟨above, others, ended⟩

theorem follow_of_locate
    {files : FileSystem}
    {route : Route}
    {location : Location}
    (located : files.locate route = .ok location) :
    files.follow (files.startOf route) route.steps = .ok location := by
  rw [locate] at located
  split at located
  · cases located
  split at located
  · cases located
  split at located
  · cases located
  · exact located

/-- The last name of a route gets the suffix, or the suffix is a name of its own. -/
theorem steps_beside
    (route : Route)
    (suffix : String) :
    (∃ front name, route.steps = front ++ [.down name] ∧
        (route.beside suffix).steps = front ++ [.down (name ++ suffix)]) ∨
      (route.beside suffix).steps = route.steps ++ [.down suffix] := by
  simp only [Route.beside]
  split
  · next name ended =>
    exact Or.inl ⟨route.steps.dropLast, name, (List.dropLast_append_getLast? _ ended).symm, rfl⟩
  · exact Or.inr rfl

variable
  {files before after : FileSystem}
  {route : Route}
  {suffix : String}
  {location : Location}

/-- Where the way to a neighbour leads somewhere, the route leads somewhere else. -/
theorem follow_of_locate_beside
    (nonempty : suffix ≠ "")
    (located : files.locate (route.beside suffix) = .ok location) :
    ∃ place, files.follow (files.startOf route) route.steps = .ok place ∧ place ≠ location := by
  have followed : files.follow (files.startOf route) (route.beside suffix).steps = .ok location :=
    follow_of_locate located
  rcases steps_beside route suffix with ⟨front, name, ended, shape⟩ | shape
  · rw [shape] at followed
    rcases follow_concat_eq_ok_iff.1 followed with ⟨above, passed, there, short, rfl⟩
    have shorter : (Step.down name).IsShort := by
      have longer : (name ++ suffix).utf8ByteSize ≤ maximalName := short
      rw [String.utf8ByteSize_append] at longer
      exact Nat.le_trans (Nat.le_add_right _ _) longer
    refine ⟨above ++ [name], ?_, ?_⟩
    · rw [ended]
      exact follow_concat_eq_ok_iff.2 ⟨above, passed, there, shorter, rfl⟩
    · intro same
      have names : name ++ "" = name ++ suffix := by
        rw [String.append_empty]
        exact (List.cons.inj (List.append_inj_right' same rfl)).1
      exact nonempty ((String.append_right_inj name).1 names).symm
  · rw [shape] at followed
    rcases follow_concat_eq_ok_iff.1 followed with ⟨above, passed, there, short, rfl⟩
    exact ⟨above, passed, fun same => List.cons_ne_nil _ _ (List.self_eq_append_right.1 same)⟩

/-! ## Finding -/

theorem find_of_nothing
    (located : files.locate route = .ok location)
    (nothing : files.node? location = none) :
    files.find route = .error .notFound := by
  simp only [find, located, nothing]

/-- What was found is found where everything that stood somewhere still stands there. -/
theorem find_of_extended
    (extended : ∀ {location node}, before.node? location = some node →
      after.node? location = some node)
    (start : after.workingDirectory = before.workingDirectory)
    {found : Location × Node}
    (finding : before.find route = .ok found) :
    after.find route = .ok found := by
  rw [find] at finding
  split at finding
  · cases finding
  next location located =>
  have locatedAfter := locate_eq_ok (fun _ there => extended there) start located
  rw [find, locatedAfter]
  cases there : before.node? location with
  | none =>
    rw [there] at finding
    cases finding
  | some node =>
    rw [there] at finding
    simp only [extended there]
    exact finding

/-- What is found depends on the directories on the way and on what stands at its end. -/
theorem find_eq_of_follow
    (kept : KeepsDirectories before after)
    (start : after.workingDirectory = before.workingDirectory)
    {place : Location}
    (followed : before.follow (before.startOf route) route.steps = .ok place)
    (same : after.node? place = before.node? place) :
    after.find route = before.find route := by
  have followedAfter : after.follow (before.startOf route) route.steps = .ok place :=
    follow_eq_ok kept followed
  have located : after.locate route = before.locate route := by
    unfold startOf at followed followedAfter
    rw [locate, locate, start, followed, followedAfter]
  rw [find, find, located]
  cases leads : before.locate route with
  | error fault => rfl
  | ok other =>
    have here : other = place :=
      Except.ok.inj ((follow_of_locate leads).symm.trans followed)
    simp only [here, same]

/-- A change at the end of the way to a neighbour can not be seen along the route. -/
theorem find_eq_of_beside
    (nonempty : suffix ≠ "")
    (located : before.locate (route.beside suffix) = .ok location)
    (kept : KeepsDirectories before after)
    (start : after.workingDirectory = before.workingDirectory)
    (others : ∀ place, place ≠ location → after.node? place = before.node? place) :
    after.find route = before.find route := by
  rcases follow_of_locate_beside nonempty located with ⟨place, followed, elsewhere⟩
  exact find_eq_of_follow kept start followed (others place elsewhere)

/-! ## Files that stand at one place -/

/-- No place but one shows the file with an identity. -/
def StandsOnlyAt
    (files : FileSystem)
    (identity : Nat)
    (location : Location) :
    Prop :=
  ∀ place stamp content flaw, files.node? place = some (.file identity stamp content flaw) →
    place = location

/--
A file without a flaw at the end of a route is still that file, with the same
content, and stands only there.
-/
structure Spares
    (route : Route)
    (before after : FileSystem) : Prop where
  leaves : Leaves route before after
  alone : ∀ {location identity stamp content place},
    before.find route = .ok (location, .file identity stamp content) →
      after.locate route = .ok place → after.StandsOnlyAt identity place

/-- A file that is made anew stands only where it was made. -/
theorem standsOnlyAt_placeFile
    (sane : files.Sane)
    (below : location ≠ [])
    (content : Octets) :
    (files.placeFile location content).StandsOnlyAt files.clock location := by
  intro place stamp other flaw there
  have either :
      (files.put location (.file files.clock files.clock content)).node? place =
        some (.file files.clock stamp other flaw) := there
  rw [node?_put _ _ _ _ below] at either
  split at either
  · next same => exact same
  · exact absurd (sane.numbered ⟨place, either⟩) (Nat.lt_irrefl _)

namespace Rewrites

variable
  {own : Nat}

theorem keepsDirectories
    (rewrites : before.Rewrites own after) :
    KeepsDirectories before after := by
  intro place there
  rcases rewrites.nodes place with same | ⟨_, _, _, _, _, old, -, -⟩
  · exact same.trans there
  · rw [there] at old
    cases old

/-- Only the place that shows a file shows that it is rewritten. -/
theorem node?_eq
    (rewrites : before.Rewrites own after)
    (alone : before.StandsOnlyAt own location)
    {place : Location}
    (elsewhere : place ≠ location) :
    after.node? place = before.node? place :=
  rewrites.node?_eq_of_other fun stamp content flaw there =>
    elsewhere (alone place stamp content flaw there)

theorem standsOnlyAt
    (rewrites : before.Rewrites own after)
    (alone : before.StandsOnlyAt own location) :
    after.StandsOnlyAt own location := by
  intro place stamp content flaw there
  rcases rewrites.nodes place with same | ⟨_, _, _, _, _, old, -, -⟩
  · exact alone _ _ _ _ (same.symm.trans there)
  · exact alone _ _ _ _ old

/-- A file that is rewritten is found where it was. -/
theorem find_own
    (rewrites : before.Rewrites own after)
    {stamp : Nat}
    {content : Octets}
    {flaw : Option Flaw}
    (found : before.find route = .ok (location, .file own stamp content flaw)) :
    ∃ newStamp newContent,
      after.find route = .ok (location, .file own newStamp newContent flaw) := by
  have there := (find_eq_file_iff.1 found).2.1
  have still : ∃ newStamp newContent,
      after.node? location = some (.file own newStamp newContent flaw) := by
    rcases rewrites.nodes location with same | ⟨_, _, _, newStamp, newContent, old, new, -⟩
    · exact ⟨stamp, content, same.trans there⟩
    · rw [there] at old
      cases old
      exact ⟨newStamp, newContent, new⟩
  rcases still with ⟨newStamp, newContent, new⟩
  exact ⟨newStamp, newContent,
    find_of_kept rewrites.keepsDirectories rewrites.workingDirectory found new⟩

/-- What is found along a route does not depend on what is written beside its end. -/
theorem find_eq
    (rewrites : before.Rewrites own after)
    (nonempty : suffix ≠ "")
    (located : before.locate (route.beside suffix) = .ok location)
    (alone : before.StandsOnlyAt own location) :
    after.find route = before.find route :=
  find_eq_of_beside nonempty located rewrites.keepsDirectories rewrites.workingDirectory
    fun _ elsewhere => rewrites.node?_eq alone elsewhere

end Rewrites

/-! ## Placing, removing and moving -/

theorem keepsDirectories_placeFile
    (nothing : files.node? location = none)
    (content : Octets) :
    KeepsDirectories files (files.placeFile location content) :=
  keepsDirectories_put (noDirectory_of_nothing nothing) _

/-- What is found along a route does not change when a neighbour is made. -/
theorem find_placeFile_beside
    (nonempty : suffix ≠ "")
    (located : files.locate (route.beside suffix) = .ok location)
    (nothing : files.node? location = none)
    (content : Octets) :
    (files.placeFile location content).find route = files.find route := by
  apply find_eq_of_beside nonempty located (keepsDirectories_placeFile nothing content) rfl
  intro place elsewhere
  have still :=
    node?_put files location place (.file files.clock files.clock content)
      (ne_root_of_nothing nothing)
  rw [if_neg elsewhere] at still
  exact still

/-- Where a file was erased nothing is found. -/
theorem find_erase
    {identity stamp : Nat}
    {content : Octets}
    {flaw : Option Flaw}
    (found : files.find route = .ok (location, .file identity stamp content flaw)) :
    (files.erase location).find route = .error .notFound := by
  rcases find_eq_file_iff.1 found with ⟨located, there, -⟩
  have kept : KeepsDirectories files (files.erase location) :=
    keepsDirectories_erase (noDirectory_of_file there)
  apply find_of_nothing (locate_eq_ok kept rfl located)
  rw [node?_erase _ _ _ (ne_root_of_find found), if_pos rfl]

/-- What is found along a route does not change when its neighbour is erased. -/
theorem find_erase_beside
    (nonempty : suffix ≠ "")
    {identity stamp : Nat}
    {content : Octets}
    {flaw : Option Flaw}
    (found :
      files.find (route.beside suffix) = .ok (location, .file identity stamp content flaw)) :
    (files.erase location).find route = files.find route := by
  rcases find_eq_file_iff.1 found with ⟨located, there, -⟩
  have kept : KeepsDirectories files (files.erase location) :=
    keepsDirectories_erase (noDirectory_of_file there)
  apply find_eq_of_beside nonempty located kept rfl
  intro place elsewhere
  rw [node?_erase _ _ _ (ne_root_of_find found), if_neg elsewhere]

/-- A neighbour that was moved to the end of the route is not found beside it any more. -/
theorem find_beside_of_rename
    (nonempty : suffix ≠ "")
    {identity stamp : Nat}
    {content : Octets}
    {flaw : Option Flaw}
    (found :
      files.find (route.beside suffix) = .ok (location, .file identity stamp content flaw))
    (renamed : files.rename (route.beside suffix) route = .ok after) :
    after.find (route.beside suffix) = .error .notFound := by
  rcases find_eq_file_iff.1 found with ⟨locatedBeside, standing, -⟩
  rcases follow_of_locate_beside nonempty locatedBeside with ⟨place, followed, elsewhere⟩
  rw [rename, found] at renamed
  split at renamed
  · cases renamed
  · cases renamed
  · cases renamed
  next origin named _ _ target same located =>
  cases same
  split at renamed
  · cases renamed
  split at renamed
  · cases renamed
  next noDirectory =>
  cases renamed
  have here : target = place := Except.ok.inj ((follow_of_locate located).symm.trans followed)
  subst here
  have belowOrigin := ne_root_of_find found
  have gone : (files.erase location).node? target = files.node? target := by
    rw [node?_erase _ _ _ belowOrigin, if_neg elsewhere]
  have noDirectoryLeft : (files.erase location).node? target ≠ some .directory := by
    rw [gone]
    exact noDirectory
  have keptOrigin : KeepsDirectories files (files.erase location) :=
    keepsDirectories_erase (noDirectory_of_file standing)
  apply find_of_nothing
    (locate_eq_ok (keepsDirectories_put noDirectoryLeft _) rfl
      (locate_eq_ok keptOrigin rfl locatedBeside))
  rw [node?_put _ _ _ _ (ne_root noDirectory), if_neg elsewhere.symm, node?_erase _ _ _ belowOrigin, if_pos rfl]

end BuildCapture.FileSystem
