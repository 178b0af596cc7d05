import BuildCapture.Proofs.FileSystem.Ageing

/-!
# File systems that look alike

Two file systems are twins if they have the same directories and the same
files with the same contents.  Identities and stamps may differ, and so may the
contents of one file, which two programs write on their own.  Twins answer
every question about a path alike, and stay twins when the programs rewrite
that file, remove it or move it.
-/

namespace BuildCapture

/-- Two outcomes agree if they are one failure, or both succeed with related results. -/
inductive Agree {ε α β : Type} (related : α → β → Prop) : Except ε α → Except ε β → Prop
  | ok {left : α} {right : β} (same : related left right) : Agree related (.ok left) (.ok right)
  | error (failure : ε) : Agree related (.error failure) (.error failure)

namespace FileSystem

/-! ## Ways -/

/-- Whether a directory or a file stands at a location, if anything does. -/
def isDirectory?
    (files : FileSystem)
    (location : Location) :
    Option Bool :=
  (files.node? location).map fun
    | .directory => true
    | .file _ _ _ _ => false

theorem follow_congr
    {left right : FileSystem}
    (kinds : ∀ location, left.isDirectory? location = right.isDirectory? location)
    (here : Location)
    (steps : List Step) :
    left.follow here steps = right.follow here steps := by
  induction steps generalizing here with
  | nil => rfl
  | cons step rest ih =>
    have kind := kinds here
    unfold isDirectory? at kind
    unfold follow
    cases standing : left.node? here with
    | none =>
      rw [standing, Option.map_none, eq_comm, Option.map_eq_none_iff] at kind
      rw [kind]
    | some node =>
      cases opposite : right.node? here with
      | none =>
        rw [standing, opposite] at kind
        cases kind
      | some other =>
        rw [standing, opposite] at kind
        cases node <;> cases other <;> cases kind
        · cases step with
          | up => exact ih _
          | down name => simp only [ih]
        · rfl

/-- File systems with the same directories and files resolve routes alike. -/
theorem locate_congr
    {left right : FileSystem}
    (start : right.workingDirectory = left.workingDirectory)
    (kinds : ∀ location, left.isDirectory? location = right.isDirectory? location)
    (route : Route) :
    left.locate route = right.locate route := by
  unfold locate
  rw [start]
  simp only [follow_congr kinds]

/-! ## Twins -/

/-- What stands at a place looks alike; the file with one identity may have any content. -/
inductive Alike (own : Nat) : Option Node → Option Node → Prop
  | nothing : Alike own none none
  | directory : Alike own (some .directory) (some .directory)
  | own {stamp otherStamp : Nat} {content otherContent : Octets} {flaw otherFlaw : Option Flaw} :
    Alike own (some (.file own stamp content flaw))
      (some (.file own otherStamp otherContent otherFlaw))
  | file {identity otherIdentity stamp otherStamp : Nat} {content : Octets} {flaw : Option Flaw}
    (foreign : identity ≠ own)
    (otherForeign : otherIdentity ≠ own) :
    Alike own (some (.file identity stamp content flaw))
      (some (.file otherIdentity otherStamp content flaw))

/-- Everything looks alike in two file systems, apart from the content of one file. -/
structure Twins (own : Nat) (left right : FileSystem) : Prop where
  workingDirectory : right.workingDirectory = left.workingDirectory
  nodes : ∀ location, Alike own (left.node? location) (right.node? location)

/-- A file system in which the file with one identity has been rewritten. -/
structure Rewrites (own : Nat) (before after : FileSystem) : Prop where
  workingDirectory : after.workingDirectory = before.workingDirectory
  clock : before.clock ≤ after.clock
  nodes : ∀ location, after.node? location = before.node? location ∨
    ∃ stamp content flaw newStamp newContent,
      before.node? location = some (.file own stamp content flaw) ∧
        after.node? location = some (.file own newStamp newContent flaw) ∧
        before.clock ≤ newStamp

/-- Every place that shows the file with an identity shows this content, without a flaw. -/
def Sole
    (files : FileSystem)
    (own : Nat)
    (content : Octets) :
    Prop :=
  ∀ location stamp other flaw, files.node? location = some (.file own stamp other flaw) →
    other = content ∧ flaw = none

theorem Alike.refl
    (own : Nat)
    (node? : Option Node) :
    Alike own node? node? := by
  cases node? with
  | none => exact .nothing
  | some node =>
    cases node with
    | directory => exact .directory
    | file identity stamp content flaw =>
      by_cases same : identity = own
      · rw [same]
        exact .own
      · exact .file same same

theorem Twins.refl
    (own : Nat)
    (files : FileSystem) :
    files.Twins own files :=
  ⟨rfl, fun _ => .refl own _⟩

/-! ## Rewriting -/

namespace Rewrites

variable
  {own : Nat}
  {before after : FileSystem}

theorem refl
    (own : Nat)
    (files : FileSystem) :
    files.Rewrites own files :=
  ⟨rfl, Nat.le_refl _, fun _ => Or.inl rfl⟩

theorem trans
    {third : FileSystem}
    (first : before.Rewrites own after)
    (second : after.Rewrites own third) :
    before.Rewrites own third where
  workingDirectory := second.workingDirectory.trans first.workingDirectory
  clock := Nat.le_trans first.clock second.clock
  nodes := by
    intro location
    rcases second.nodes location with
      same | ⟨stamp, content, flaw, newStamp, newContent, old, new, late⟩
    · rw [same]
      exact first.nodes location
    · right
      have later := Nat.le_trans first.clock late
      rcases first.nodes location with same | ⟨stamp', content', flaw', _, _, there, between, _⟩
      · exact ⟨stamp, content, flaw, newStamp, newContent, same ▸ old, new, later⟩
      · rw [old] at between
        cases between
        exact ⟨stamp', content', flaw, newStamp, newContent, there, new, later⟩

theorem isDirectory?_eq
    (rewrites : before.Rewrites own after)
    (location : Location) :
    before.isDirectory? location = after.isDirectory? location := by
  unfold isDirectory?
  rcases rewrites.nodes location with same | ⟨_, _, _, _, _, old, new, _⟩
  · rw [same]
  · rw [old, new]
    rfl

theorem locate_eq
    (rewrites : before.Rewrites own after)
    (route : Route) :
    after.locate route = before.locate route :=
  (locate_congr rewrites.workingDirectory rewrites.isDirectory?_eq route).symm

/-- Where the file that was rewritten did not stand, everything is as it was. -/
theorem node?_eq_of_other
    (rewrites : before.Rewrites own after)
    {place : Location}
    (other : ∀ stamp content flaw, before.node? place ≠ some (.file own stamp content flaw)) :
    after.node? place = before.node? place := by
  rcases rewrites.nodes place with same | ⟨stamp, content, flaw, _, _, old, -, -⟩
  · exact same
  · exact absurd old (other stamp content flaw)

/-- A route that does not lead to the file leads to what it led to before. -/
theorem find_eq_of_other
    (rewrites : before.Rewrites own after)
    {route : Route}
    (other : ∀ {place}, before.locate route = .ok place →
      ∀ stamp content flaw, before.node? place ≠ some (.file own stamp content flaw)) :
    after.find route = before.find route := by
  rw [find, find, rewrites.locate_eq route]
  cases located : before.locate route with
  | error fault => rfl
  | ok place => simp only [rewrites.node?_eq_of_other (other located)]

/-- What has an old fingerprint after rewriting is as it was before. -/
theorem find_of_old
    (rewrites : before.Rewrites own after)
    {route : Route}
    {location : Location}
    {node : Node}
    (found : after.find route = .ok (location, node))
    (old : node.fingerprint.stamp < before.clock) :
    before.find route = .ok (location, node) := by
  unfold find at found ⊢
  rw [← rewrites.locate_eq route]
  split at found
  · cases found
  next place _ =>
  rcases rewrites.nodes place with same | ⟨_, _, _, newStamp, _, _, new, late⟩
  · simp only [← same]
    exact found
  · rw [new] at found
    simp only at found
    split at found
    · cases found
    · cases found
      exact absurd old (Nat.not_lt.2 late)

end Rewrites

/-- Editing the file with an identity rewrites it and nothing else. -/
theorem rewrites_edit
    (files : FileSystem)
    (own : Nat)
    (change : Octets → Octets) :
    files.Rewrites own (files.edit own change) where
  workingDirectory := rfl
  clock := Nat.le_succ files.clock
  nodes := by
    intro location
    rw [node?_edit]
    cases standing : files.node? location with
    | none => exact Or.inl rfl
    | some node =>
      cases node with
      | directory => exact Or.inl rfl
      | file identity stamp content flaw =>
        by_cases same : identity = own
        · right
          rw [same, Option.map_some, edited, if_pos rfl]
          exact ⟨stamp, content, flaw, files.clock, change content, rfl, rfl, Nat.le_refl _⟩
        · left
          rw [Option.map_some, edited, if_neg same]

/-- Where the file had one content, it has one content after it was edited. -/
theorem Sole.edit
    {files : FileSystem}
    {own : Nat}
    {content : Octets}
    (sole : files.Sole own content)
    (change : Octets → Octets) :
    (files.edit own change).Sole own (change content) := by
  intro location stamp other flaw there
  rw [node?_edit, Option.map_eq_some_iff] at there
  rcases there with ⟨node, before, shape⟩
  cases node with
  | directory => cases shape
  | file identity oldStamp old oldFlaw =>
    rw [edited] at shape
    split at shape
    · next same =>
      cases shape
      rw [same] at before
      rcases sole _ _ _ _ before with ⟨rfl, sound⟩
      exact ⟨rfl, sound⟩
    · next different =>
      cases shape
      exact absurd rfl different

/-! ## Looking -/

/-- No file is found at the root. -/
theorem ne_root_of_find
    {files : FileSystem}
    {route : Route}
    {location : Location}
    {identity stamp : Nat}
    {content : Octets}
    {flaw : Option Flaw}
    (found : files.find route = .ok (location, .file identity stamp content flaw)) :
    location ≠ [] :=
  ne_root (noDirectory_of_file (find_eq_file_iff.1 found).2.1)

namespace Twins

variable
  {own : Nat}
  {left right : FileSystem}

theorem isDirectory?_eq
    (twins : left.Twins own right)
    (location : Location) :
    left.isDirectory? location = right.isDirectory? location := by
  unfold isDirectory?
  have alike := twins.nodes location
  generalize left.node? location = here at alike
  generalize right.node? location = there at alike
  cases alike <;> rfl

theorem locate_eq
    (twins : left.Twins own right)
    (route : Route) :
    left.locate route = right.locate route :=
  locate_congr twins.workingDirectory twins.isDirectory?_eq route

/-- Twins find alike nodes at the same places. -/
theorem find
    (twins : left.Twins own right)
    (route : Route) :
    Agree (fun here there => here.1 = there.1 ∧ Alike own (some here.2) (some there.2))
      (left.find route) (right.find route) := by
  unfold FileSystem.find
  rw [twins.locate_eq route]
  cases right.locate route with
  | error fault => exact .error fault
  | ok location =>
    have alike := twins.nodes location
    simp only
    generalize left.node? location = here at alike ⊢
    generalize right.node? location = there at alike ⊢
    cases alike with
    | nothing => exact .error FileFault.notFound
    | directory => exact .ok ⟨rfl, .directory⟩
    | own =>
      simp only
      split
      · exact .error FileFault.notDirectory
      · exact .ok ⟨rfl, .own⟩
    | file foreign otherForeign =>
      simp only
      split
      · exact .error FileFault.notDirectory
      · exact .ok ⟨rfl, .file foreign otherForeign⟩

theorem stat
    (twins : left.Twins own right)
    (path : String) :
    Agree (fun _ _ => True) (left.stat path) (right.stat path) := by
  unfold FileSystem.stat
  have found := twins.find (.ofPath path)
  generalize left.find _ = here at found ⊢
  generalize right.find _ = there at found ⊢
  cases found with
  | ok same => exact .ok trivial
  | error fault => exact .error fault

/-- Twins in which that one file has the same content yield the same octets. -/
theorem openSource_eq
    (twins : left.Twins own right)
    {content : Octets}
    (leftSole : left.Sole own content)
    (rightSole : right.Sole own content)
    (path : String) :
    left.openSource path = right.openSource path := by
  unfold FileSystem.openSource
  have found := twins.find (.ofPath path)
  generalize finding : left.find (.ofPath path) = here at found ⊢
  generalize findingToo : right.find (.ofPath path) = there at found ⊢
  cases found with
  | error fault => rfl
  | @ok here there same =>
    rcases here with ⟨location, node⟩
    rcases there with ⟨other, otherNode⟩
    rcases same with ⟨-, alike⟩
    cases alike with
    | directory => rfl
    | own =>
      rcases leftSole _ _ _ _ (find_eq_file_iff.1 finding).2.1 with ⟨rfl, rfl⟩
      rcases rightSole _ _ _ _ (find_eq_file_iff.1 findingToo).2.1 with ⟨rfl, rfl⟩
      rfl
    | @file _ _ _ _ content flaw foreign otherForeign => cases flaw <;> rfl

/-! ## Changing -/

/-- Twins stay twins when that one file is rewritten in each of them. -/
theorem rewrite
    (twins : left.Twins own right)
    {leftAfter rightAfter : FileSystem}
    (leftRewrites : left.Rewrites own leftAfter)
    (rightRewrites : right.Rewrites own rightAfter) :
    leftAfter.Twins own rightAfter where
  workingDirectory := by
    rw [rightRewrites.workingDirectory, twins.workingDirectory, leftRewrites.workingDirectory]
  nodes := by
    intro location
    have alike := twins.nodes location
    rcases leftRewrites.nodes location with same | ⟨_, _, _, _, _, old, new, -⟩
    · rcases rightRewrites.nodes location with sameToo | ⟨_, _, _, _, _, oldToo, newToo, -⟩
      · rw [same, sameToo]
        exact alike
      · rw [oldToo] at alike
        rw [same, newToo]
        generalize left.node? location = here at alike
        cases alike with
        | own => exact .own
        | file _ otherForeign => exact absurd rfl otherForeign
    · rcases rightRewrites.nodes location with sameToo | ⟨_, _, _, _, _, oldToo, newToo, -⟩
      · rw [old] at alike
        rw [new, sameToo]
        generalize right.node? location = there at alike
        cases alike with
        | own => exact .own
        | file foreign _ => exact absurd rfl foreign
      · rw [new, newToo]
        exact .own

/-- Twins stay twins when a file is removed at the same place of each. -/
theorem erase
    (twins : left.Twins own right)
    {location : Location}
    (below : location ≠ []) :
    (left.erase location).Twins own (right.erase location) where
  workingDirectory := twins.workingDirectory
  nodes := by
    intro other
    rw [node?_erase _ _ _ below, node?_erase _ _ _ below]
    split
    · exact .nothing
    · exact twins.nodes other

/-- Twins stay twins when nodes that look alike are put at the same place of each. -/
theorem put
    (twins : left.Twins own right)
    {location : Location}
    (below : location ≠ [])
    {node otherNode : Node}
    (alike : Alike own (some node) (some otherNode)) :
    (left.put location node).Twins own (right.put location otherNode) where
  workingDirectory := twins.workingDirectory
  nodes := by
    intro other
    rw [node?_put _ _ _ _ below, node?_put _ _ _ _ below]
    split
    · exact alike
    · exact twins.nodes other

/-- Twins stay twins when a new file is placed at the same place of each. -/
theorem placeFile
    (twins : left.Twins own right)
    {location : Location}
    (below : location ≠ [])
    (foreign : left.clock ≠ own)
    (otherForeign : right.clock ≠ own)
    (content : Octets) :
    (left.placeFile location content).Twins own (right.placeFile location content) := by
  have alike :
      Alike own (some (.file left.clock left.clock content))
        (some (.file right.clock right.clock content)) :=
    .file foreign otherForeign
  exact ⟨twins.workingDirectory, (twins.put below alike).nodes⟩

theorem removeFile
    (twins : left.Twins own right)
    (route : Route) :
    Agree (Twins own) (left.removeFile route) (right.removeFile route) := by
  unfold FileSystem.removeFile
  have found := twins.find route
  generalize finding : left.find route = here at found ⊢
  generalize right.find route = there at found ⊢
  cases found with
  | error fault => exact .error fault
  | @ok here there same =>
    rcases here with ⟨location, node⟩
    rcases there with ⟨other, otherNode⟩
    rcases same with ⟨rfl, alike⟩
    cases alike with
    | directory => exact .error FileFault.isDirectory
    | own => exact .ok (twins.erase (ne_root_of_find finding))
    | file foreign otherForeign => exact .ok (twins.erase (ne_root_of_find finding))

/-- Twins stay twins when a file is moved between the same places of each. -/
theorem move
    (twins : left.Twins own right)
    {origin location : Location}
    (below : origin ≠ [])
    {node otherNode : Node}
    (alike : Alike own (some node) (some otherNode)) :
    Agree (Twins own)
      (match left.node? location with
        | some .directory => Except.error FileFault.isDirectory
        | _ => .ok ((left.erase origin).put location node))
      (match right.node? location with
        | some .directory => Except.error FileFault.isDirectory
        | _ => .ok ((right.erase origin).put location otherNode)) := by
  have there := twins.nodes location
  generalize standing : left.node? location = here at there ⊢
  generalize right.node? location = opposite at there ⊢
  have belowToo : here ≠ some .directory → location ≠ [] := by
    rintro noDirectory rfl
    rw [node?_root] at standing
    exact noDirectory standing.symm
  cases there with
  | directory => exact .error FileFault.isDirectory
  | nothing => exact .ok ((twins.erase below).put (belowToo (by simp)) alike)
  | own => exact .ok ((twins.erase below).put (belowToo (by simp)) alike)
  | file foreign otherForeign =>
    exact .ok ((twins.erase below).put (belowToo (by simp)) alike)

theorem rename
    (twins : left.Twins own right)
    (source target : Route) :
    Agree (Twins own) (left.rename source target) (right.rename source target) := by
  unfold FileSystem.rename
  have found := twins.find source
  rw [twins.locate_eq target]
  generalize finding : left.find source = here at found ⊢
  generalize right.find source = there at found ⊢
  generalize right.locate target = located
  cases found with
  | error fault => exact .error fault
  | @ok here there same =>
    rcases here with ⟨origin, node⟩
    rcases there with ⟨other, otherNode⟩
    rcases same with ⟨rfl, alike⟩
    cases located with
    | error fault => exact .error fault
    | ok place =>
      cases alike with
      | directory => exact .error FileFault.isDirectory
      | own =>
        simp only
        split
        · exact .error FileFault.notDirectory
        · exact twins.move (ne_root_of_find finding) .own
      | file foreign otherForeign =>
        simp only
        split
        · exact .error FileFault.notDirectory
        · exact twins.move (ne_root_of_find finding) (.file foreign otherForeign)

end Twins

end FileSystem

end BuildCapture
