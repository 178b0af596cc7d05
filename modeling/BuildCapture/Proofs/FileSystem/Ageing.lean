import BuildCapture.Proofs.FileSystem

/-!
# How file systems age

Every change of a content takes the present time of the clock as its stamp and
moves the clock on.  A stamp from before some time therefore still belongs to
the content it was given to, however the file system changed since.  This is
what makes it sound to trust a fingerprint that was taken earlier.
-/

namespace BuildCapture.FileSystem

/-! ## Files and their stamps -/

/-- A file with this identity, stamp, content and flaw stands somewhere. -/
def HasFile
    (files : FileSystem)
    (identity stamp : Nat)
    (content : Octets)
    (flaw : Option Flaw) :
    Prop :=
  ∃ location, files.node? location = some (.file identity stamp content flaw)

/--
Stamps and identities are in the past, stamps are never zero, and all places
that show one file agree about it.
-/
structure Sane (files : FileSystem) : Prop where
  started : 0 < files.clock
  stamped : ∀ {identity stamp content flaw}, files.HasFile identity stamp content flaw →
    0 < stamp ∧ stamp < files.clock
  numbered : ∀ {identity stamp content flaw}, files.HasFile identity stamp content flaw →
    identity < files.clock
  single : ∀ {identity stamp content flaw otherStamp otherContent otherFlaw},
    files.HasFile identity stamp content flaw →
      files.HasFile identity otherStamp otherContent otherFlaw →
        stamp = otherStamp ∧ content = otherContent ∧ flaw = otherFlaw

/--
Whatever carries a stamp from before has had it, with the same content and flaw,
all along.  This takes a clock that is finer than the changes: within one tick of a
coarser one, a file rewritten in place at the same length keeps its fingerprint.
-/
structure Ages (before after : FileSystem) : Prop where
  clock : before.clock ≤ after.clock
  settled : ∀ {identity stamp content flaw}, after.HasFile identity stamp content flaw →
    stamp < before.clock → before.HasFile identity stamp content flaw

/-- A sane file system ages into a sane one. -/
def Evolves (before after : FileSystem) : Prop :=
  before.Sane → after.Sane ∧ before.Ages after

/-- A file without a flaw at the end of a route is still that file, with the same content. -/
def Leaves
    (route : Route)
    (before after : FileSystem) :
    Prop :=
  ∀ {location identity stamp content},
    before.find route = .ok (location, .file identity stamp content) →
      ∃ newLocation newStamp, after.find route = .ok (newLocation, .file identity newStamp content)

theorem Ages.refl
    (files : FileSystem) :
    files.Ages files :=
  ⟨Nat.le_refl _, fun there _ => there⟩

theorem Ages.trans
    {first second third : FileSystem}
    (left : first.Ages second)
    (right : second.Ages third) :
    first.Ages third where
  clock := Nat.le_trans left.clock right.clock
  settled there old := left.settled (right.settled there (Nat.lt_of_lt_of_le old left.clock)) old

theorem Evolves.refl
    (files : FileSystem) :
    files.Evolves files :=
  fun sane => ⟨sane, .refl files⟩

theorem Evolves.trans
    {first second third : FileSystem}
    (left : first.Evolves second)
    (right : second.Evolves third) :
    first.Evolves third := by
  intro sane
  rcases left sane with ⟨saneSecond, agesLeft⟩
  rcases right saneSecond with ⟨saneThird, agesRight⟩
  exact ⟨saneThird, agesLeft.trans agesRight⟩

/-- What is found as a file is a file. -/
theorem hasFile_of_find
    {files : FileSystem}
    {route : Route}
    {location : Location}
    {identity stamp : Nat}
    {content : Octets}
    {flaw : Option Flaw}
    (found : files.find route = .ok (location, .file identity stamp content flaw)) :
    files.HasFile identity stamp content flaw :=
  ⟨location, (find_eq_file_iff.1 found).2.1⟩

/-! ## Tables of nodes -/

theorem mem_nodes_of_node?
    {files : FileSystem}
    {location : Location}
    {identity stamp : Nat}
    {content : Octets}
    {flaw : Option Flaw}
    (there : files.node? location = some (.file identity stamp content flaw)) :
    (location, .file identity stamp content flaw) ∈ files.nodes := by
  rw [node?] at there
  split at there
  · cases there
  rcases List.lookup_eq_some_iff.1 there with ⟨before, after, nodes, -⟩
  rw [nodes]
  exact List.mem_append_right before List.mem_cons_self

/-- Whether the numbers of a file are in the past, and another node shows it alike. -/
def isSaneBeside
    (clock : Nat) : Node → Node → Bool
  | .file identity stamp content flaw, .file other otherStamp otherContent otherFlaw =>
    0 < stamp && stamp < clock && identity < clock &&
      (identity != other ||
        stamp == otherStamp && (content == otherContent && flaw == otherFlaw))
  | _, _ => true

/-- A file system is sane if its table says so. -/
theorem sane_of_nodes
    {files : FileSystem}
    (started : 0 < files.clock)
    (nodes : ∀ entry ∈ files.nodes, ∀ other ∈ files.nodes,
      isSaneBeside files.clock entry.2 other.2 = true) :
    files.Sane := by
  have beside :
      ∀ {identity stamp content flaw otherStamp otherContent otherFlaw},
        files.HasFile identity stamp content flaw →
          files.HasFile identity otherStamp otherContent otherFlaw →
            ((0 < stamp ∧ stamp < files.clock) ∧ identity < files.clock) ∧
              stamp = otherStamp ∧ content = otherContent ∧ flaw = otherFlaw := by
    rintro identity stamp content flaw otherStamp otherContent otherFlaw
      ⟨location, here⟩ ⟨place, there⟩
    simpa [isSaneBeside] using nodes _ (mem_nodes_of_node? here) _ (mem_nodes_of_node? there)
  constructor
  case started => exact started
  case stamped => exact fun there => (beside there there).1.1
  case numbered => exact fun there => (beside there there).1.2
  case single => exact fun here there => (beside here there).2

/-- Whether a file with a stamp from before stood at its place before. -/
def isSettledSince
    (before : FileSystem)
    (entry : Location × Node) :
    Bool :=
  match entry.2 with
  | .directory => true
  | .file _ stamp _ _ => before.clock ≤ stamp || before.node? entry.1 == some entry.2

/-- A file system has aged into another one if the tables of both say so. -/
theorem ages_of_nodes
    {before after : FileSystem}
    (clock : before.clock ≤ after.clock)
    (nodes : ∀ entry ∈ after.nodes, isSettledSince before entry = true) :
    before.Ages after where
  clock := clock
  settled := by
    rintro identity stamp content flaw ⟨location, there⟩ old
    have settled := nodes _ (mem_nodes_of_node? there)
    simp only [isSettledSince, Bool.or_eq_true, decide_eq_true_eq, beq_iff_eq] at settled
    exact ⟨location, settled.resolve_left (Nat.not_le.2 old)⟩

/-! ## Changes that keep a file system sane -/

/-- Where every file has been before, a file system has evolved. -/
theorem evolves_of_hasFile
    {before after : FileSystem}
    (clock : after.clock = before.clock)
    (old : ∀ {identity stamp content flaw}, after.HasFile identity stamp content flaw →
      before.HasFile identity stamp content flaw) :
    before.Evolves after := by
  intro sane
  refine ⟨⟨?_, ?_, ?_, ?_⟩, Nat.le_of_eq clock.symm, fun there _ => old there⟩
  · rw [clock]
    exact sane.started
  · intro identity stamp content flaw there
    rw [clock]
    exact sane.stamped (old there)
  · intro identity stamp content flaw there
    rw [clock]
    exact sane.numbered (old there)
  · intro identity stamp content flaw otherStamp otherContent otherFlaw here there
    exact sane.single (old here) (old there)

/-- Where one file got a content now and all others have been before, a file system has evolved. -/
theorem evolves_of_renewed
    {before after : FileSystem}
    {identity : Nat}
    (sane : before.Sane)
    (clock : after.clock = before.clock + 1)
    (others : ∀ {other stamp content flaw}, other ≠ identity →
      after.HasFile other stamp content flaw → before.HasFile other stamp content flaw)
    (renewed : ∀ {stamp content flaw}, after.HasFile identity stamp content flaw →
      identity ≤ before.clock ∧ stamp = before.clock)
    (agree : ∀ {stamp content flaw otherStamp otherContent otherFlaw},
      after.HasFile identity stamp content flaw →
        after.HasFile identity otherStamp otherContent otherFlaw →
          content = otherContent ∧ flaw = otherFlaw) :
    after.Sane ∧ before.Ages after := by
  refine ⟨⟨?_, ?_, ?_, ?_⟩, ?_, ?_⟩
  · rw [clock]
    exact Nat.succ_pos before.clock
  · intro other stamp content flaw there
    rw [clock]
    by_cases same : other = identity
    · subst same
      rw [(renewed there).2]
      exact ⟨sane.started, Nat.lt_succ_self before.clock⟩
    · have earlier := sane.stamped (others same there)
      omega
  · intro other stamp content flaw there
    rw [clock]
    by_cases same : other = identity
    · subst same
      exact Nat.lt_succ_of_le (renewed there).1
    · exact Nat.lt_succ_of_lt (sane.numbered (others same there))
  · intro other stamp content flaw otherStamp otherContent otherFlaw here there
    by_cases same : other = identity
    · subst same
      have now := (renewed here).2
      have nowToo := (renewed there).2
      exact ⟨now.trans nowToo.symm, agree here there⟩
    · exact sane.single (others same here) (others same there)
  · rw [clock]
    exact Nat.le_succ before.clock
  · intro other stamp content flaw there old
    by_cases same : other = identity
    · subst same
      rw [(renewed there).2] at old
      exact absurd old (Nat.lt_irrefl _)
    · exact others same there

/-! ## Changing and removing files -/

theorem hasFile_edit
    {files : FileSystem}
    {identity other stamp : Nat}
    {change : Octets → Octets}
    {content : Octets}
    {flaw : Option Flaw}
    (there : (files.edit identity change).HasFile other stamp content flaw) :
    if other = identity then
      stamp = files.clock ∧ ∃ oldStamp old, files.HasFile identity oldStamp old flaw ∧
        content = change old
    else
      files.HasFile other stamp content flaw := by
  rcases there with ⟨location, there⟩
  rw [node?_edit, Option.map_eq_some_iff] at there
  rcases there with ⟨node, before, shape⟩
  cases node with
  | directory => cases shape
  | file old oldStamp oldContent oldFlaw =>
    rw [edited] at shape
    split at shape
    · next same =>
      cases shape
      rw [if_pos same]
      exact ⟨rfl, oldStamp, oldContent, ⟨location, same ▸ before⟩, rfl⟩
    · next different =>
      cases shape
      rw [if_neg different]
      exact ⟨location, before⟩

theorem evolves_edit
    (files : FileSystem)
    (identity : Nat)
    (change : Octets → Octets) :
    files.Evolves (files.edit identity change) := by
  intro sane
  apply @evolves_of_renewed _ _ identity sane rfl
  · intro other stamp content flaw different there
    have old := hasFile_edit there
    rw [if_neg different] at old
    exact old
  · intro stamp content flaw there
    have now := hasFile_edit there
    rw [if_pos rfl] at now
    rcases now with ⟨now, oldStamp, old, before, -⟩
    exact ⟨Nat.le_of_lt (sane.numbered before), now⟩
  · intro stamp content flaw otherStamp otherContent otherFlaw here there
    have first := hasFile_edit here
    have second := hasFile_edit there
    rw [if_pos rfl] at first second
    rcases first with ⟨-, _, old, before, rfl⟩
    rcases second with ⟨-, _, oldToo, beforeToo, rfl⟩
    rcases sane.single before beforeToo with ⟨-, rfl, same⟩
    exact ⟨rfl, same⟩

theorem evolves_erase
    {files : FileSystem}
    {location : Location}
    (below : location ≠ []) :
    files.Evolves (files.erase location) := by
  have clock : (files.erase location).clock = files.clock := rfl
  apply evolves_of_hasFile clock
  rintro identity stamp content flaw ⟨place, there⟩
  rw [node?_erase _ _ _ below] at there
  split at there
  · cases there
  · exact ⟨place, there⟩

/-- What is removed is a file that is found. -/
theorem removeFile_eq_ok
    {files after : FileSystem}
    {route : Route}
    (removing : files.removeFile route = .ok after) :
    ∃ location identity stamp content flaw,
      files.find route = .ok (location, .file identity stamp content flaw) ∧
        after = files.erase location := by
  rw [removeFile] at removing
  split at removing
  · cases removing
  · cases removing
  next location identity stamp content flaw found =>
  cases removing
  exact ⟨location, identity, stamp, content, flaw, found, rfl⟩

/-- Removing a file leaves all others as they are. -/
theorem evolves_removeFile
    {files after : FileSystem}
    {route : Route}
    (removing : files.removeFile route = .ok after) :
    files.Evolves after := by
  rcases removeFile_eq_ok removing with
    ⟨location, identity, stamp, content, flaw, found, rfl⟩
  exact evolves_erase (ne_root (noDirectory_of_file (find_eq_file_iff.1 found).2.1))

/-! ## New directories and files -/

theorem evolves_put_directory
    {files : FileSystem}
    {location : Location}
    (below : location ≠ []) :
    files.Evolves (files.put location .directory) := by
  have clock : (files.put location .directory).clock = files.clock := rfl
  apply evolves_of_hasFile clock
  rintro identity stamp content flaw ⟨place, there⟩
  rw [node?_put _ _ _ _ below] at there
  split at there
  · cases there
  · exact ⟨place, there⟩

theorem evolves_createDirectory
    {files after : FileSystem}
    {route : Route}
    (creating : files.createDirectory route = .ok after) :
    files.Evolves after := by
  rw [createDirectory] at creating
  split at creating
  · cases creating
  next location located =>
  split at creating
  · cases creating
  next nothing =>
  cases creating
  exact evolves_put_directory (ne_root_of_nothing nothing)

theorem evolves_createDirectoriesFrom
    (files : FileSystem)
    (route : Route)
    (depth : Nat) :
    files.Evolves (files.createDirectoriesFrom route depth).1 :=
  createDirectoriesFrom_related Evolves.refl Evolves.trans evolves_createDirectory files route depth

/-- A new file is the only one with its identity. -/
theorem evolves_placeFile
    {files : FileSystem}
    {location : Location}
    (below : location ≠ [])
    (content : Octets) :
    files.Evolves (files.placeFile location content) := by
  have cases :
      ∀ {identity stamp data flaw},
        (files.placeFile location content).HasFile identity stamp data flaw →
          (identity = files.clock ∧ stamp = files.clock ∧ data = content ∧ flaw = none) ∨
            files.HasFile identity stamp data flaw := by
    rintro identity stamp data flaw ⟨place, there⟩
    have either :
        (files.put location (.file files.clock files.clock content)).node? place =
          some (.file identity stamp data flaw) := there
    rw [node?_put _ _ _ _ below] at either
    split at either
    · cases either
      exact Or.inl ⟨rfl, rfl, rfl, rfl⟩
    · exact Or.inr ⟨place, either⟩
  intro sane
  have unused : ∀ {stamp data flaw}, ¬ files.HasFile files.clock stamp data flaw :=
    fun there => Nat.lt_irrefl _ (sane.numbered there)
  apply @evolves_of_renewed _ _ files.clock sane rfl
  · intro other stamp data flaw different there
    rcases cases there with ⟨same, -⟩ | old
    · exact absurd same different
    · exact old
  · intro stamp data flaw there
    rcases cases there with ⟨-, now, -⟩ | old
    · exact ⟨Nat.le_refl _, now⟩
    · exact absurd old unused
  · intro stamp data flaw otherStamp otherData otherFlaw here there
    rcases cases here with ⟨-, -, rfl, rfl⟩ | old
    · rcases cases there with ⟨-, -, rfl, rfl⟩ | old
      · exact ⟨rfl, rfl⟩
      · exact absurd old unused
    · exact absurd old unused

/-- What is put elsewhere leaves the file at the end of a route alone. -/
theorem leaves_put
    {files : FileSystem}
    {route : Route}
    {location : Location}
    (noDirectory : files.node? location ≠ some .directory)
    (elsewhere : files.locate route ≠ .ok location)
    (node : Node)
    (clock : Nat) :
    Leaves route files { files.put location node with clock } := by
  intro place identity stamp data found
  rcases find_eq_file_iff.1 found with ⟨located, there, -⟩
  have below := ne_root noDirectory
  have different : place ≠ location := by
    rintro rfl
    exact elsewhere located
  have kept : KeepsDirectories files { files.put location node with clock } :=
    keepsDirectories_put noDirectory node
  refine ⟨place, stamp, find_of_kept kept rfl found ?_⟩
  have still := node?_put files location place node below
  rw [if_neg different, there] at still
  exact still

end BuildCapture.FileSystem
