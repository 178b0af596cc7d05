import BuildCapture.Proofs.Container.Workbench
import Mathlib.Data.List.Perm.Basic

/-!
# Containers with several pending entries

A desk is a workbench together with all octets that were streamed to it and not
settled yet.  They may be committed, discarded or dropped in any order.  The
desk also remembers which names were accepted with which data.

Every run keeps the workbench sound.  Nevertheless a sealed container need not
open: octets of length zero can get a name while octets in front of them are
still pending, and when those are discarded, the entry is left stranded behind
the end of the image.  That is the only way: the main theorem says that a
sealed container opens exactly if no entry is stranded, and that it then has
the accepted names and serves the accepted data.
-/

namespace BuildCapture

namespace Container

/-- A workbench with what is pending on it and what it has accepted. -/
structure Desk where
  bench : Workbench
  /-- Octets that are not settled yet, with the data that was streamed. -/
  held : List (Pending × Octets) := []
  /-- The names that were accepted, with their data. -/
  accepted : List (String × Octets) := []
deriving DecidableEq, Repr

/-- What can be done at a desk; octets that are held are named by their position. -/
inductive Action where
  | write (name : String) (data : Octets)
  | stream (source : Source)
  | commit (position : Nat) (name : String)
  | discard (position : Nat)
  | drop (position : Nat)
deriving DecidableEq, Repr

/-- The name that an action may give. -/
def Action.name? : Action → Option String
  | .write name _ => some name
  | .commit _ name => some name
  | _ => none

namespace Desk

/-- The desk without the held octets at a position. -/
def release
    (desk : Desk)
    (position : Nat) :
    Desk :=
  { desk with held := desk.held.eraseIdx position }

/-- An entry without stored octets lies behind the end of the image. -/
def Strands (desk : Desk) : Prop :=
  ∃ entry ∈ desk.bench.writer.draft.entries,
    entry.storedLength = 0 ∧ desk.bench.writer.draft.image.length < entry.offset

/-- The workbench is sound for what was accepted and what is held, and all names are short. -/
structure Sound (desk : Desk) : Prop where
  bench : desk.bench.Sound desk.accepted desk.held
  short : ∀ item ∈ desk.accepted, (Octets.ofText item.1).length < Octets.bound 2

/-- Held octets are those at their position and those that are left without them. -/
theorem held_perm
    {desk : Desk}
    {position : Nat}
    {item : Pending × Octets}
    (there : desk.held[position]? = some item) :
    desk.held.Perm (item :: (desk.release position).held) := by
  rcases List.getElem?_eq_some_iff.1 there with ⟨inside, same⟩
  rw [← same]
  exact (List.getElem_cons_eraseIdx_perm inside).symm

/-- Without some held octets the workbench is still sound. -/
theorem sound_release
    {desk : Desk}
    (sound : desk.bench.Sound desk.accepted desk.held)
    (position : Nat) :
    desk.bench.Sound desk.accepted (desk.release position).held := by
  cases there : desk.held[position]? with
  | none =>
    have same : (desk.release position).held = desk.held :=
      List.eraseIdx_of_length_le (List.getElem?_eq_none_iff.1 there)
    rw [same]
    exact sound
  | some item => exact (sound.perm (held_perm there)).drop

theorem short_append
    {accepted : List (String × Octets)}
    (short : ∀ item ∈ accepted, (Octets.ofText item.1).length < Octets.bound 2)
    {name : String}
    (shortName : (Octets.ofText name).length < Octets.bound 2)
    (data : Octets) :
    ∀ item ∈ accepted ++ [(name, data)], (Octets.ofText item.1).length < Octets.bound 2 := by
  intro item member
  rcases List.mem_append.1 member with earlier | last
  · exact short item earlier
  · rw [List.mem_singleton.1 last]
    exact shortName

/-- Exactly a stranded entry does not end within the image of a sound desk. -/
theorem Sound.strands_iff
    {desk : Desk}
    (sound : desk.Sound) :
    (∀ entry ∈ desk.bench.writer.draft.entries,
        entry.storedEnd ≤ desk.bench.writer.draft.image.length) ↔
      ¬ desk.Strands := by
  constructor
  · rintro inside ⟨entry, member, nothing, behind⟩
    have ends := inside entry member
    rw [DirectoryEntry.storedEnd] at ends
    omega
  · intro noStranded entry member
    rcases sound.bench.draft.keeps.forall_entries entry member with ⟨data, stores⟩
    rcases stores.within with nothing | ends
    · by_contra tooLong
      apply noStranded
      refine ⟨entry, member, nothing, ?_⟩
      have zero : entry.storedLength = 0 := nothing
      rw [DirectoryEntry.storedEnd] at tooLong
      omega
    · exact ends

/-! ## Runs -/

variable [Zstd.Encoder]

/-- The desk after an action; pending octets that are settled are used up, even by a failure. -/
def step
    (desk : Desk) : Action → Desk
  | .write name data =>
    match desk.bench.write name data with
    | .error _ => desk
    | .ok bench => { desk with bench, accepted := desk.accepted ++ [(name, data)] }
  | .stream source =>
    match desk.bench.stream source with
    | .error _ => desk
    | .ok (pending, bench) => { desk with bench, held := (pending, source.data) :: desk.held }
  | .commit position name =>
    match desk.held[position]? with
    | none => desk
    | some (pending, data) =>
      match desk.bench.commit pending name with
      | (bench, .error _) => { desk.release position with bench }
      | (bench, .ok ()) =>
        { desk.release position with bench, accepted := desk.accepted ++ [(name, data)] }
  | .discard position =>
    match desk.held[position]? with
    | none => desk
    | some (pending, _) =>
      match desk.bench.discard pending with
      | .error _ => desk.release position
      | .ok bench => { desk.release position with bench }
  | .drop position => desk.release position

/-- The desk after actions. -/
def run
    (desk : Desk)
    (actions : List Action) :
    Desk :=
  actions.foldl step desk

/-- Every action keeps the workbench of a desk sound, whatever names it gives. -/
theorem sound_step
    {desk : Desk}
    (sound : desk.bench.Sound desk.accepted desk.held)
    (action : Action) :
    (desk.step action).bench.Sound (desk.step action).accepted (desk.step action).held := by
  cases action with
  | write name data =>
    unfold Desk.step
    simp only
    split
    · exact sound
    · next bench writing => exact sound.write writing
  | stream source =>
    unfold Desk.step
    simp only
    split
    · exact sound
    · next pending bench streaming =>
      rcases sound.stream streaming with ⟨data, all, holds⟩
      rw [← Source.data_of_readAll all] at holds
      exact holds
  | commit position name =>
    rw [Desk.step]
    simp only
    split
    · exact sound
    · next pending data there =>
      have front := sound.perm (held_perm there)
      split
      · next bench failure committing => exact front.commit_error committing
      · next bench committing => exact front.commit_ok committing
  | discard position =>
    rw [Desk.step]
    simp only
    split
    · exact sound
    · next pending data there =>
      split
      · exact sound_release sound position
      · next bench discarding =>
        have front := sound.perm (held_perm there)
        exact front.discard discarding
  | drop position => exact sound_release sound position

/-- Every run keeps the workbench of a desk sound, whatever names it gives. -/
theorem sound_run
    {desk : Desk}
    (sound : desk.bench.Sound desk.accepted desk.held)
    (actions : List Action) :
    (desk.run actions).bench.Sound (desk.run actions).accepted (desk.run actions).held := by
  induction actions generalizing desk with
  | nil => exact sound
  | cons action rest ih => exact ih (sound_step sound action)

/-- An action accepts nothing, or one entry with the name that it gives. -/
theorem accepted_step
    (desk : Desk)
    (action : Action) :
    (desk.step action).accepted = desk.accepted ∨
      ∃ name data, action.name? = some name ∧
        (desk.step action).accepted = desk.accepted ++ [(name, data)] := by
  cases action with
  | write name data =>
    unfold Desk.step
    simp only
    split
    · exact Or.inl rfl
    · exact Or.inr ⟨name, data, rfl, rfl⟩
  | stream source =>
    unfold Desk.step
    simp only
    split
    · exact Or.inl rfl
    · exact Or.inl rfl
  | commit position name =>
    rw [Desk.step]
    simp only
    split
    · exact Or.inl rfl
    · next pending data there =>
      split
      · exact Or.inl rfl
      · exact Or.inr ⟨name, data, rfl, rfl⟩
  | discard position =>
    rw [Desk.step]
    simp only
    split
    · exact Or.inl rfl
    · split
      · exact Or.inl rfl
      · exact Or.inl rfl
  | drop position => exact Or.inl rfl

/-- Every action keeps a desk sound. -/
theorem Sound.step
    {desk : Desk}
    (sound : desk.Sound)
    {action : Action}
    (short : ∀ name, action.name? = some name → (Octets.ofText name).length < Octets.bound 2) :
    (desk.step action).Sound := by
  refine ⟨sound_step sound.bench action, ?_⟩
  rcases accepted_step desk action with same | ⟨name, data, gives, added⟩
  · rw [same]
    exact sound.short
  · rw [added]
    exact short_append sound.short (short name gives) data

/-- Every run keeps a desk sound. -/
theorem Sound.run
    {desk : Desk}
    (sound : desk.Sound)
    {actions : List Action}
    (short :
      ∀ action ∈ actions, ∀ name, action.name? = some name →
        (Octets.ofText name).length < Octets.bound 2) :
    (desk.run actions).Sound := by
  induction actions generalizing desk with
  | nil => exact sound
  | cons action rest ih =>
    apply ih (sound.step (short action List.mem_cons_self))
    intro other later
    exact short other (List.mem_cons_of_mem _ later)

/-- No action moves the container to another path. -/
theorem path_step
    (desk : Desk)
    (action : Action) :
    (desk.step action).bench.writer.path = desk.bench.writer.path := by
  cases action with
  | write name data =>
    unfold Desk.step
    simp only
    split
    · rfl
    · next bench writing => exact (Workbench.continues_write writing).path
  | stream source =>
    unfold Desk.step
    simp only
    split
    · rfl
    · next pending bench streaming => exact (Workbench.continues_stream streaming).path
  | commit position name =>
    rw [Desk.step]
    simp only
    split
    · rfl
    · next pending data there =>
      have kept := (desk.bench.continues_commit pending name).path
      split
      · next bench failure committing =>
        rw [committing] at kept
        exact kept
      · next bench committing =>
        rw [committing] at kept
        exact kept
  | discard position =>
    rw [Desk.step]
    simp only
    split
    · rfl
    · split
      · rfl
      · next bench discarding => exact (Workbench.continues_discard discarding).path
  | drop position => rfl

theorem path_run
    (desk : Desk)
    (actions : List Action) :
    (desk.run actions).bench.writer.path = desk.bench.writer.path := by
  induction actions generalizing desk with
  | nil => rfl
  | cons action rest ih => exact (ih (desk.step action)).trans (path_step desk action)

/--
A container that was sealed after any run opens exactly if no entry is
stranded.  It then has the accepted names and serves the accepted data.
-/
theorem sealed_run_opens_iff_nothing_strands
    {files started : FileSystem}
    {path : String}
    {config : WriterConfig}
    {writer : Writer}
    (creating : Writer.create files path config = (started, .ok writer))
    {actions : List Action}
    (short :
      ∀ action ∈ actions, ∀ name, action.name? = some name →
        (Octets.ofText name).length < Octets.bound 2)
    {desk : Desk}
    (reached : desk = run { bench := ⟨started, writer⟩ } actions)
    {finished : Workbench}
    (finishing : desk.bench.finish = (finished, .ok ()))
    (verify : Bool) :
    ((∃ container, openFile finished.files path verify = .ok container) ↔ ¬ desk.Strands) ∧
      ∀ container,
        openFile finished.files path verify = .ok container →
          (container.entries.map DirectoryEntry.name).Perm (desk.accepted.map Prod.fst) ∧
            ∀ item ∈ desk.accepted, container.read item.1 = .ok item.2 := by
  rcases Workbench.sound_create creating with ⟨fresh, samePath, -⟩
  have noNames :
      ∀ item ∈ ([] : List (String × Octets)),
        (Octets.ofText item.1).length < Octets.bound 2 :=
    fun item member => absurd member List.not_mem_nil
  have start : ({ bench := ⟨started, writer⟩ } : Desk).Sound := ⟨fresh, noNames⟩
  have sound : desk.Sound := reached ▸ start.run short
  have place : desk.bench.writer.path = path := by
    rw [reached, path_run]
    exact samePath
  rcases Workbench.read_of_finish sound.bench.backed finishing with ⟨content, fits⟩
  rw [place] at content
  rw [openFile_of_read content]
  constructor
  · rw [sound.bench.draft.opens_iff sound.short fits, sound.strands_iff]
  · intro container opened
    exact sound.bench.draft.opened sound.short fits opened

end Desk

/-! ## A stranded entry -/

/-- A file system without files. -/
def noFiles : FileSystem where
  workingDirectory := []
  nodes := []
  clock := 1

/-- Settings with which everything is stored as it is. -/
def plainConfig : WriterConfig where
  compression := { enabled := false }

/-- What starting a container with these settings yields. -/
def plainStart : FileSystem × Except Failure Writer :=
  Writer.create noFiles "plain" plainConfig

/-- Three octets and nothing are streamed, and both get a name, the latter first. -/
def settlingActions : List Action := [
  .stream (.ofOctets [97, 98, 99]),
  .stream (.ofOctets []),
  .commit 0 "empty",
  .commit 0 "letters"]

/-- Three octets and nothing are streamed; nothing gets a name, and the octets are discarded. -/
def strandingActions : List Action := [
  .stream (.ofOctets [97, 98, 99]),
  .stream (.ofOctets []),
  .commit 0 "empty",
  .discard 0]

/-- The desk after actions on a container that stores everything as it is. -/
def plainDesk
    (actions : List Action) :
    Option Desk :=
  match plainStart with
  | (_, .error _) => none
  | (started, .ok writer) => some (Desk.run { bench := ⟨started, writer⟩ } actions)

set_option maxRecDepth 100000 in
/-- Pending entries that are settled out of turn are served by the sealed container. -/
theorem settled_entries_are_served :
    ∃ started writer container,
      Writer.create noFiles "plain" plainConfig = (started, .ok writer) ∧
        openFile
            (Desk.run { bench := ⟨started, writer⟩ } settlingActions).bench.finish.1.files
            "plain" true =
          .ok container ∧
        (container.entries.map DirectoryEntry.name).Perm ["empty", "letters"] ∧
        container.read "letters" = .ok [97, 98, 99] ∧ container.read "empty" = .ok [] := by
  have starts : ∃ started writer, plainStart = (started, .ok writer) := ⟨_, _, rfl⟩
  rcases starts with ⟨started, writer, starting⟩
  have reached :
      ∃ desk, plainDesk settlingActions = some desk ∧
        desk.accepted = [("empty", []), ("letters", [97, 98, 99])] ∧
        desk.bench.finish.2 = .ok () ∧
        ¬ ∃ entry ∈ desk.bench.writer.draft.entries,
          entry.storedLength = 0 ∧ desk.bench.writer.draft.image.length < entry.offset := by
    refine ⟨_, rfl, ?_⟩
    decide +kernel
  rcases reached with ⟨desk, run, accepted, sealing, nothing⟩
  rw [plainDesk, starting] at run
  have same : desk = Desk.run { bench := ⟨started, writer⟩ } settlingActions :=
    (Option.some.inj run).symm
  have finishing : desk.bench.finish = (desk.bench.finish.1, .ok ()) := Prod.ext rfl sealing
  have short :
      ∀ action ∈ settlingActions, ∀ name, action.name? = some name →
        (Octets.ofText name).length < Octets.bound 2 := by
    intro action member name gives
    rcases member with _ | ⟨_, _ | ⟨_, _ | ⟨_, _ | ⟨_, last⟩⟩⟩⟩
    · cases gives
    · cases gives
    · cases gives
      decide
    · cases gives
      decide
    · cases last
  rcases Desk.sealed_run_opens_iff_nothing_strands starting short same finishing true with
    ⟨opens, serves⟩
  rcases opens.2 nothing with ⟨container, opened⟩
  rcases serves container opened with ⟨names, reads⟩
  rw [accepted] at names reads
  refine ⟨started, writer, container, starting, same ▸ opened, names, ?_, ?_⟩
  · exact reads ("letters", [97, 98, 99]) (by decide)
  · exact reads ("empty", []) (by decide)

set_option maxRecDepth 100000 in
/-- A name was accepted and the container was sealed, and yet it does not open. -/
theorem stranded_entry_is_sealed_but_not_opened :
    ∃ desk, plainDesk strandingActions = some desk ∧
      desk.accepted = [("empty", [])] ∧ desk.bench.finish.2 = .ok () ∧
      openFile desk.bench.finish.1.files "plain" true =
        .error (.corrupt (.entryOutOfBounds "empty")) := by
  refine ⟨_, rfl, ?_⟩
  decide +kernel

end Container

end BuildCapture
