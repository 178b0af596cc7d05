import BuildCapture.Proofs.Container.Scribe

/-!
# Committed octets are never touched

A scribe takes octets back by cutting its file, on the strength of one
comparison: pending octets are the latest if they end where the payload ends.  A
ledger notes beside the scribe what was written for every entry and for all
pending octets that are still held.  Whatever is written, streamed, named,
discarded or dropped, in whatever order, and also if streams break off, no two
stretches that store something meet, all of them end within the file, and each
shows exactly the octets that were written for it.

The order matters little because cutting only happens at the very end of the
file.  Everything that is apart from the last stretch and within the file is
still within it afterwards, so an offset may be used again and again without an
older stretch being hit.
-/

namespace BuildCapture.Container

/-! ## Payloads -/

/-- Some data, and the octets that were written for it. -/
structure Payload where
  data : Octets
  stored : Octets
deriving DecidableEq, Repr

namespace Payload

/-- The payload of data that was stored in a form. -/
def ofForm?
    (data : Octets)
    (form? : Option (Octets × UInt16)) :
    Payload where
  data := data
  stored := (form?.map Prod.fst).getD []

/-- The octets of a payload are in an image at a stretch. -/
def At
    (payload : Payload)
    (image : Octets)
    (stretch : Stretch) :
    Prop :=
  Octets.slice image stretch.offset stretch.length = payload.stored

/-- What is at a stretch within a first part of an image depends on that part alone. -/
theorem at_iff_of_within
    {front : Octets}
    {stretch : Stretch}
    (within : stretch.Within front.length)
    (payload : Payload)
    (more : Octets) :
    payload.At (front ++ more) stretch ↔ payload.At front stretch := by
  rw [At, At]
  rcases within with nothing | inside
  · rw [nothing, Octets.slice_length_zero, Octets.slice_length_zero]
  · rw [Octets.slice_append_left inside]

/-- Octets behind an image are at the stretch that begins where the image ends. -/
theorem at_end
    (image data : Octets)
    (form : Octets × UInt16) :
    (Payload.mk data form.1).At (image ++ form.1)
      (Pending.ofStored image.length data form.1 form.2).stretch :=
  Octets.slice_last image form.1

end Payload

/-! ## What a draft does with pending octets -/

namespace Draft

variable {draft : Draft}

/-- Discarding cuts the image at the latest octets, and refuses all others. -/
theorem discard_cases
    (unsealed : draft.isSealed = false)
    (pending : Pending) :
    draft.discard pending = .error (.unsupported .notLatest) ∨
      draft.isLatest pending = true ∧
        draft.discard pending = .ok { draft with image := draft.image.take pending.offset } := by
  rw [discard]
  split
  · exact Or.inl rfl
  next latest =>
  have still : ¬ draft.isSealed = true := by
    rw [unsealed]
    exact Bool.false_ne_true
  rw [if_neg still]
  exact Or.inr ⟨by simpa using latest, rfl⟩

/-- The latest octets become an entry if the name is free, and are discarded if it is taken. -/
theorem commit_cases
    (unsealed : draft.isSealed = false)
    (pending : Pending)
    (name : String) :
    draft.commit pending name = (draft, .error (.unsupported .notLatest)) ∨
      draft.isLatest pending = true ∧
        (draft.contains name = true ∧
            draft.commit pending name =
              ({ draft with image := draft.image.take pending.offset },
                .error (.unsupported .duplicateEntry)) ∨
          draft.contains name = false ∧
            draft.commit pending name =
              ({ draft with entries := draft.entries ++ [pending.named name] }, .ok ())) := by
  rw [commit]
  split
  · exact Or.inl rfl
  next notLate =>
  have latest : draft.isLatest pending = true := by simpa using notLate
  refine Or.inr ⟨latest, ?_⟩
  split
  · next taken =>
    rcases draft.discard_cases unsealed pending with refused | ⟨-, discarding⟩
    · rw [discard, latest, if_neg] at refused
      · rw [unsealed] at refused
        cases refused
      · exact Bool.false_ne_true
    · rw [discarding]
      exact Or.inl ⟨taken, rfl⟩
  · next free => exact Or.inr ⟨Bool.not_eq_true _ ▸ free, rfl⟩

end Draft

/-! ## Ledgers -/

/-- A scribe with what was written for its entries and for all octets that are still pending. -/
structure Ledger where
  scribe : Scribe
  /-- Octets that are not settled yet. -/
  held : List (Pending × Payload) := []
  /-- The names that were accepted, in their order. -/
  entered : List (String × Payload) := []
deriving DecidableEq, Repr

namespace Ledger

/-- What can be done with a scribe; octets that are held are named by their position. -/
inductive Action where
  | write (name : String) (data : Octets)
  | stream (reader : Reader)
  | commit (position : Nat) (name : String)
  | discard (position : Nat)
  | drop (position : Nat)
deriving DecidableEq, Repr

/-- The ledger without the held octets at a position. -/
def release
    (ledger : Ledger)
    (position : Nat) :
    Ledger :=
  { ledger with held := ledger.held.eraseIdx position }

/-- The stretches of all entries and of all octets that are held. -/
def stretches
    (ledger : Ledger) :
    List Stretch :=
  ledger.scribe.entries.map stretchOf ++ ledger.held.map fun item => item.1.stretch

section Steps

variable [Zstd.Encoder] [Zstd.Packer]

/-- The ledger after an action; pending octets that are settled are used up, even by a failure. -/
def step
    (ledger : Ledger) : Action → Ledger
  | .write name data =>
    let payload := Payload.ofForm? data (Draft.pack? ledger.scribe.compression data)
    match ledger.scribe.write name data with
    | (scribe, .error _) => { ledger with scribe }
    | (scribe, .ok ()) => { ledger with scribe, entered := ledger.entered ++ [(name, payload)] }
  | .stream reader =>
    let payload :=
      Payload.ofForm? reader.pieces.flatten (Scribe.form? ledger.scribe.compression reader)
    match ledger.scribe.stream reader with
    | (scribe, .error _) => { ledger with scribe }
    | (scribe, .ok pending) => { ledger with scribe, held := (pending, payload) :: ledger.held }
  | .commit position name =>
    match ledger.held[position]? with
    | none => ledger
    | some (pending, payload) =>
      match ledger.scribe.commit pending name with
      | (scribe, .error _) => { ledger.release position with scribe }
      | (scribe, .ok ()) =>
        { ledger.release position with scribe, entered := ledger.entered ++ [(name, payload)] }
  | .discard position =>
    match ledger.held[position]? with
    | none => ledger
    | some (pending, _) =>
      { ledger.release position with scribe := (ledger.scribe.discard pending).1 }
  | .drop position => ledger.release position

/-- The ledger after actions. -/
def run
    (ledger : Ledger)
    (actions : List Action) :
    Ledger :=
  actions.foldl step ledger

end Steps

/-- An image shows, entry by entry and for all octets that are held, what was written for them. -/
structure Shows
    (image : Octets)
    (entries : List DirectoryEntry)
    (entered : List (String × Payload))
    (held : List (Pending × Payload)) : Prop where
  entered : List.Forall₂
    (fun entry item => entry.name = item.1 ∧ item.2.At image (stretchOf entry)) entries entered
  held : ∀ item ∈ held, item.2.At image item.1.stretch

/-- A draft keeps the data that was written, and its image shows the stored octets. -/
structure Kept
    (draft : Draft)
    (entered : List (String × Payload))
    (held : List (Pending × Payload)) : Prop where
  sound : draft.Sound (entered.map fun item => (item.1, item.2.data))
    (held.map fun item => (item.1, item.2.data))
  shows : Shows draft.image draft.entries entered held

/-- The scribe of a ledger is in step with a draft that keeps what the ledger notes. -/
structure Sound
    (ledger : Ledger)
    (path : String)
    (draft : Draft) : Prop where
  inStep : ledger.scribe.InStep path draft
  kept : Kept draft ledger.entered ledger.held

/-! ## What is shown -/

namespace Shows

variable
  {image other : Octets}
  {entries : List DirectoryEntry}
  {entered : List (String × Payload)}
  {held : List (Pending × Payload)}

/-- Entries are shown as well by an image with the same octets at their stretches. -/
theorem transfer_entered
    (shown : List.Forall₂
      (fun entry item => entry.name = item.1 ∧ item.2.At image (stretchOf entry)) entries entered)
    (same : ∀ entry ∈ entries, ∀ payload : Payload,
      payload.At image (stretchOf entry) → payload.At other (stretchOf entry)) :
    List.Forall₂
      (fun entry item => entry.name = item.1 ∧ item.2.At other (stretchOf entry)) entries
      entered := by
  induction shown with
  | nil => exact List.Forall₂.nil
  | cons first rest ih =>
    apply List.Forall₂.cons
    · exact ⟨first.1, same _ List.mem_cons_self _ first.2⟩
    · exact ih fun entry member => same entry (List.mem_cons_of_mem _ member)

/-- An image with the same octets at all stretches shows the same. -/
theorem transfer
    (shows : Shows image entries entered held)
    (same : ∀ stretch ∈ entries.map stretchOf ++ held.map fun item => item.1.stretch,
      ∀ payload : Payload, payload.At image stretch → payload.At other stretch) :
    Shows other entries entered held where
  entered := transfer_entered shows.entered
    fun entry member => same _ (List.mem_append_left _ (List.mem_map_of_mem member))
  held item member := by
    have place : item.1.stretch ∈ held.map fun item => item.1.stretch := List.mem_map_of_mem member
    exact same _ (List.mem_append_right _ place) _ (shows.held item member)

/-- Fewer octets may be held. -/
theorem subset
    (shows : Shows image entries entered held)
    {fewer : List (Pending × Payload)}
    (inside : ∀ item ∈ fewer, item ∈ held) :
    Shows image entries entered fewer where
  entered := shows.entered
  held item member := shows.held item (inside item member)

/-- Octets that are held become an entry. -/
theorem accept
    {pending : Pending}
    {payload : Payload}
    (shows : Shows image entries entered ((pending, payload) :: held))
    (name : String) :
    Shows image (entries ++ [pending.named name]) (entered ++ [(name, payload)]) held where
  entered := by
    have shown := shows.held (pending, payload) List.mem_cons_self
    exact List.rel_append shows.entered (List.Forall₂.cons ⟨rfl, shown⟩ List.Forall₂.nil)
  held item member := shows.held item (List.mem_cons_of_mem _ member)

end Shows

/-! ## What is kept -/

namespace Kept

variable
  {draft : Draft}
  {entered : List (String × Payload)}
  {held : List (Pending × Payload)}
  {pending : Pending}
  {payload : Payload}

/-- Everything that is kept is within the image. -/
theorem within
    (kept : Kept draft entered held) :
    ∀ stretch ∈ draft.entries.map stretchOf ++ held.map fun item => item.1.stretch,
      stretch.Within draft.image.length := by
  have within := kept.sound.within
  rw [List.map_map] at within
  exact within

/-- The order of what is held does not matter. -/
theorem perm
    (kept : Kept draft entered held)
    {reordered : List (Pending × Payload)}
    (same : held.Perm reordered) :
    Kept draft entered reordered where
  sound := kept.sound.perm (same.map _)
  shows := kept.shows.subset fun _ member => same.mem_iff.2 member

/-- What is held may be forgotten. -/
theorem drop
    (kept : Kept draft entered ((pending, payload) :: held)) :
    Kept draft entered held where
  sound := kept.sound.drop
  shows := kept.shows.subset fun _ member => List.mem_cons_of_mem _ member

/-- Appended octets are held. -/
theorem append
    (kept : Kept draft entered held)
    {data : Octets}
    {form : Octets × UInt16}
    (restores : Restores form data)
    (fits : draft.image.length + form.1.length ≤ FileSystem.maximalFile) :
    Kept (draft.append data form).2 entered
      (((draft.append data form).1, ⟨data, form.1⟩) :: held) where
  sound := kept.sound.append restores fits
  shows := by
    have earlier : Shows (draft.image ++ form.1) draft.entries entered held :=
      kept.shows.transfer fun stretch member payload there =>
        (payload.at_iff_of_within (kept.within stretch member) form.1).2 there
    constructor
    case entered => exact earlier.entered
    case held =>
      intro item member
      rcases List.mem_cons.1 member with rfl | before
      · exact Payload.at_end draft.image data form
      · exact earlier.held item before

/-- Octets that are held get a name that is free. -/
theorem accept
    (kept : Kept draft entered ((pending, payload) :: held))
    {name : String}
    (free : draft.contains name = false) :
    Kept { draft with entries := draft.entries ++ [pending.named name] }
      (entered ++ [(name, payload)]) held where
  sound := by
    rw [List.map_append]
    exact kept.sound.accept free
  shows := kept.shows.accept name

/-- Without the latest octets everything else is kept. -/
theorem cut
    (kept : Kept draft entered ((pending, payload) :: held))
    (latest : draft.isLatest pending = true) :
    Kept { draft with image := draft.image.take pending.offset } entered held := by
  have shorter := kept.sound.cut latest
  constructor
  case sound => exact shorter
  case shows =>
    apply kept.drop.shows.transfer
    intro stretch member payload there
    -- nothing else reaches into the latest octets, so it is within what is left
    have inside := shorter.within stretch (by rw [List.map_map]; exact member)
    rw [← List.take_append_drop pending.offset draft.image] at there
    exact (payload.at_iff_of_within inside _).1 there

/-- Octets that were stored under a free name are kept. -/
theorem gain
    (kept : Kept draft entered held)
    {data : Octets}
    {form : Octets × UInt16}
    (restores : Restores form data)
    (fits : draft.image.length + form.1.length ≤ FileSystem.maximalFile)
    {name : String}
    (free : draft.contains name = false) :
    Kept (draft.gained name data form) (entered ++ [(name, ⟨data, form.1⟩)]) held :=
  (kept.append restores fits).accept free

end Kept

/-! ## Steps and runs -/

/-- A ledger starts with nothing. -/
def start
    (started : FileSystem)
    (writer : Writer) :
    Ledger where
  scribe := Scribe.ofWriter started writer

theorem sound_start
    {files started : FileSystem}
    {path : String}
    {config : WriterConfig}
    {writer : Writer}
    (creating : Writer.create files path config = (started, .ok writer)) :
    (start started writer).Sound path writer.draft := by
  rcases Workbench.sound_create creating with ⟨fresh, -, blank⟩
  constructor
  case inStep => exact Scribe.inStep_start creating
  case kept =>
    refine ⟨fresh.draft, ?_, fun item member => absurd member List.not_mem_nil⟩
    rw [blank]
    exact List.Forall₂.nil

/-- Held octets are those at their position and those that are left without them. -/
theorem held_perm
    {ledger : Ledger}
    {position : Nat}
    {item : Pending × Payload}
    (there : ledger.held[position]? = some item) :
    ledger.held.Perm (item :: (ledger.release position).held) := by
  rcases List.getElem?_eq_some_iff.1 there with ⟨inside, same⟩
  rw [← same]
  exact (List.getElem_cons_eraseIdx_perm inside).symm

/-- Without some held octets the ledger is still sound. -/
theorem Sound.release
    {ledger : Ledger}
    {path : String}
    {draft : Draft}
    (sound : ledger.Sound path draft)
    (position : Nat) :
    (ledger.release position).Sound path draft := by
  refine ⟨sound.inStep, ?_⟩
  cases there : ledger.held[position]? with
  | none =>
    have same : (ledger.release position).held = ledger.held :=
      List.eraseIdx_of_length_le (List.getElem?_eq_none_iff.1 there)
    rw [same]
    exact sound.kept
  | some item => exact (sound.kept.perm (held_perm there)).drop

section Runs

variable [Zstd.Encoder] [Zstd.Packer]

/-- After every action the ledger is sound for some draft. -/
theorem Sound.step
    {ledger : Ledger}
    {path : String}
    {draft : Draft}
    (sound : ledger.Sound path draft)
    (action : Action) :
    ∃ next, (ledger.step action).Sound path next := by
  cases action with
  | write name data =>
    have deposited := sound.inStep.write_deposited name data
    rw [← sound.inStep.compression] at deposited
    rw [Ledger.step]
    cases writing : ledger.scribe.write name data with
    | mk after outcome =>
      rw [writing] at deposited
      cases deposited with
      | stored packs fits free ahead =>
        refine ⟨_, ahead, ?_⟩
        rw [packs]
        exact sound.kept.gain (Draft.pack?_restores packs) fits free
      | taken _ back => exact ⟨draft, back, sound.kept⟩
      | broken _ _ back => exact ⟨draft, back, sound.kept⟩
  | stream reader =>
    have streamed := sound.inStep.stream reader
    rw [← sound.inStep.compression] at streamed
    rw [Ledger.step]
    cases streaming : ledger.scribe.stream reader with
    | mk after outcome =>
      rw [streaming] at streamed
      cases streamed with
      | stored packs fits ahead =>
        refine ⟨_, ahead, ?_⟩
        rw [packs]
        exact sound.kept.append (Scribe.form?_restores packs) fits
      | broken _ _ back => exact ⟨draft, back, sound.kept⟩
  | commit position name =>
    rw [Ledger.step]
    split
    · exact ⟨draft, sound⟩
    next pending payload there =>
    have front := sound.kept.perm (held_perm there)
    rcases sound.inStep.commit pending name with ⟨after, committing, follows⟩
    rw [committing]
    rcases draft.commit_cases sound.inStep.draftUnsealed pending name with
      refused | ⟨latest, ⟨-, refused⟩ | ⟨free, accepted⟩⟩
    · rw [refused] at follows ⊢
      exact ⟨_, follows, front.drop⟩
    · rw [refused] at follows ⊢
      exact ⟨_, follows, front.cut latest⟩
    · rw [accepted] at follows ⊢
      exact ⟨_, follows, front.accept free⟩
  | discard position =>
    rw [Ledger.step]
    split
    · exact ⟨draft, sound⟩
    next pending payload there =>
    have front := sound.kept.perm (held_perm there)
    rcases sound.inStep.discard pending with ⟨after, discarding, follows⟩
    rw [discarding]
    rcases draft.discard_cases sound.inStep.draftUnsealed pending with
      refused | ⟨latest, shorter⟩
    · rw [refused] at follows
      exact ⟨_, follows, front.drop⟩
    · rw [shorter] at follows
      exact ⟨_, follows, front.cut latest⟩
  | drop position => exact ⟨draft, sound.release position⟩

/-- After every run the ledger is sound for some draft. -/
theorem Sound.run
    {ledger : Ledger}
    {path : String}
    {draft : Draft}
    (sound : ledger.Sound path draft)
    (actions : List Action) :
    ∃ last, (ledger.run actions).Sound path last := by
  induction actions generalizing ledger draft with
  | nil => exact ⟨draft, sound⟩
  | cons action rest ih =>
    rcases sound.step action with ⟨next, soundNext⟩
    exact ih soundNext

/--
After any run no two stretches that store something meet, all of them end where
the payload ends at the latest, the temporary file is as long as the payload, and
it shows exactly what was written for every entry and for all octets that are
held.
-/
theorem committed_octets_are_never_touched
    {files started : FileSystem}
    {path : String}
    {config : WriterConfig}
    {writer : Writer}
    (creating : Writer.create files path config = (started, .ok writer))
    (actions : List Action) :
    let ledger := (start started writer).run actions
    ledger.stretches.Pairwise Stretch.Apart ∧
      (∀ stretch ∈ ledger.stretches, stretch.Within ledger.scribe.offset) ∧
      ∃ location stamp content,
        ledger.scribe.handle.files.find (Writer.temporaryRoute path) =
            .ok (location, .file ledger.scribe.handle.identity stamp content) ∧
          content.length = ledger.scribe.offset ∧
          Shows content ledger.scribe.entries ledger.entered ledger.held := by
  intro ledger
  rcases (sound_start creating).run actions with ⟨draft, sound⟩
  have inStep := sound.inStep
  have kept := sound.kept
  have within := kept.within
  have apart := kept.sound.apart
  have shows := kept.shows
  rw [List.map_map] at apart
  rw [← inStep.entries] at within apart shows
  rw [← inStep.offset] at within
  rcases inStep.holds.found with ⟨location, stamp, found⟩
  exact ⟨apart, within, location, stamp, draft.image, found, inStep.offset.symm, shows⟩

end Runs

/-! ## A run -/

/-- Octets are streamed in two pieces; a stream breaks off, and another one is taken back. -/
def mixedActions : List Action := [
  .stream ⟨[[97], [98, 99]], none, by decide⟩,
  .write "x" [120],
  .stream ⟨[[1, 2], [3]], some (.source "broken"), by decide⟩,
  .stream ⟨[[4, 5]], none, by decide⟩,
  .commit 1 "late",
  .discard 0,
  .stream ⟨[[6], [7]], none, by decide⟩,
  .commit 0 "y"]

/-- The ledger after actions on a container that stores everything as it is. -/
def plainLedger
    (actions : List Action) :
    Option Ledger :=
  match plainStart with
  | (_, .error _) => none
  | (started, .ok writer) => some ((start started writer).run actions)

/-- A ledger of a container that stores everything as it is comes from a run. -/
theorem run_of_plainLedger
    {actions : List Action}
    {ledger : Ledger}
    (reached : plainLedger actions = some ledger) :
    ∃ started writer,
      Writer.create noFiles "plain" plainConfig = (started, .ok writer) ∧
        ledger = (start started writer).run actions := by
  rw [plainLedger] at reached
  split at reached
  · cases reached
  · next started writer starting =>
    exact ⟨started, writer, starting, (Option.some.inj reached).symm⟩

set_option maxRecDepth 100000 in
/-- The two entries that were accepted are shown behind the octets that got no name. -/
theorem mixed_run_shows_both_entries :
    ∃ started writer ledger content,
      Writer.create noFiles "plain" plainConfig = (started, .ok writer) ∧
        ledger = (start started writer).run mixedActions ∧
        ledger.entered = [("x", ⟨[120], [120]⟩), ("y", ⟨[6, 7], [6, 7]⟩)] ∧
        ledger.scribe.offset = 70 ∧ content.length = 70 ∧
        Shows content ledger.scribe.entries ledger.entered ledger.held := by
  have reached :
      ∃ ledger, plainLedger mixedActions = some ledger ∧
        ledger.entered = [("x", ⟨[120], [120]⟩), ("y", ⟨[6, 7], [6, 7]⟩)] ∧
        ledger.scribe.offset = 70 := by
    refine ⟨_, rfl, ?_⟩
    decide +kernel
  rcases reached with ⟨ledger, reached, entered, ends⟩
  rcases run_of_plainLedger reached with ⟨started, writer, starting, run⟩
  have facts := committed_octets_are_never_touched starting mixedActions
  rw [← run] at facts
  rcases facts with ⟨-, -, location, stamp, content, found, long, shows⟩
  rw [ends] at long
  exact ⟨started, writer, ledger, content, starting, run, entered, ends, long, shows⟩

end Ledger

end BuildCapture.Container
