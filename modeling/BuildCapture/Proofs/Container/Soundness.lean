import BuildCapture.Proofs.Container.Operations
import BuildCapture.Proofs.Container.Stored
import Mathlib.Data.List.Forall2

/-!
# What a draft keeps

A draft is sound for the entries it accepted and the pending octets that are
still held if its image stores the data of all of them and nothing of it
overlaps.  Every operation on a draft keeps it sound, in whatever order pending
octets are settled.
-/

namespace BuildCapture.Container

namespace Draft

/-! ## Soundness -/

/-- An image keeps what a list of accepted items says: entry by entry, name and data. -/
def Keeps (image : Octets) : List DirectoryEntry → List (String × Octets) → Prop :=
  List.Forall₂ fun entry item => entry.name = item.1 ∧ Stores image entry item.2

/--
A draft keeps the data of all accepted names and of all octets that are still
held, and nothing of it overlaps.
-/
structure Sound
    (draft : Draft)
    (accepted : List (String × Octets))
    (held : List (Pending × Octets)) : Prop where
  starts : draft.StartsWithHeader
  size : draft.image.length ≤ FileSystem.maximalFile
  distinct : (draft.entries.map DirectoryEntry.name).Nodup
  keeps : Keeps draft.image draft.entries accepted
  heldStored : ∀ item ∈ held, Stores draft.image (item.1.named "") item.2
  apart :
    (draft.entries.map stretchOf ++ held.map fun item => item.1.stretch).Pairwise Stretch.Apart

namespace Keeps

theorem names
    {image : Octets}
    {entries : List DirectoryEntry}
    {accepted : List (String × Octets)}
    (keeps : Keeps image entries accepted) :
    entries.map DirectoryEntry.name = accepted.map Prod.fst := by
  induction keeps with
  | nil => rfl
  | cons first rest ih => rw [List.map_cons, List.map_cons, first.1, ih]

/-- Whatever holds of every entry that stores something holds of each entry that is kept. -/
theorem forall_entries
    {image : Octets}
    {entries : List DirectoryEntry}
    {accepted : List (String × Octets)}
    (keeps : Keeps image entries accepted) :
    ∀ entry ∈ entries, ∃ data, Stores image entry data := by
  induction keeps with
  | nil => exact fun entry member => absurd member List.not_mem_nil
  | cons first rest ih =>
    intro entry member
    rcases List.mem_cons.1 member with rfl | later
    · exact ⟨_, first.2⟩
    · exact ih entry later

/-- Every accepted item has its entry. -/
theorem entry_of_accepted
    {image : Octets}
    {entries : List DirectoryEntry}
    {accepted : List (String × Octets)}
    (keeps : Keeps image entries accepted)
    {name : String}
    {data : Octets}
    (member : (name, data) ∈ accepted) :
    ∃ entry ∈ entries, entry.name = name ∧ Stores image entry data := by
  induction keeps with
  | nil => exact absurd member List.not_mem_nil
  | cons first rest ih =>
    rcases List.mem_cons.1 member with rfl | later
    · exact ⟨_, List.mem_cons_self, first⟩
    · rcases ih later with ⟨entry, inside, facts⟩
      exact ⟨entry, List.mem_cons_of_mem _ inside, facts⟩

/-- Another image that stores what the first did keeps the same. -/
theorem transfer
    {image other : Octets}
    {entries : List DirectoryEntry}
    {accepted : List (String × Octets)}
    (keeps : Keeps image entries accepted)
    (stored : ∀ entry ∈ entries, ∀ data, Stores image entry data → Stores other entry data) :
    Keeps other entries accepted := by
  induction keeps with
  | nil => exact List.Forall₂.nil
  | cons first rest ih =>
    apply List.Forall₂.cons
    · exact ⟨first.1, stored _ List.mem_cons_self _ first.2⟩
    · exact ih fun entry member => stored entry (List.mem_cons_of_mem _ member)

/-- One more entry is kept. -/
theorem accept
    {image : Octets}
    {entries : List DirectoryEntry}
    {accepted : List (String × Octets)}
    (keeps : Keeps image entries accepted)
    {entry : DirectoryEntry}
    {data : Octets}
    (stores : Stores image entry data) :
    Keeps image (entries ++ [entry]) (accepted ++ [(entry.name, data)]) :=
  List.rel_append keeps (List.Forall₂.cons ⟨rfl, stores⟩ List.Forall₂.nil)

end Keeps

theorem contains_eq_false_iff
    {draft : Draft}
    {name : String} :
    draft.contains name = false ↔ name ∉ draft.entries.map DirectoryEntry.name := by
  simp [contains]

/-- A draft without entries is sound. -/
theorem sound_new
    (config : WriterConfig) :
    (Draft.new config).Sound [] [] where
  starts := ⟨config.pathStyle.flag, [], (List.append_nil _).symm⟩
  size := by
    show (header config.pathStyle.flag).length ≤ _
    rw [length_header]
    decide
  distinct := List.nodup_nil
  keeps := List.Forall₂.nil
  heldStored := fun item member => absurd member List.not_mem_nil
  apart := List.Pairwise.nil

namespace Sound

variable
  {draft : Draft}
  {accepted : List (String × Octets)}
  {held : List (Pending × Octets)}

/-- Every stretch of a sound draft is within its image. -/
theorem within
    (sound : draft.Sound accepted held) :
    ∀ stretch ∈ draft.entries.map stretchOf ++ held.map fun item => item.1.stretch,
      stretch.Within draft.image.length := by
  intro stretch member
  rcases List.mem_append.1 member with settled | pending
  · rcases List.mem_map.1 settled with ⟨entry, inside, rfl⟩
    rcases sound.keeps.forall_entries entry inside with ⟨data, stores⟩
    exact stores.within
  · rcases List.mem_map.1 pending with ⟨item, inside, rfl⟩
    exact (sound.heldStored item inside).within

/-- The order of what is held does not matter. -/
theorem perm
    (sound : draft.Sound accepted held)
    {reordered : List (Pending × Octets)}
    (same : held.Perm reordered) :
    draft.Sound accepted reordered where
  starts := sound.starts
  size := sound.size
  distinct := sound.distinct
  keeps := sound.keeps
  heldStored := fun item member => sound.heldStored item (same.mem_iff.2 member)
  apart := by
    have reorder :=
      (same.map fun item : Pending × Octets => item.1.stretch).append_left
        (draft.entries.map stretchOf)
    exact (reorder.pairwise_iff fun apart => apart.symm).1 sound.apart

/-- What is held may be forgotten. -/
theorem drop
    {pending : Pending}
    {data : Octets}
    (sound : draft.Sound accepted ((pending, data) :: held)) :
    draft.Sound accepted held where
  starts := sound.starts
  size := sound.size
  distinct := sound.distinct
  keeps := sound.keeps
  heldStored := fun item member => sound.heldStored item (List.mem_cons_of_mem _ member)
  apart := by
    refine List.Pairwise.sublist ?_ sound.apart
    exact (List.sublist_cons_self _ _).append_left _

/-! ## Adding and taking back octets -/

/-- Appended octets are held. -/
theorem append
    (sound : draft.Sound accepted held)
    {data : Octets}
    {form : Octets × UInt16}
    (restores : Restores form data)
    (fits : draft.image.length + form.1.length ≤ FileSystem.maximalFile) :
    (draft.append data form).2.Sound accepted (((draft.append data form).1, data) :: held) := by
  have behind := sound.starts.headerLength_le
  have stores := stores_appended restores behind fits
  constructor
  case starts =>
    rcases sound.starts with ⟨flags, rest, image⟩
    refine ⟨flags, rest ++ form.1, ?_⟩
    show draft.image ++ form.1 = _
    rw [image, List.append_assoc]
  case size =>
    show (draft.image ++ form.1).length ≤ _
    rw [List.length_append]
    exact fits
  case distinct => exact sound.distinct
  case keeps => exact sound.keeps.transfer fun entry _ data stored => stored.append form.1
  case heldStored =>
    intro item member
    rcases List.mem_cons.1 member with rfl | earlier
    · exact stores ""
    · exact (sound.heldStored item earlier).append form.1
  case apart =>
    have added :
        (draft.append data form).1.stretch ::
            (draft.entries.map stretchOf ++ held.map fun item => item.1.stretch) |>.Pairwise
          Stretch.Apart := by
      apply List.Pairwise.cons
      · intro stretch member
        have inside : stretch.Within (draft.append data form).1.stretch.offset :=
          sound.within stretch member
        exact inside.apart.symm
      · exact sound.apart
    exact (List.perm_middle.pairwise_iff fun apart => apart.symm).2 added

/-- Pending octets get a name that is free. -/
theorem accept
    {pending : Pending}
    {data : Octets}
    (sound : draft.Sound accepted ((pending, data) :: held))
    {name : String}
    (free : draft.contains name = false) :
    ({ draft with entries := draft.entries ++ [pending.named name] } : Draft).Sound
      (accepted ++ [(name, data)]) held := by
  have stores := (sound.heldStored (pending, data) List.mem_cons_self).renamed name
  constructor
  case starts => exact sound.starts
  case size => exact sound.size
  case distinct =>
    show ((draft.entries ++ [pending.named name]).map DirectoryEntry.name).Nodup
    rw [List.map_append]
    apply sound.distinct.append (List.nodup_singleton _)
    intro other there here
    have same : other = name := List.mem_singleton.1 here
    exact contains_eq_false_iff.1 free (same ▸ there)
  case keeps => exact sound.keeps.accept stores
  case heldStored =>
    exact fun item member => sound.heldStored item (List.mem_cons_of_mem _ member)
  case apart =>
    have regrouped :
        (draft.entries ++ [pending.named name]).map stretchOf ++
            (held.map fun item => item.1.stretch) =
          draft.entries.map stretchOf ++
            (((pending, data) :: held).map fun item => item.1.stretch) := by
      rw [List.map_append, List.append_assoc]
      rfl
    show ((draft.entries ++ [pending.named name]).map stretchOf ++ _).Pairwise _
    rw [regrouped]
    exact sound.apart

/-- Without the latest octets everything else is kept. -/
theorem cut
    {pending : Pending}
    {data : Octets}
    (sound : draft.Sound accepted ((pending, data) :: held))
    (latest : draft.isLatest pending = true) :
    ({ draft with image := draft.image.take pending.offset } : Draft).Sound accepted held := by
  have ends : pending.offset + pending.storedLength = draft.image.length := beq_iff_eq.1 latest
  have short : pending.offset ≤ draft.image.length := by omega
  have others :
      ∀ stretch ∈ draft.entries.map stretchOf ++ held.map fun item => item.1.stretch,
        stretch.Within pending.offset := by
    intro stretch member
    have reordered :
        (pending.stretch ::
          (draft.entries.map stretchOf ++ held.map fun item => item.1.stretch)).Pairwise
          Stretch.Apart :=
      (List.perm_middle.pairwise_iff fun apart => apart.symm).1 sound.apart
    have apart := (List.pairwise_cons.1 reordered).1 stretch member
    have inside := sound.drop.within stretch member
    exact inside.cut apart.symm ends
  constructor
  case starts =>
    rcases sound.starts with ⟨flags, rest, image⟩
    have behind : headerLength ≤ pending.offset :=
      (sound.heldStored (pending, data) List.mem_cons_self).behindHeader
    refine ⟨flags, rest.take (pending.offset - headerLength), ?_⟩
    show draft.image.take pending.offset = _
    rw [image, List.take_append, length_header, List.take_of_length_le behind]
  case size =>
    show (draft.image.take pending.offset).length ≤ _
    rw [List.length_take]
    exact Nat.le_trans (Nat.min_le_right _ _) sound.size
  case distinct => exact sound.distinct
  case keeps =>
    apply sound.keeps.transfer
    intro entry member data stored
    apply stored.take _ short
    exact others _ (List.mem_append_left _ (List.mem_map_of_mem member))
  case heldStored =>
    intro item member
    apply (sound.heldStored item (List.mem_cons_of_mem _ member)).take _ short
    have place : item.1.stretch ∈ held.map fun item => item.1.stretch :=
      List.mem_map_of_mem member
    exact others _ (List.mem_append_right _ place)
  case apart => exact sound.drop.apart

/-! ## Operations -/

section Operations

variable [Zstd.Encoder]

/-- Octets from memory that were written are accepted under their name. -/
theorem write
    (sound : draft.Sound accepted held)
    {name : String}
    {data : Octets}
    {written : Draft}
    (writing : draft.write name data = .ok written) :
    written.Sound (accepted ++ [(name, data)]) held := by
  rcases write_eq_ok writing with ⟨form, free, packing, -, fits, rfl⟩
  have heldFirst := sound.append (pack?_restores packing) fits
  exact heldFirst.accept free

/-- Octets from a source that were written are held. -/
theorem stream
    (sound : draft.Sound accepted held)
    {source : Source}
    {pending : Pending}
    {streamed : Draft}
    (streaming : draft.stream source = .ok (pending, streamed)) :
    ∃ data, source.readAll = .ok data ∧ streamed.Sound accepted ((pending, data) :: held) := by
  rcases stream_eq_ok streaming with ⟨data, form, -, all, packing, fits, appended⟩
  cases appended
  exact ⟨data, all, sound.append (packStream?_restores packing) fits⟩

end Operations

/-- Discarded octets are held no more. -/
theorem discard
    {pending : Pending}
    {data : Octets}
    (sound : draft.Sound accepted ((pending, data) :: held))
    {shorter : Draft}
    (discarding : draft.discard pending = .ok shorter) :
    shorter.Sound accepted held := by
  rcases discard_eq_ok discarding with ⟨latest, -, rfl⟩
  exact sound.cut latest

/-- Committed octets are accepted under their name. -/
theorem commit_ok
    {pending : Pending}
    {data : Octets}
    (sound : draft.Sound accepted ((pending, data) :: held))
    {name : String}
    {committed : Draft}
    (committing : draft.commit pending name = (committed, .ok ())) :
    committed.Sound (accepted ++ [(name, data)]) held := by
  rcases commit_eq_ok committing with ⟨-, free, rfl⟩
  exact sound.accept free

/-! ## Finished drafts -/

/-- Sizes can be stated where names are short and the finished image is a file. -/
theorem sizes
    (sound : draft.Sound accepted held)
    (short : ∀ item ∈ accepted, (Octets.ofText item.1).length < Octets.bound 2)
    (fits : draft.sealedImage.length ≤ FileSystem.maximalFile) :
    draft.Sizes where
  entries := by
    intro entry member
    rcases sound.keeps.forall_entries entry member with ⟨data, stores⟩
    have named : entry.name ∈ accepted.map Prod.fst := by
      rw [← sound.keeps.names]
      exact List.mem_map_of_mem member
    rcases List.mem_map.1 named with ⟨item, inside, name⟩
    exact stores.fits (name ▸ short item inside)
  image := Nat.lt_of_le_of_lt fits maximalFile_lt

/-- A finished sound draft can be opened exactly if its entries end within its image. -/
theorem opens_iff
    (sound : draft.Sound accepted held)
    (short : ∀ item ∈ accepted, (Octets.ofText item.1).length < Octets.bound 2)
    (fits : draft.sealedImage.length ≤ FileSystem.maximalFile)
    (path : String)
    (verify : Bool) :
    (∃ container, ofImage path draft.sealedImage verify = .ok container) ↔
      ∀ entry ∈ draft.entries, entry.storedEnd ≤ draft.image.length := by
  apply ofImage_sealedImage_isOk_iff sound.starts (sound.sizes short fits) sound.distinct
  intro entry member
  rcases sound.keeps.forall_entries entry member with ⟨data, stores⟩
  exact stores.behindHeader

/-- Each entry of an opened finished draft is one of the draft, and stores what it stored there. -/
theorem stores_of_opened
    (sound : draft.Sound accepted held)
    (short : ∀ item ∈ accepted, (Octets.ofText item.1).length < Octets.bound 2)
    (fits : draft.sealedImage.length ≤ FileSystem.maximalFile)
    {path : String}
    {verify : Bool}
    {container : Container}
    (opening : ofImage path draft.sealedImage verify = .ok container) :
    container.entries.Perm draft.entries ∧
      ∀ entry data, Stores draft.image entry data → Stores container.image entry data := by
  rcases entries_of_ofImage_sealedImage (sound.sizes short fits) opening with
    ⟨image, -, entries⟩
  refine ⟨entries, ?_⟩
  intro entry data stores
  rw [image, sealedImage_eq]
  exact stores.append _

/-- An opened finished draft has the accepted names and serves the accepted data. -/
theorem opened
    (sound : draft.Sound accepted held)
    (short : ∀ item ∈ accepted, (Octets.ofText item.1).length < Octets.bound 2)
    (fits : draft.sealedImage.length ≤ FileSystem.maximalFile)
    {path : String}
    {verify : Bool}
    {container : Container}
    (opening : ofImage path draft.sealedImage verify = .ok container) :
    (container.entries.map DirectoryEntry.name).Perm (accepted.map Prod.fst) ∧
      ∀ item ∈ accepted, container.read item.1 = .ok item.2 := by
  rcases sound.stores_of_opened short fits opening with ⟨entries, kept⟩
  have names := entries.map DirectoryEntry.name
  have distinct : (container.entries.map DirectoryEntry.name).Nodup :=
    names.nodup_iff.2 sound.distinct
  constructor
  · rw [← sound.keeps.names]
    exact names
  · intro item member
    rcases sound.keeps.entry_of_accepted member with ⟨entry, inside, name, stores⟩
    have found := find?_of_nodup distinct (entries.mem_iff.2 inside)
    have stored := kept entry item.2 stores
    have checked :
        container.stored entry =
          .ok (Octets.slice container.image entry.offset entry.storedLength) := by
      rw [Container.stored, if_neg (fun damaged => damaged.2 stored.checksum)]
    rw [← name]
    exact read_eq_ok_iff.2 ⟨entry, found, checked, stored.expands⟩

/-- Whatever an opened finished draft reads, it streams. -/
theorem decodersAgreeOn_of_opened
    (sound : draft.Sound accepted held)
    (short : ∀ item ∈ accepted, (Octets.ofText item.1).length < Octets.bound 2)
    (fits : draft.sealedImage.length ≤ FileSystem.maximalFile)
    {path : String}
    {verify : Bool}
    {container : Container}
    (opening : ofImage path draft.sealedImage verify = .ok container)
    (name : String) :
    container.DecodersAgreeOn name := by
  rcases sound.stores_of_opened short fits opening with ⟨entries, kept⟩
  intro entry found
  have member := entries.mem_iff.1 (List.mem_of_find?_eq_some found)
  rcases sound.keeps.forall_entries entry member with ⟨data, stores⟩
  exact (kept entry data stores).decoders

end Sound

end Draft

end BuildCapture.Container
