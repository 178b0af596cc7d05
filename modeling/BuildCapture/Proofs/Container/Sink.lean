import BuildCapture.Container.Sink
import BuildCapture.Proofs.FileSystem.Handle

/-!
# What a sink does to the file

At any time the octets that a sink has taken in are in the file, behind what the
file held before, or in the buffer, in the order in which they came.  A copy
that succeeds has everything in the file that was handed out.  A copy that
fails may have any part of it there, but what the file held before is
untouched, also after the sink has been given up.
-/

namespace BuildCapture.Container.Sink

open FileSystem (Handle maximalFile)

/-- The file starts with what it held before. -/
def Keeps
    (handle : Handle)
    (route : Route)
    (base : Octets) :
    Prop :=
  ∃ more, handle.Holds route (base ++ more)

/--
The octets that a sink has taken in are in the file, behind what it held before,
and in the buffer, and all of them are counted.
-/
structure Carries
    (sink : Sink)
    (route : Route)
    (base taken : Octets) : Prop where
  placed : ∃ moved, sink.handle.Holds route (base ++ moved) ∧ taken = moved ++ sink.buffer
  register : sink.register = taken.foldl Crc32.absorb 0xFFFFFFFF
  written : sink.written = taken.length

/-- Octets do not fit into a file behind others. -/
def Overflows (base more : Octets) : Prop :=
  maximalFile < base.length + more.length

variable
  {sink after : Sink}
  {route : Route}
  {base taken data : Octets}
  {outcome : Except FileFault Unit}

theorem Overflows.append
    (overflows : Overflows base taken)
    (more : Octets) :
    Overflows base (taken ++ more) := by
  rw [Overflows, List.length_append, ← Nat.add_assoc]
  exact Nat.lt_add_right more.length overflows

theorem Overflows.of_file
    {moved : Octets}
    (overflows : maximalFile < (base ++ moved).length + data.length) :
    Overflows base (moved ++ data) := by
  rw [Overflows, List.length_append, ← Nat.add_assoc, ← List.length_append]
  exact overflows

/-- A sink starts with nothing taken in. -/
theorem carries_start
    {handle : Handle}
    (holds : handle.Holds route base) :
    ({ handle } : Sink).Carries route base [] := by
  constructor
  case placed =>
    refine ⟨[], ?_, rfl⟩
    rw [List.append_nil]
    exact holds
  case register => rfl
  case written => rfl

/-- What the file held before is still there after the sink has been given up. -/
theorem keeps_close
    (keeps : Keeps sink.handle route base) :
    Keeps sink.close route base := by
  rcases keeps with ⟨more, holds⟩
  cases writing : sink.handle.write sink.buffer with
  | mk handle left =>
    rcases holds.write writing with ⟨part, -, extended, -⟩
    rw [List.append_assoc] at extended
    refine ⟨more ++ part, ?_⟩
    rw [close, flush, writing]
    exact extended

namespace Carries

theorem keeps
    (carries : sink.Carries route base taken) :
    Keeps sink.handle route base := by
  rcases carries.placed with ⟨moved, holds, -⟩
  exact ⟨moved, holds⟩

/-- Flushing only moves octets, and moves all of them if there is room. -/
theorem flush
    (carries : sink.Carries route base taken)
    (flushing : sink.flush = (after, outcome)) :
    after.Carries route base taken ∧
      (outcome = .ok () ∧ after.buffer = [] ∨
        outcome = .error .tooLarge ∧ Overflows base taken) := by
  rcases carries with ⟨⟨moved, holds, rfl⟩, register, written⟩
  rw [Sink.flush] at flushing
  split at flushing
  next handle left writing =>
  cases flushing
  rcases holds.write writing with ⟨part, whole, extended, exceeds⟩
  rw [List.append_assoc] at extended
  refine ⟨⟨⟨moved ++ part, extended, ?_⟩, register, written⟩, ?_⟩
  · rw [whole, List.append_assoc]
  · cases left with
    | nil => exact Or.inl ⟨rfl, rfl⟩
    | cons octet rest => exact Or.inr ⟨rfl, .of_file (exceeds (List.cons_ne_nil octet rest))⟩

/-- The counts of a sink that has taken in more octets. -/
theorem count
    (carries : sink.Carries route base taken)
    (data : Octets) :
    (sink.count data).register = (taken ++ data).foldl Crc32.absorb 0xFFFFFFFF ∧
      (sink.count data).written = (taken ++ data).length := by
  constructor
  · show data.foldl Crc32.absorb sink.register = _
    rw [carries.register, List.foldl_append]
  · show sink.written + data.length = _
    rw [carries.written, List.length_append]

/-- Octets are taken in behind a buffer that is empty or has room for them. -/
theorem putBehind
    (carries : sink.Carries route base taken)
    (room : sink.buffer = [] ∨ sink.buffer.length + data.length ≤ capacity)
    (putting : sink.putBehind data = (after, outcome)) :
    outcome = .ok () ∧ after.Carries route base (taken ++ data) ∨
      outcome = .error .tooLarge ∧ Keeps after.handle route base ∧
        Overflows base (taken ++ data) := by
  rcases carries.count data with ⟨register, written⟩
  rcases carries.placed with ⟨moved, holds, whole⟩
  rw [Sink.putBehind] at putting
  split at putting
  · cases putting
    refine Or.inl ⟨rfl, ⟨moved, holds, ?_⟩, register, written⟩
    rw [whole, List.append_assoc]
  next long =>
  -- so many octets go past the buffer, which has to be empty then
  have nothing : sink.buffer = [] := by
    rcases room with nothing | room
    · exact nothing
    · exact List.length_eq_zero_iff.1 (by omega)
  rw [nothing, List.append_nil] at whole
  subst whole
  split at putting
  next handle left writing =>
  cases putting
  cases left with
  | nil =>
    have extended := holds.write_all writing
    rw [List.append_assoc] at extended
    refine Or.inl ⟨rfl, ⟨taken ++ data, extended, ?_⟩, register, written⟩
    show _ = taken ++ data ++ sink.buffer
    rw [nothing, List.append_nil]
  | cons octet rest =>
    rcases holds.write writing with ⟨part, -, extended, exceeds⟩
    rw [List.append_assoc] at extended
    exact Or.inr ⟨rfl, ⟨taken ++ part, extended⟩, .of_file (exceeds (List.cons_ne_nil octet rest))⟩

/-- Octets are taken in, or the file can not hold them. -/
theorem put
    (carries : sink.Carries route base taken)
    (putting : sink.put data = (after, outcome)) :
    outcome = .ok () ∧ after.Carries route base (taken ++ data) ∨
      outcome = .error .tooLarge ∧ Keeps after.handle route base ∧
        Overflows base (taken ++ data) := by
  rw [Sink.put] at putting
  split at putting
  · next room => exact carries.putBehind (Or.inr room) putting
  split at putting
  · next flushed fault flushing =>
    cases putting
    rcases carries.flush flushing with ⟨moved, ⟨done, -⟩ | ⟨full, overflows⟩⟩
    · cases done
    · cases full
      exact Or.inr ⟨rfl, moved.keeps, overflows.append data⟩
  · next flushed flushing =>
    rcases carries.flush flushing with ⟨moved, ⟨-, nothing⟩ | ⟨full, -⟩⟩
    · exact moved.putBehind (Or.inl nothing) putting
    · cases full

section Copying

variable
  {packing : Zstd.Packing}
  {fault : Option FileFault}
  {earlier pieces : List Octets}

/-- Behind the last piece the rest is taken in and flushed, or there is no room for it. -/
theorem copy_last
    (carries : sink.Carries route base taken)
    (copying : sink.copy packing none earlier [] = (after, outcome)) :
    (∃ out, outcome = .ok () ∧ packing.last? earlier = some out ∧
        after.Carries route base (taken ++ out) ∧ after.buffer = []) ∨
      ∃ cause, outcome = .error cause ∧ Keeps after.handle route base ∧
        ∀ out, packing.last? earlier = some out → Overflows base (taken ++ out) := by
  rw [Sink.copy] at copying
  split at copying
  · next stuck =>
    cases copying
    exact Or.inr ⟨_, rfl, carries.keeps, fun out handed => nomatch stuck.symm.trans handed⟩
  next out handed =>
  have only : ∀ other, packing.last? earlier = some other → other = out :=
    fun other handedToo => Option.some.inj (handedToo.symm.trans handed)
  split at copying
  · next full cause putting =>
    cases copying
    rcases carries.put putting with ⟨done, -⟩ | ⟨-, keeps, overflows⟩
    · cases done
    · exact Or.inr ⟨cause, rfl, keeps, fun other handedToo => only other handedToo ▸ overflows⟩
  next filled putting =>
  rcases carries.put putting with ⟨-, carriesAll⟩ | ⟨full, -⟩
  · rcases carriesAll.flush copying with ⟨moved, ⟨rfl, nothing⟩ | ⟨rfl, overflows⟩⟩
    · exact Or.inl ⟨out, rfl, handed, moved, nothing⟩
    · exact Or.inr ⟨_, rfl, moved.keeps, fun other handedToo => only other handedToo ▸ overflows⟩
  · cases full

/-- What is handed out for a piece is taken in before the next one, or there is no room for it. -/
theorem copy_piece
    {piece : Octets}
    (carries : sink.Carries route base taken)
    (copying : sink.copy packing fault earlier (piece :: pieces) = (after, outcome)) :
    (∃ out, ∃ filled : Sink, packing.next? earlier piece = some out ∧
        filled.Carries route base (taken ++ out) ∧
        filled.copy packing fault (earlier ++ [piece]) pieces = (after, outcome)) ∨
      ∃ cause, outcome = .error cause ∧ Keeps after.handle route base ∧
        ∀ out, packing.next? earlier piece = some out → Overflows base (taken ++ out) := by
  rw [Sink.copy] at copying
  split at copying
  · next stuck =>
    cases copying
    exact Or.inr ⟨_, rfl, carries.keeps, fun out handed => nomatch stuck.symm.trans handed⟩
  next out handed =>
  split at copying
  · next full cause putting =>
    cases copying
    rcases carries.put putting with ⟨done, -⟩ | ⟨-, keeps, overflows⟩
    · cases done
    · refine Or.inr ⟨cause, rfl, keeps, ?_⟩
      intro other handedToo
      cases handed.symm.trans handedToo
      exact overflows
  next filled putting =>
  rcases carries.put putting with ⟨-, carriesMore⟩ | ⟨full, -⟩
  · exact Or.inl ⟨out, filled, handed, carriesMore, copying⟩
  · cases full

/-- What is handed out altogether is what comes for the first piece and for the others. -/
theorem rest?_cons_eq_some_iff
    {piece rest : Octets} :
    packing.rest? earlier (piece :: pieces) = some rest ↔
      ∃ out others, packing.next? earlier piece = some out ∧
        packing.rest? (earlier ++ [piece]) pieces = some others ∧ out ++ others = rest := by
  rw [Zstd.Packing.rest?]
  cases packing.next? earlier piece with
  | none => simp
  | some out => simp [Option.map_eq_some_iff]

/--
A copy that succeeds has moved everything to the file that was handed out.  A
copy that fails leaves what the file held before; it fails exactly for a fault of
the reader, for octets that can not be packed, or for want of room.
-/
theorem copy
    (carries : sink.Carries route base taken)
    (copying : sink.copy packing fault earlier pieces = (after, outcome)) :
    (∃ rest, outcome = .ok () ∧ fault = none ∧ packing.rest? earlier pieces = some rest ∧
        after.Carries route base (taken ++ rest) ∧ after.buffer = []) ∨
      ∃ cause, outcome = .error cause ∧ Keeps after.handle route base ∧
        ∀ rest, fault = none → packing.rest? earlier pieces = some rest →
          Overflows base (taken ++ rest) := by
  induction pieces generalizing sink earlier taken with
  | nil =>
    cases fault with
    | some cause =>
      rw [Sink.copy] at copying
      cases copying
      exact Or.inr ⟨cause, rfl, carries.keeps, fun rest faultless => nomatch faultless⟩
    | none =>
      rcases carries.copy_last copying with
        ⟨out, done, handed, moved, nothing⟩ | ⟨cause, failed, keeps, reason⟩
      · exact Or.inl ⟨out, done, rfl, handed, moved, nothing⟩
      · exact Or.inr ⟨cause, failed, keeps, fun rest _ handed => reason rest handed⟩
  | cons piece pieces ih =>
    rcases carries.copy_piece copying with
      ⟨out, filled, handed, carriesMore, copyingOthers⟩ | ⟨cause, failed, keeps, reason⟩
    · rcases ih carriesMore copyingOthers with
        ⟨others, done, faultless, packs, moved, nothing⟩ | ⟨cause, failed, keeps, reason⟩
      · rw [List.append_assoc] at moved
        exact Or.inl ⟨out ++ others, done, faultless,
          rest?_cons_eq_some_iff.2 ⟨out, others, handed, packs, rfl⟩, moved, nothing⟩
      · refine Or.inr ⟨cause, failed, keeps, ?_⟩
        intro rest faultless packsRest
        rcases rest?_cons_eq_some_iff.1 packsRest with ⟨same, others, handedToo, packs, rfl⟩
        cases handed.symm.trans handedToo
        rw [← List.append_assoc]
        exact reason others faultless packs
    · refine Or.inr ⟨cause, failed, keeps, ?_⟩
      intro rest _ packsRest
      rcases rest?_cons_eq_some_iff.1 packsRest with ⟨out, others, handed, -, rfl⟩
      rw [← List.append_assoc]
      exact (reason out handed).append others

end Copying

/-- A flushed sink has everything in the file, with its checksum. -/
theorem flushed
    (carries : sink.Carries route base taken)
    (nothing : sink.buffer = []) :
    sink.handle.Holds route (base ++ taken) ∧ ~~~ sink.register = crc32 taken ∧
      sink.written = taken.length := by
  rcases carries.placed with ⟨moved, holds, whole⟩
  rw [nothing, List.append_nil] at whole
  subst whole
  exact ⟨holds, by rw [carries.register, crc32], carries.written⟩

end Carries

end BuildCapture.Container.Sink
