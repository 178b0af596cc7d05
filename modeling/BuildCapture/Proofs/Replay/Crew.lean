import BuildCapture.Replay.Crew
import Mathlib.Data.List.Perm.Basic
import Mathlib.Logic.Function.Basic

/-!
# Crews under every schedule

Whatever the schedule, the tasks that are finished or running are exactly those
below the shared counter, each once: fetching a number adds the task that the
counter names, and finishing a task moves it from the running to the finished
ones.  A worker stops only after it has seen the cancellation or a number that
no task has.  So when all workers have stopped, the finished tasks are a prefix,
and without a cancellation they are all.

What doing a task preserves about the memory holds along every schedule, and
with it what this says about the outcomes.
-/

open scoped List

namespace BuildCapture

/-- The task that a worker is doing. -/
def Worker.index? : Worker → Option Nat
  | .working index => some index
  | _ => none

namespace Crew

variable {σ β : Type}

/-- The tasks that workers are doing. -/
def running
    (crew : Crew σ β) :
    List Nat :=
  crew.workers.filterMap Worker.index?

/-- The tasks that were fetched: the finished ones and those that workers are doing. -/
def attempted
    (crew : Crew σ β) :
    List Nat :=
  crew.outcomes.map Prod.fst ++ crew.running

/-- The work was cancelled at some moment of a schedule. -/
def CancelledDuring
    (count : Nat)
    (task : Task σ β)
    (crew : Crew σ β)
    (schedule : List CrewEvent) : Prop :=
  ∃ front back, schedule = front ++ back ∧ (crew.run count task front).isCancelled = true

/-- The tasks below the shared counter were fetched, and no worker stopped without a reason. -/
structure Regular
    (count size : Nat)
    (crew : Crew σ β) : Prop where
  size : crew.workers.length = size
  fetched : crew.attempted.Perm (List.range (min crew.next count))
  reasoned : .stopped ∈ crew.workers → crew.isCancelled = true ∨ count ≤ crew.next

/-! ## One worker among the others -/

/-- When a worker does something else next, what the others are doing stays the same. -/
theorem running_set
    {workers : List Worker}
    {worker : Nat}
    {old : Worker}
    (there : workers[worker]? = some old)
    (new : Worker) :
    ∃ others : List Nat,
      (workers.filterMap Worker.index?).Perm (old.index?.toList ++ others) ∧
        ((workers.set worker new).filterMap Worker.index?).Perm (new.index?.toList ++ others) := by
  rcases List.getElem?_eq_some_iff.1 there with ⟨inside, rfl⟩
  have split :
      ∀ (first : Worker) (rest : List Worker),
        (first :: rest).filterMap Worker.index? =
          first.index?.toList ++ rest.filterMap Worker.index? := by
    intro first rest
    rw [List.filterMap_cons]
    cases first.index? with
    | none => rfl
    | some index => rfl
  refine ⟨(workers.eraseIdx worker).filterMap Worker.index?, ?_, ?_⟩
  · rw [← split]
    exact (List.getElem_cons_eraseIdx_perm inside).symm.filterMap _
  · rw [← split]
    exact (List.set_perm_cons_eraseIdx inside new).filterMap _

/-- A worker that has stopped after a change had stopped before or was the one that changed. -/
theorem stopped_of_set
    {workers : List Worker}
    {worker : Nat}
    {new : Worker}
    (stopped : .stopped ∈ workers.set worker new) :
    .stopped ∈ workers ∨ new = .stopped := by
  rcases List.mem_or_eq_of_mem_set stopped with before | changed
  · exact Or.inl before
  · exact Or.inr changed.symm

/-! ## Single steps -/

namespace Regular

variable {count size : Nat} {crew : Crew σ β}

theorem new
    (count size : Nat)
    (memory : σ)
    (isCancelled : Bool) :
    (Crew.new size memory isCancelled : Crew σ β).Regular count size where
  size := List.length_replicate
  fetched := by
    have idle : (List.replicate size Worker.checking).filterMap Worker.index? = [] := by
      rw [List.filterMap_eq_nil_iff]
      intro worker member
      rw [List.eq_of_mem_replicate member]
      rfl
    rw [attempted, running, Crew.new, idle, Nat.zero_min]
    exact .refl _
  reasoned := by
    intro stopped
    cases List.eq_of_mem_replicate stopped

/-- A worker that does no task before and after a step leaves the fetched tasks as they are. -/
theorem setWorker
    (regular : crew.Regular count size)
    {worker : Nat}
    {old new : Worker}
    (there : crew.workers[worker]? = some old)
    (oldIdle : old.index? = none)
    (newIdle : new.index? = none)
    (reasoned : new = .stopped → crew.isCancelled = true ∨ count ≤ crew.next) :
    (crew.setWorker worker new).Regular count size where
  size := (List.length_set).trans regular.size
  fetched := by
    rcases running_set there new with ⟨others, before, after⟩
    rw [oldIdle] at before
    rw [newIdle] at after
    have same : (crew.setWorker worker new).running.Perm crew.running := after.trans before.symm
    exact (same.append_left _).trans regular.fetched
  reasoned := by
    intro stopped
    rcases stopped_of_set stopped with before | rfl
    · exact regular.reasoned before
    · exact reasoned rfl

/-- A worker fetches the number of a task, or stops because there is none. -/
theorem fetch
    (regular : crew.Regular count size)
    {worker : Nat}
    (there : crew.workers[worker]? = some .fetching) :
    Regular count size
      { crew.setWorker worker (if crew.next < count then .working crew.next else .stopped) with
        next := crew.next + 1 } := by
  by_cases remaining : crew.next < count
  · rw [if_pos remaining]
    constructor
    case size => exact (List.length_set).trans regular.size
    case fetched =>
      rcases running_set there (.working crew.next) with ⟨others, before, after⟩
      have fetched := regular.fetched
      rw [Nat.min_eq_left (Nat.le_of_lt remaining)] at fetched
      show (crew.outcomes.map Prod.fst ++ _).Perm (List.range (min (crew.next + 1) count))
      rw [Nat.min_eq_left remaining, List.range_succ]
      calc
        _ ~ crew.outcomes.map Prod.fst ++ (crew.next :: others) := after.append_left _
        _ ~ crew.next :: (crew.outcomes.map Prod.fst ++ others) := List.perm_middle
        _ ~ crew.next :: List.range crew.next :=
          (((before.append_left _).symm).trans fetched).cons _
        _ ~ List.range crew.next ++ [crew.next] := (List.perm_append_singleton _ _).symm
    case reasoned =>
      intro stopped
      rcases stopped_of_set stopped with before | different
      · rcases regular.reasoned before with cancelled | exhausted
        · exact Or.inl cancelled
        · exact absurd remaining (Nat.not_lt.2 exhausted)
      · cases different
  · rw [if_neg remaining]
    have exhausted : count ≤ crew.next := Nat.le_of_not_lt remaining
    have stopped : (crew.setWorker worker .stopped).Regular count size :=
      regular.setWorker there rfl rfl fun _ => Or.inr exhausted
    constructor
    case size => exact stopped.size
    case fetched =>
      have fetched : (crew.setWorker worker .stopped).attempted ~
          List.range (min crew.next count) := stopped.fetched
      rw [Nat.min_eq_right exhausted] at fetched
      show (crew.setWorker worker .stopped).attempted ~ List.range (min (crew.next + 1) count)
      rw [Nat.min_eq_right (Nat.le_succ_of_le exhausted)]
      exact fetched
    case reasoned => exact fun _ => Or.inr (Nat.le_succ_of_le exhausted)

/-- A worker finishes its task. -/
theorem finish
    (regular : crew.Regular count size)
    {worker index : Nat}
    (there : crew.workers[worker]? = some (.working index))
    (reply : TaskReply σ β) :
    (crew.finish worker index reply).Regular count size where
  size := (List.length_set).trans regular.size
  fetched := by
    rcases running_set there .checking with ⟨others, before, after⟩
    calc
      (crew.finish worker index reply).attempted
        ~ index :: (crew.outcomes.map Prod.fst ++ others) := (after.append_left _).cons index
      _ ~ crew.outcomes.map Prod.fst ++ (index :: others) := List.perm_middle.symm
      _ ~ crew.attempted := (before.append_left _).symm
      _ ~ List.range (min crew.next count) := regular.fetched
  reasoned := by
    intro stopped
    rcases stopped_of_set stopped with before | different
    · rcases regular.reasoned before with cancelled | exhausted
      · left
        show (crew.isCancelled || reply.cancels) = true
        rw [cancelled, Bool.true_or]
      · exact Or.inr exhausted
    · cases different

/-- Every event keeps a crew regular. -/
theorem handle
    (regular : crew.Regular count size)
    (task : Task σ β)
    (event : CrewEvent) :
    (crew.handle count task event).Regular count size := by
  cases event with
  | cancel => exact ⟨regular.size, regular.fetched, fun _ => Or.inl rfl⟩
  | step worker =>
    rw [Crew.handle, Crew.step]
    split
    · exact regular
    · exact regular
    · next there =>
      apply regular.setWorker there rfl
      · split
        · rfl
        · rfl
      · intro stopped
        left
        by_contra going
        rw [if_neg going] at stopped
        cases stopped
    · next there => exact regular.fetch there
    · next index there => exact regular.finish there (task index crew.memory)

/-- Every schedule keeps a crew regular. -/
theorem run
    (regular : crew.Regular count size)
    (task : Task σ β)
    (schedule : List CrewEvent) :
    (crew.run count task schedule).Regular count size := by
  induction schedule generalizing crew with
  | nil => exact regular
  | cons event rest ih => exact ih (regular.handle task event)

end Regular

/-! ## Crews that are done -/

/-- A cancellation is never taken back. -/
theorem isCancelled_run
    {count : Nat}
    {task : Task σ β}
    {crew : Crew σ β}
    (cancelled : crew.isCancelled = true)
    (schedule : List CrewEvent) :
    (crew.run count task schedule).isCancelled = true := by
  induction schedule generalizing crew with
  | nil => exact cancelled
  | cons event rest ih =>
    apply ih
    cases event with
    | cancel => rfl
    | step worker =>
      rw [handle, step]
      split
      · exact cancelled
      · exact cancelled
      · exact cancelled
      · exact cancelled
      · show (crew.isCancelled || _) = true
        rw [cancelled, Bool.true_or]

theorem cancelledDuring_iff
    {count : Nat}
    {task : Task σ β}
    {crew : Crew σ β}
    {schedule : List CrewEvent} :
    CancelledDuring count task crew schedule ↔
      (crew.run count task schedule).isCancelled = true := by
  constructor
  · rintro ⟨front, back, rfl, cancelled⟩
    rw [run, List.foldl_append]
    exact isCancelled_run cancelled back
  · intro cancelled
    exact ⟨schedule, [], (List.append_nil schedule).symm, cancelled⟩

theorem mem_sortedOutcomes
    {crew : Crew σ β}
    {item : Nat × β} :
    item ∈ crew.sortedOutcomes ↔ item ∈ crew.outcomes :=
  List.mem_mergeSort

/-- If the finished tasks are a prefix, sorting puts them in order. -/
theorem map_fst_sortedOutcomes
    {crew : Crew σ β}
    {length : Nat}
    (finished : crew.outcomes.map Prod.fst ~ List.range length) :
    crew.sortedOutcomes.map Prod.fst = List.range length := by
  have sorted : (crew.sortedOutcomes.map Prod.fst).Pairwise (· ≤ ·) := by
    rw [List.pairwise_map]
    have ordered : crew.sortedOutcomes.Pairwise
        fun left right : Nat × β => decide (left.1 ≤ right.1) = true :=
      List.pairwise_mergeSort (fun first second third => by simpa using Nat.le_trans)
        (fun first second => by simpa using Nat.le_total first.1 second.1) crew.outcomes
    exact ordered.imp fun inOrder => of_decide_eq_true inOrder
  have same : crew.sortedOutcomes.map Prod.fst ~ List.range length :=
    ((List.mergeSort_perm _ _).map Prod.fst).trans finished
  exact same.eq_of_pairwise (fun _ _ _ _ => Nat.le_antisymm) sorted List.pairwise_le_range

/-- When all workers have stopped, the finished tasks are a prefix, all of them unless cancelled. -/
theorem Regular.finished
    {count size : Nat}
    {crew : Crew σ β}
    (regular : crew.Regular count size)
    (staffed : 0 < size)
    (done : crew.isDone = true) :
    ∃ length, length ≤ count ∧ crew.outcomes.map Prod.fst ~ List.range length ∧
      (crew.isCancelled = false → length = count) := by
  rw [isDone, List.all_eq_true] at done
  have stopped : ∀ worker ∈ crew.workers, worker = .stopped :=
    fun worker member => beq_iff_eq.1 (done worker member)
  have idle : crew.running = [] := by
    rw [running, List.filterMap_eq_nil_iff]
    intro worker member
    rw [stopped worker member]
    rfl
  have finished := regular.fetched
  rw [attempted, idle, List.append_nil] at finished
  refine ⟨min crew.next count, Nat.min_le_right _ _, finished, ?_⟩
  intro going
  rw [← regular.size] at staffed
  rcases List.exists_mem_of_length_pos staffed with ⟨worker, member⟩
  rcases regular.reasoned (stopped worker member ▸ member) with cancelled | exhausted
  · rw [going] at cancelled
    cases cancelled
  · exact Nat.min_eq_right exhausted

/-! ## Memory and outcomes -/

/-- Tasks preserve a property of the memory, and have certain outcomes while it holds. -/
def Preserves (task : Task σ β) (Holds : σ → Prop) (Allowed : Nat → β → Prop) : Prop :=
  ∀ index memory, Holds memory →
    Holds (task index memory).memory ∧ Allowed index (task index memory).outcome

/--
What every task preserves about the memory holds after every schedule, and every
outcome is one that a task may have while it holds.
-/
theorem Preserves.outcomes_run
    {task : Task σ β}
    {Holds : σ → Prop}
    {Allowed : Nat → β → Prop}
    (preserved : Preserves task Holds Allowed)
    (count : Nat)
    {crew : Crew σ β}
    (holds : Holds crew.memory)
    (allowed : ∀ item ∈ crew.outcomes, Allowed item.1 item.2)
    (schedule : List CrewEvent) :
    Holds (crew.run count task schedule).memory ∧
      ∀ item ∈ (crew.run count task schedule).outcomes, Allowed item.1 item.2 := by
  induction schedule generalizing crew with
  | nil => exact ⟨holds, allowed⟩
  | cons event rest ih =>
    have stepped :
        Holds (crew.handle count task event).memory ∧
          ∀ item ∈ (crew.handle count task event).outcomes, Allowed item.1 item.2 := by
      cases event with
      | cancel => exact ⟨holds, allowed⟩
      | step worker =>
        rw [handle, step]
        split
        · exact ⟨holds, allowed⟩
        · exact ⟨holds, allowed⟩
        · exact ⟨holds, allowed⟩
        · exact ⟨holds, allowed⟩
        · next index there =>
          rcases preserved index crew.memory holds with ⟨still, outcome⟩
          refine ⟨still, ?_⟩
          intro item member
          rcases List.mem_cons.1 member with rfl | earlier
          · exact outcome
          · exact allowed item earlier
    exact ih stepped.1 stepped.2

/-! ## Taking turns -/

/--
How far a worker is after a number of its own steps: each three of them fetch a
number, and only the first `count` numbers are those of tasks.
-/
def Timely (count steps next : Nat) : Worker → Prop
  | .checking => ∃ fetched, steps = 3 * fetched ∧ fetched ≤ next ∧ fetched ≤ count
  | .fetching => ∃ fetched, steps = 3 * fetched + 1 ∧ fetched ≤ next ∧ fetched ≤ count
  | .working _ => ∃ fetched, steps = 3 * fetched + 2 ∧ fetched < next ∧ fetched < count
  | .stopped => True

theorem Timely.mono
    {count steps next later : Nat}
    (notEarlier : next ≤ later)
    {worker : Worker}
    (timely : Timely count steps next worker) :
    Timely count steps later worker := by
  cases worker with
  | checking =>
    rcases timely with ⟨fetched, taken, known, bounded⟩
    exact ⟨fetched, taken, Nat.le_trans known notEarlier, bounded⟩
  | fetching =>
    rcases timely with ⟨fetched, taken, known, bounded⟩
    exact ⟨fetched, taken, Nat.le_trans known notEarlier, bounded⟩
  | working index =>
    rcases timely with ⟨fetched, taken, known, bounded⟩
    exact ⟨fetched, taken, Nat.lt_of_lt_of_le known notEarlier, bounded⟩
  | stopped => trivial

/-- After enough steps, a worker has stopped. -/
theorem Timely.stopped
    {count next : Nat}
    {worker : Worker}
    (timely : Timely count (3 * count + 3) next worker) :
    worker = .stopped := by
  cases worker with
  | checking =>
    rcases timely with ⟨fetched, taken, -, bounded⟩
    omega
  | fetching =>
    rcases timely with ⟨fetched, taken, -, bounded⟩
    omega
  | working index =>
    rcases timely with ⟨fetched, taken, -, bounded⟩
    omega
  | stopped => rfl

/-- Every worker is as far as it is after its own number of steps. -/
def Punctual (count : Nat) (steps : Nat → Nat) (crew : Crew σ β) : Prop :=
  ∀ (worker : Nat) (state : Worker), crew.workers[worker]? = some state →
    Timely count (steps worker) crew.next state

/-- Where one worker is replaced, it is a step further, and the others are where they were. -/
theorem Punctual.replace
    {count : Nat}
    {steps : Nat → Nat}
    {before after : Crew σ β}
    (punctual : before.Punctual count steps)
    {worker : Nat}
    {new : Worker}
    (replaced : after.workers = before.workers.set worker new)
    (notEarlier : before.next ≤ after.next)
    (timely : Timely count (steps worker + 1) after.next new) :
    after.Punctual count (Function.update steps worker (steps worker + 1)) := by
  intro other state there
  rw [replaced] at there
  by_cases same : other = worker
  · subst same
    rw [Function.update_self]
    rw [List.getElem?_set_self'] at there
    rcases Option.map_eq_some_iff.1 there with ⟨-, -, rfl⟩
    exact timely
  · rw [Function.update_of_ne same]
    rw [List.getElem?_set_ne (Ne.symm same)] at there
    exact (punctual other state there).mono notEarlier

/-- A step brings its worker on and leaves the others alone. -/
theorem Punctual.step
    {count : Nat}
    {steps : Nat → Nat}
    {crew : Crew σ β}
    (punctual : crew.Punctual count steps)
    (task : Task σ β)
    (worker : Nat) :
    (crew.step count task worker).Punctual count
      (Function.update steps worker (steps worker + 1)) := by
  rw [Crew.step]
  split
  · next nothing =>
    intro other state there
    have different : other ≠ worker := by
      rintro rfl
      rw [nothing] at there
      cases there
    rw [Function.update_of_ne different]
    exact punctual other state there
  · next there =>
    have same : crew.workers = crew.workers.set worker .stopped := by
      rcases List.getElem?_eq_some_iff.1 there with ⟨inside, here⟩
      rw [← here, List.set_getElem_self]
    exact punctual.replace same (Nat.le_refl _) trivial
  · next there =>
    refine punctual.replace rfl (Nat.le_refl _) ?_
    rcases punctual worker _ there with ⟨fetched, taken, known, bounded⟩
    split
    · trivial
    · exact ⟨fetched, by rw [taken], known, bounded⟩
  · next there =>
    refine punctual.replace rfl (Nat.le_succ _) ?_
    rcases punctual worker _ there with ⟨fetched, taken, known, bounded⟩
    split
    · next remaining =>
      exact ⟨fetched, by rw [taken], Nat.lt_succ_of_le known, Nat.lt_of_le_of_lt known remaining⟩
    · trivial
  · next index there =>
    refine punctual.replace rfl (Nat.le_refl _) ?_
    rcases punctual worker _ there with ⟨fetched, taken, known, bounded⟩
    exact ⟨fetched + 1, by rw [taken]; rfl, known, bounded⟩

/-- Within a round, the workers that have had their turn are a step ahead. -/
theorem Punctual.turns
    {count rounds : Nat}
    {crew : Crew σ β}
    (punctual : crew.Punctual count fun _ => rounds)
    (task : Task σ β)
    (taken : Nat) :
    (crew.run count task ((List.range taken).map .step)).Punctual count
      fun worker => if worker < taken then rounds + 1 else rounds := by
  induction taken with
  | zero => exact punctual
  | succ taken ih =>
    have last :
        crew.run count task ((List.range (taken + 1)).map .step) =
          (crew.run count task ((List.range taken).map .step)).step count task taken := by
      rw [List.range_succ, List.map_append, run, List.foldl_append]
      rfl
    have stepped := ih.step task taken
    rw [last]
    intro worker state there
    have timely := stepped worker state there
    by_cases same : worker = taken
    · subst same
      rw [Function.update_self, if_neg (Nat.lt_irrefl worker)] at timely
      simp only [Nat.lt_succ_self, if_true]
      exact timely
    · have unchanged : worker < taken + 1 ↔ worker < taken := by
        omega
      rw [Function.update_of_ne same] at timely
      simp only [unchanged]
      exact timely

/-- A round brings every worker on. -/
theorem Punctual.round
    {count rounds size : Nat}
    {crew : Crew σ β}
    (punctual : crew.Punctual count fun _ => rounds)
    (regular : crew.Regular count size)
    (task : Task σ β) :
    (crew.run count task ((List.range size).map .step)).Punctual count fun _ => rounds + 1 := by
  intro worker state there
  have timely := punctual.turns task size worker state there
  have inside := (List.getElem?_eq_some_iff.1 there).1
  rw [(regular.run task _).size] at inside
  simp only [inside, if_true] at timely
  exact timely

/-- If the workers take turns, all of them stop. -/
theorem isDone_turns
    (count size : Nat)
    (task : Task σ β)
    (memory : σ)
    (isCancelled : Bool) :
    ((Crew.new size memory isCancelled : Crew σ β).run count task
      (turns count size)).isDone = true := by
  have rounds :
      ∀ rounds : Nat,
        ((Crew.new size memory isCancelled : Crew σ β).run count task
          ((List.range rounds).flatMap fun _ => (List.range size).map .step)).Punctual count
            fun _ => rounds := by
    intro rounds
    induction rounds with
    | zero =>
      intro worker state there
      cases List.eq_of_mem_replicate (List.mem_of_getElem? there)
      exact ⟨0, rfl, Nat.le_refl 0, Nat.zero_le count⟩
    | succ rounds ih =>
      rw [List.range_succ, List.flatMap_append, run, List.foldl_append]
      have last := ih.round ((Regular.new count size memory isCancelled).run task _) task
      rw [List.flatMap_singleton]
      exact last
  rw [isDone, List.all_eq_true]
  intro worker member
  rcases List.getElem?_of_mem member with ⟨position, there⟩
  rw [(rounds (3 * count + 3) position worker there).stopped]
  rfl

end Crew

end BuildCapture
