import BuildCapture.Octets

/-!
# Crews of workers

Several workers share a list of tasks, numbered from zero.  Each of them, again
and again, checks whether the work was cancelled, fetches the next number from
a shared counter and does that task; it stops once it sees the cancellation or
a number that no task has.  A schedule says in which order the workers take
their steps and when the work is cancelled; every interleaving is some
schedule.
-/

namespace BuildCapture

/-- What a worker does next. -/
inductive Worker where
  | checking
  | fetching
  | working (index : Nat)
  | stopped
deriving DecidableEq, Repr

/-- What doing a task yields: its outcome, the memory it leaves, and whether it cancels the work. -/
structure TaskReply (σ β : Type) where
  memory : σ
  cancels : Bool := false
  outcome : β

/-- Does the task with a number. -/
abbrev Task (σ β : Type) := Nat → σ → TaskReply σ β

/-- Workers, what they share, and the outcomes so far, the latest first. -/
structure Crew (σ β : Type) where
  memory : σ
  isCancelled : Bool
  next : Nat := 0
  workers : List Worker
  outcomes : List (Nat × β) := []

/-- Something that happens to a crew. -/
inductive CrewEvent where
  /-- A worker takes its next step. -/
  | step (worker : Nat)
  /-- The work is cancelled from outside. -/
  | cancel
deriving DecidableEq, Repr

namespace Crew

variable {σ β : Type}

/-- A crew before its first step. -/
def new
    (size : Nat)
    (memory : σ)
    (isCancelled : Bool) :
    Crew σ β where
  memory := memory
  isCancelled := isCancelled
  workers := List.replicate size .checking

/-- Lets a worker do something else next. -/
def setWorker
    (crew : Crew σ β)
    (worker : Nat)
    (state : Worker) :
    Crew σ β :=
  { crew with workers := crew.workers.set worker state }

/-- A worker finishes a task. -/
def finish
    (crew : Crew σ β)
    (worker index : Nat)
    (reply : TaskReply σ β) :
    Crew σ β where
  memory := reply.memory
  isCancelled := crew.isCancelled || reply.cancels
  next := crew.next
  workers := crew.workers.set worker .checking
  outcomes := (index, reply.outcome) :: crew.outcomes

/-- A worker takes its next step, where there are `count` tasks. -/
def step
    (count : Nat)
    (task : Task σ β)
    (crew : Crew σ β)
    (worker : Nat) :
    Crew σ β :=
  match crew.workers[worker]? with
  | none => crew
  | some .stopped => crew
  | some .checking => crew.setWorker worker (if crew.isCancelled then .stopped else .fetching)
  | some .fetching =>
    { crew.setWorker worker (if crew.next < count then .working crew.next else .stopped) with
      next := crew.next + 1 }
  | some (.working index) => crew.finish worker index (task index crew.memory)

/-- Something happens to a crew. -/
def handle
    (count : Nat)
    (task : Task σ β)
    (crew : Crew σ β) :
    CrewEvent → Crew σ β
  | .step worker => crew.step count task worker
  | .cancel => { crew with isCancelled := true }

/-- Everything on a schedule happens to a crew. -/
def run
    (count : Nat)
    (task : Task σ β)
    (crew : Crew σ β)
    (schedule : List CrewEvent) :
    Crew σ β :=
  schedule.foldl (handle count task) crew

/-- Whether every worker has stopped. -/
def isDone
    (crew : Crew σ β) :
    Bool :=
  crew.workers.all fun worker => worker == .stopped

/-- The workers take turns, often enough for one of them to do all tasks. -/
def turns
    (count size : Nat) :
    List CrewEvent :=
  (List.range (3 * count + 3)).flatMap fun _ => (List.range size).map .step

/-- The outcomes in the order of their tasks. -/
def sortedOutcomes
    (crew : Crew σ β) :
    List (Nat × β) :=
  crew.outcomes.mergeSort fun left right => left.1 ≤ right.1

end Crew

end BuildCapture
