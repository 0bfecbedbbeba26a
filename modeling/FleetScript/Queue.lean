import FleetScript.Session.Run

/-!
The work queue: at most as many sequences run at once as there are workers, and at most twice as
many are queued or running. A caller reserves a slot and submits a sequence into it. The task of
a sequence waits for a worker permit, runs, gives the permit back, tells the report to the
listener, leaves the count of the queue, frees its slot, and comes to its end; joining collects
the reports of such tasks in the order in which they came to it. Each of these is one event, and
events of different tasks may come in any order that their conditions allow.
-/

namespace FleetScript

open Session

/-! ### Semaphores -/

/-- A semaphore: its free permits, and whether it is closed. -/
structure Semaphore where
  free : Nat
  closed : Bool := false
  deriving DecidableEq

namespace Semaphore

/-- The semaphore with a permit taken, or nothing if none is given out. -/
def take? (s : Semaphore) : Option Semaphore :=
  if 0 < s.free ∧ s.closed = false then some { s with free := s.free - 1 } else none

def give (s : Semaphore) : Semaphore := { s with free := s.free + 1 }

end Semaphore

/-! ### Tasks -/

/-- How far a task has come. From `returned` on it has its report; up to there it keeps its
worker permit, once it has one. -/
inductive Stage where
  | waiting
  | entered
  | running
  | returned (r : Report)
  | released (r : Report)
  | announced (r : Report)
  | uncounted (r : Report)
  | freed (r : Report)
  deriving DecidableEq

/-- A submitted sequence: its number among all submitted ones, its host, and how far its task has
come. -/
structure Task (α : Type) where
  ticket : Nat
  host : String
  job : α
  stage : Stage := .waiting

/-- How the run of a sequence ended. A panic comes with the text of the error that waiting for the
run gives. -/
inductive Ending where
  | report (r : Report)
  | panic (cause : String)
  deriving DecidableEq

/-- The text for a run that panicked. -/
def panicText (cause : String) : String := "worker panicked: " ++ cause

/-- The report for a run: its own, or that its worker panicked. -/
def Ending.reportFor (host : String) : Ending → Report
  | report r => r
  | panic cause => { host, commands := 0, error := some (panicText cause) }

/-- The report for a sequence that finds the queue closed. -/
def closedReport (host : String) : Report :=
  { host, commands := 0, error := some "Work queue is closed" }

/-- What a task does by itself. -/
inductive Move where
  | enter
  | turnAway
  | launch
  | release
  | announce
  | uncount
  | free
  | complete
  deriving DecidableEq

def Stage.due? : Stage → Option Move
  | waiting => none
  | entered => some .launch
  | running => none
  | returned _ => some .release
  | released _ => some .announce
  | announced _ => some .uncount
  | uncounted _ => some .free
  | freed _ => some .complete

/-! ### States and events -/

/-- A work queue. `held` slots are reserved and not yet submitted into; `announced` is what the
listener has been told, `finished` what joining has yet to collect, `joining` what it has
collected so far, and `joined` what it gave whenever it came to its end, all with the numbers of
the tasks. -/
structure Queue (α : Type) where
  workers : Nat
  slots : Semaphore
  permits : Semaphore
  held : Nat := 0
  length : Nat := 0
  submitted : Nat := 0
  tasks : List (Task α) := []
  announced : List (Nat × Report) := []
  finished : List (Nat × Report) := []
  joining : List (Nat × Report) := []
  joined : List (List (Nat × Report)) := []

/-- What may happen to a queue. Events of tasks name the number of the task; `refuse` is a
reservation that finds the queue closed. -/
inductive Queue.Event (α : Type) where
  | reserve
  | refuse
  | drop
  | submit (host : String) (job : α)
  | move (ticket : Nat) (m : Move)
  | finish (ticket : Nat) (ending : Ending)
  | collect
  | join

namespace Queue

variable {α : Type}

/-- An empty queue; without workers it has one. -/
def new (workers : Nat) : Queue α :=
  let n := max workers 1
  { workers := n, slots := { free := 2 * n }, permits := { free := n } }

def task? (q : Queue α) (ticket : Nat) : Option (Task α) := q.tasks.find? (·.ticket = ticket)

def put (q : Queue α) (ticket : Nat) (stage : Stage) : Queue α :=
  { q with tasks := q.tasks.map fun t => if t.ticket = ticket then { t with stage } else t }

/-- The queue after a move of a task, or nothing if the task is not that far or has to wait. -/
def move? (q : Queue α) (t : Task α) (m : Move) : Option (Queue α) :=
  match m, t.stage with
  | .enter, .waiting =>
    q.permits.take?.map fun permits => ({ q with permits } : Queue α).put t.ticket .entered
  | .turnAway, .waiting =>
    if q.permits.closed then some (q.put t.ticket (.released (closedReport t.host))) else none
  | .launch, .entered => some (q.put t.ticket .running)
  | .release, .returned r =>
    some (({ q with permits := q.permits.give } : Queue α).put t.ticket (.released r))
  | .announce, .released r =>
    some (({ q with announced := q.announced ++ [(t.ticket, r)] } : Queue α).put t.ticket
      (.announced r))
  | .uncount, .announced r =>
    some (({ q with length := q.length - 1 } : Queue α).put t.ticket (.uncounted r))
  | .free, .uncounted r =>
    some (({ q with slots := q.slots.give } : Queue α).put t.ticket (.freed r))
  | .complete, .freed r =>
    some { q with
      tasks := q.tasks.filter (·.ticket ≠ t.ticket)
      finished := q.finished ++ [(t.ticket, r)] }
  | _, _ => none

/-- The queue after an event, or nothing if the event cannot happen. -/
def step? (q : Queue α) : Event α → Option (Queue α)
  | .reserve => q.slots.take?.map fun slots => { q with slots, held := q.held + 1 }
  | .refuse => if q.slots.closed then some q else none
  | .drop =>
    if 0 < q.held then some { q with slots := q.slots.give, held := q.held - 1 } else none
  | .submit host job =>
    if 0 < q.held then
      some { q with
        held := q.held - 1
        length := q.length + 1
        submitted := q.submitted + 1
        tasks := q.tasks ++ [{ ticket := q.submitted, host, job }] }
    else none
  | .move ticket m => (q.task? ticket).bind fun t => q.move? t m
  | .finish ticket ending =>
    (q.task? ticket).bind fun t =>
      if t.stage = .running then some (q.put ticket (.returned (ending.reportFor t.host)))
      else none
  | .collect =>
    match q.finished with
    | x :: rest => some { q with finished := rest, joining := q.joining ++ [x] }
    | [] => none
  | .join =>
    if q.tasks.isEmpty && q.finished.isEmpty then
      some { q with joining := [], joined := q.joined ++ [q.joining] }
    else none

/-- The queue after events, or nothing if one of them cannot happen. -/
def run? (q : Queue α) (es : List (Event α)) : Option (Queue α) := es.foldlM step? q

/-! ### Coming to rest -/

/-- The next event that needs no one from outside: a task that has run goes on to its end, or one
with a permit runs, or the first waiting one takes a free permit. -/
def internal? (q : Queue α) : Option (Event α) :=
  (q.tasks.findSome? fun t => t.stage.due?.map fun m => .move t.ticket m).or <|
  (if 0 < q.permits.free then
    (q.tasks.find? (·.stage = .waiting)).map fun t => .move t.ticket .enter
  else none)

/-- Takes internal events, up to a number of them. -/
def settleFor : Nat → Queue α → Queue α
  | 0, q => q
  | n + 1, q =>
    match q.internal?.bind q.step? with
    | some q' => settleFor n q'
    | none => q

/-- Takes internal events until none is left; a task has seven of them at most. -/
def settle (q : Queue α) : Queue α := settleFor (7 * q.tasks.length) q

def running (q : Queue α) : List (Task α) := q.tasks.filter (·.stage = .running)

end Queue

end FleetScript
