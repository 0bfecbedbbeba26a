import FleetScript.Queue
import FleetScript.Runner.Compile

/-!
Dispatching: the hosts of a runner are compiled one by one and their sequences put into the work
queue, while the queue's workers run them. A slot is reserved before a host is compiled, and
given back if the host has no sequence. Hosts whose protocol is not spoken are skipped, hosts
whose script fails are recorded, and any other failure stops the dispatch.
-/

namespace FleetScript

open Session

/-- What became of the hosts: how many sequences were submitted, the hosts skipped, and those
whose script failed with the text of the failure. -/
structure Summary where
  submitted : Nat := 0
  skipped : List String := []
  failed : List (String × String) := []
  deriving DecidableEq

/-- A dispatch while it goes on: the hosts to come, why it was stopped if it was, the queue, what
has become of hosts and sequences so far, the disk, what the user was told, and the states in
which the transports were left. -/
structure Dispatch (σ : Type) where
  hosts : List Host.Entry
  stopped : Option RunnerError := none
  queue : Queue Sequence
  summary : Summary := {}
  disk : Disk
  notices : List Notice := []
  sessions : List σ := []
  reports : List Report := []

namespace Dispatch

/-- What may happen in a dispatch: a slot is reserved for the next host, the next host is
handled, a sequence is run, a task moves by itself, or a report is collected. -/
inductive Event where
  | reserve
  | handle
  | run (ticket : Nat)
  | move (ticket : Nat) (m : Move)
  | collect
  deriving DecidableEq

section Steps

variable {σ : Type} (r : Runner) (o : Options) (name : String) (t : Transport σ)

/-- The queue after an event of its own, in its dispatch. -/
def queueStep? (d : Dispatch σ) (e : Queue.Event Sequence) : Option (Dispatch σ) :=
  (d.queue.step? e).map fun q => { d with queue := q }

/-- Handles the next host, for which a slot is held. -/
def handle? (d : Dispatch σ) : Option (Dispatch σ) :=
  match d.stopped, d.hosts with
  | none, entry :: hosts =>
    let d := { d with hosts }
    match r.compile d.disk { maxThreads := d.queue.workers, name } entry o with
    | .ok (.plan p) =>
      ({ d with summary := { d.summary with submitted := d.summary.submitted + 1 } } :
        Dispatch σ).queueStep? (.submit p.name p.sequence)
    | .ok (.unsupported protocol) =>
      ({ d with
        summary := { d.summary with skipped := d.summary.skipped ++ [entry.raw] }
        notices := d.notices ++ [.warned (unsupportedWarning protocol entry.raw)] } :
        Dispatch σ).queueStep? .drop
    | .error (.script cause) =>
      ({ d with
        summary := { d.summary with failed := d.summary.failed ++ [(entry.raw, cause.message)] }
        notices := d.notices ++
          [.warned ("Failed to compile script for " ++ entry.raw ++ ": " ++ cause.message)] } :
        Dispatch σ).queueStep? .drop
    | .error cause => ({ d with stopped := some cause } : Dispatch σ).queueStep? .drop
  | _, _ => none

/-- Runs the sequence of a task that has a worker. -/
def run? (d : Dispatch σ) (ticket : Nat) : Option (Dispatch σ) :=
  match d.queue.task? ticket with
  | none => none
  | some task =>
    let out := Session.run t task.job d.disk
    (d.queueStep? (.finish ticket (.report out.report))).map fun d =>
      { d with
        disk := out.disk
        notices := d.notices ++ out.notices
        sessions := d.sessions ++ [out.state] }

/-- Collects a report, once no host is to come. -/
def collect? (d : Dispatch σ) : Option (Dispatch σ) :=
  if d.stopped.isNone && !d.hosts.isEmpty then none
  else
    match d.queue.finished with
    | (_, report) :: _ =>
      (d.queueStep? .collect).map fun d => { d with reports := d.reports ++ [report] }
    | [] => none

/-- The dispatch after an event, or nothing if the event cannot happen. -/
def step? (d : Dispatch σ) : Event → Option (Dispatch σ)
  | .reserve =>
    if d.stopped.isNone && !d.hosts.isEmpty && d.queue.held = 0 then d.queueStep? .reserve
    else none
  | .handle => if d.queue.held = 0 then none else handle? r o name d
  | .run ticket => run? t d ticket
  | .move ticket m => d.queueStep? (.move ticket m)
  | .collect => d.collect?

/-- The states that a dispatch can come to from `d`. -/
inductive Reaches (d : Dispatch σ) : Dispatch σ → Prop where
  | refl : Reaches d d
  | step {d' d'' : Dispatch σ} (h : Reaches d d') (e : Event)
      (he : step? r o name t d' e = some d'') : Reaches d d''

/-! ### One order of events -/

/-- The next event in the order that is carried out: tasks that wait for nothing move on, then the
next host is handled while a slot is free, then waiting tasks take permits, then the first task
that runs is run, and then reports are collected. -/
def next? (d : Dispatch σ) : Option Event :=
  (d.queue.tasks.findSome? fun task => task.stage.due?.map fun m => .move task.ticket m).or <|
  (if d.stopped.isSome || d.hosts.isEmpty then none
    else if d.queue.held ≠ 0 then some .handle
    else if 0 < d.queue.slots.free then some .reserve
    else none).or <|
  (if 0 < d.queue.permits.free then
    (d.queue.tasks.find? (·.stage = .waiting)).map fun task => .move task.ticket .enter
  else none).or <|
  ((d.queue.tasks.find? (·.stage = .running)).map fun task => .run task.ticket).or <|
  (if d.queue.finished.isEmpty then none else some .collect)

/-- Takes events in that order, up to a number of them. -/
def proceed : Nat → Dispatch σ → Dispatch σ
  | 0, d => d
  | n + 1, d =>
    match d.next?.bind (step? r o name t d) with
    | some d' => proceed n d'
    | none => d

/-- Dispatches the hosts of a runner to an empty queue of `threads` workers and joins it. A host
takes eleven events at most. -/
def complete (threads : Nat) (disk : Disk) : Dispatch σ :=
  let hosts := r.registry.entries
  proceed r o name t (11 * hosts.length)
    { hosts
      stopped := if r.script.isNone then some .notLoaded else none
      queue := Queue.new threads
      disk }

end Steps

/-- What dispatching came to: what became of the hosts, or why it was stopped. -/
def result {σ : Type} (d : Dispatch σ) : Except RunnerError Summary :=
  match d.stopped with
  | some cause => .error cause
  | none => .ok d.summary

end Dispatch

end FleetScript
