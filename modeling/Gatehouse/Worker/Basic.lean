import Gatehouse.Net.Machine
import Gatehouse.Worker.Gate
import Gatehouse.Worker.Options
import Gatehouse.Worker.Tasks

namespace Gatehouse

/-!
# Workers

The threads that the listeners of a server share, with the gates that limit connections and
handlers.

* `Worker.create` — a running worker; thread counts have to be positive;
* `Worker.call` — a handler behind the worker's task gate;
* `Worker.shutdown`.
-/

/-- Threads and gates shared by listeners. -/
structure Worker where
  options : Worker.Options
  connections : Worker.Gate
  tasks : Worker.TaskGate
  isRunning : Bool
  deriving DecidableEq, Repr, Inhabited

namespace Worker

/-- Why there is no worker. -/
inductive WorkerFault where
  | noThreads
  | refused (reason : String)
  deriving DecidableEq, Repr, Inhabited

/-- The wording of a worker fault. -/
def WorkerFault.message : WorkerFault → String
  | .noThreads => "thread counts must be positive"
  | .refused reason => reason

/-- A worker fault as an error of the server. -/
def WorkerFault.error (f : WorkerFault) : ServerError := .start (.worker f.message)

/-- A worker whose threads have started. -/
def ofOptions (o : Options) : Worker :=
  ⟨o, .start o.highWater o.lowWater, .ofThreads o.workerThreads, true⟩

/-- Starts the threads for input and output, then those for handlers. -/
def create (m : Net.Machine) (o : Options) : Except WorkerFault Worker × Net.Machine :=
  if o.ioThreads = 0 || o.workerThreads = 0 then (.error .noThreads, m)
  else
    let (io, m) := m.startThreads
    match io with
    | some reason => (.error (.refused reason), m)
    | none =>
      let (handlers, m) := m.startThreads
      match handlers with
      | some reason => (.error (.refused reason), m)
      | none => (.ok (ofOptions o), m)

/-- Whether the worker still runs, as a result. -/
def handle (w : Worker) : Except ServerError Unit :=
  if w.isRunning then .ok () else .error (.lifecycle .workerShutdown)

/-- Stops the threads without waiting for what they are doing. -/
def shutdown (w : Worker) : Worker := { w with tasks := w.tasks.close, isRunning := false }

/-- Calls a handler through the task gate. -/
def call (w : Worker) (inner : Handler) (request : Http.Request) : Run × Worker :=
  let (run, tasks) := w.tasks.call inner request
  (run, { w with tasks := tasks })

@[simp] theorem handle_ofOptions (o : Options) : (ofOptions o).handle = .ok () := rfl

@[simp] theorem handle_shutdown (w : Worker) :
    w.shutdown.handle = .error (.lifecycle .workerShutdown) := rfl

end Worker

end Gatehouse
