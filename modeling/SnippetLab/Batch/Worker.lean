import SnippetLab.Batch.Engine

/-!
# The batch worker

A worker takes requests and changes of settings into a queue and works them off beside its
callers, in the order they came.  Once it has been shut down the queue is empty and **nothing more
is accepted**.
-/

namespace SnippetLab.Batch

/-- What waits in a worker's queue. -/
inductive Job where
  | run (request : Request)
  | configure (settings : Settings)
  deriving Repr, DecidableEq

/-- A batch engine with a queue in front of it. -/
structure Worker where
  engine : Engine
  /-- Jobs accepted and not yet done, oldest first. -/
  queue : List Job
  /-- Is work still accepted? -/
  isOpen : Bool
  /-- The reports handed back so far, oldest first. -/
  delivered : List Report
  deriving Repr, DecidableEq

namespace Worker

/-- A worker with nothing to do. -/
def start (engine : Engine) : Worker := ⟨engine, [], true, []⟩

/-- Queue a job. -/
def accept (w : Worker) (job : Job) : Except RunError Worker :=
  if w.isOpen then .ok { w with queue := w.queue ++ [job] } else .error .workerGone

/-- **Queue a request.** -/
def submit (w : Worker) (request : Request) : Except RunError Worker := w.accept (.run request)

/-- **Queue a change of settings**, for the requests after it. -/
def configure (w : Worker) (settings : Settings) : Except RunError Worker :=
  w.accept (.configure settings)

/-- Do one job: a request is run and its report handed back. -/
def perform (w : Worker) : Job → Worker
  | .run request =>
    let (report, engine) := w.engine.run request
    { w with engine, delivered := w.delivered ++ [report] }
  | .configure settings => { w with engine := { w.engine with settings } }

/-- Do the oldest job in the queue, if there is one. -/
def work (w : Worker) : Worker :=
  match w.queue with
  | [] => w
  | job :: rest => { w with queue := rest }.perform job

/-- **Finish the queue and accept nothing more.** -/
def shutdown (w : Worker) : Worker :=
  w.queue.foldl perform { w with queue := [], isOpen := false }

end Worker

end SnippetLab.Batch
