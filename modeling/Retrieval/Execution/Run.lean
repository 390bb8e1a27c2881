/-
  Retrieval/Execution/Run.lean
  ============================
  **Executing one search.**

  An execution is described by its *trace*: the list of what happened, in order.  A
  search that has no request in the syntax of the backend fails before anything
  happens.  Otherwise the trace begins with a report of the start and the request, and
  ends with one report of the outcome.

  Time is virtual.  A backend that answers does so after a delay.  An answer that comes
  after the timeout is not heard: the execution has ended when the timeout had passed.
-/
import Retrieval.Execution.Backend
import Retrieval.Execution.Config
import Retrieval.Results.Processing

namespace Retrieval

/-! ### What is executed -/

/-- A search with what is to become of its answer. -/
structure Job (α : Type) where
  search : Search
  projection : Projection α
  transform : Option Transform

/-- The job that returns the documents as they are. -/
def Search.job (s : Search) : Job Document := ⟨s, .ok, none⟩

/-- How a backend reacts to a request. -/
inductive Reply (B : Type) where
  /-- It answers with a body. -/
  | body (b : B)
  /-- The transport reports a failure. -/
  | failure (e : Failure)
  /-- It never answers. -/
  | silence

/-! ### What happens -/

/-- A request as the transport sees it. -/
structure Request where
  index : String
  text : String
  timeout : Duration
deriving DecidableEq, Repr

/-- What a report is about. -/
structure QueryEvent where
  backend : String
  index : String
  /-- The text of the request. -/
  request : String
deriving DecidableEq, Repr

/-- What a report says. -/
inductive Progress where
  | started
  | succeeded (totalFound : UInt64) (returned : Nat)
  | failed (error : Failure)
deriving DecidableEq

/-- Something that happens during an execution. -/
inductive Occurrence where
  /-- A request goes to the transport. -/
  | sent (request : Request)
  /-- A report, with the time since the start. -/
  | reported (event : QueryEvent) (progress : Progress) (elapsed : Duration)
  /-- A notice about the documents of an answer. -/
  | noted (notice : Notice)
deriving DecidableEq

def Occurrence.request? : Occurrence → Option Request
  | .sent request => some request
  | _ => none

def Occurrence.report? : Occurrence → Option (QueryEvent × Progress)
  | .reported event progress _ => some (event, progress)
  | _ => none

/-- What the transport is asked in the course of a trace. -/
def requestsOf (trace : List Occurrence) : List Request := trace.filterMap Occurrence.request?

/-- What a logger is told in the course of a trace. -/
def reportsOf (trace : List Occurrence) : List (QueryEvent × Progress) :=
  trace.filterMap Occurrence.report?

/-! ### Executors -/

/-- A backend with a configuration. -/
structure Executor (Q B : Type) where
  backend : Backend Q B
  config : Config

/-- A request that is ready to be sent. -/
structure Prepared (Q : Type) where
  query : Q
  event : QueryEvent
  timeout : Duration

namespace Prepared

variable {Q B α : Type}

def opening (p : Prepared Q) : List Occurrence :=
  [.reported p.event .started .zero, .sent ⟨p.event.index, p.event.request, p.timeout⟩]

def progressOf : Except Failure (Response α) → Progress
  | .ok response => .succeeded response.totalFound response.size
  | .error e => .failed e

/-- What happens once the outcome is known. -/
def closing (p : Prepared Q) (outcome : Except Failure (Response α)) (elapsed : Duration) :
    List Occurrence :=
  [.reported p.event (progressOf outcome) elapsed]

/-- The failure of a request that was not answered in time. -/
def timedOut (p : Prepared Q) : Failure := .timeout p.timeout.millis p.event.request

/-- What is heard of a reply that comes after a delay. -/
def heard (p : Prepared Q) (delay : Duration) (reply : Reply B) : Reply B :=
  if delay ≤ p.timeout then reply else .silence

end Prepared

namespace Executor

variable {Q B α : Type}

/-- The executor with the standard configuration. -/
def standard (backend : Backend Q B) : Executor Q B := ⟨backend, .standard⟩

/-- The executor with the given configuration, if it can work. -/
def ofConfig (backend : Backend Q B) (config : Config) : Except Failure (Executor Q B) := do
  config.validate
  pure ⟨backend, config⟩

/-- The request of a search.  A timeout given by the caller goes before the configured
    one. -/
def prepare (e : Executor Q B) (s : Search) (timeout : Option Duration) :
    Except Failure (Prepared Q) := do
  let query ← e.backend.compile s
  pure ⟨query, ⟨e.backend.name, s.index, e.backend.text query⟩, timeout.getD e.config.timeout⟩

/-- The outcome of a request that was answered by a body, and what there is to note. -/
def digest (e : Executor Q B) (job : Job α) (p : Prepared Q) (body : B) :
    Except Failure (Response α) × List Notice :=
  match e.backend.read p.query body with
  | .error failure => (.error failure, [])
  | .ok results =>
    (job.search.processResults job.projection job.transform results,
      job.search.notices results.docs)

/-- The outcome of a request and what happens until it is known, where a reply that is
    heard comes after the given time. -/
def settle (e : Executor Q B) (job : Job α) (p : Prepared Q) (elapsed : Duration) :
    Reply B → Except Failure (Response α) × List Occurrence
  | .body body =>
    let (outcome, notices) := e.digest job p body
    (outcome, notices.map .noted ++ p.closing outcome elapsed)
  | .failure failure =>
    (.error failure, p.closing (.error failure : Except Failure (Response α)) elapsed)
  | .silence =>
    (.error p.timedOut, p.closing (.error p.timedOut : Except Failure (Response α)) p.timeout)

/-- Execute a job whose request meets the given reply after a delay. -/
def run (e : Executor Q B) (job : Job α) (timeout : Option Duration) (delay : Duration)
    (reply : Reply B) : Except Failure (Response α) × List Occurrence :=
  match e.prepare job.search timeout with
  | .error failure => (.error failure, [])
  | .ok p =>
    let (outcome, trace) := e.settle job p delay (p.heard delay reply)
    (outcome, p.opening ++ trace)

end Executor

end Retrieval
