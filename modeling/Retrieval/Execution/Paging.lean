/-
  Retrieval/Execution/Paging.lean
  ===============================
  **Executing several pages of a search at once.**

  Page `k` asks for the window that begins `k` limits after the start of the search.  The
  searches of all pages are made before the first page is started.  Offsets are 64-bit
  words: one that would be greater ends the call in an `Overflow`, without any request.

  The pages are then started in order, each before the earlier ones need be finished, and
  a reply that is at hand settles its page during the start.

  The first page to fail ends the call: pages after it are not started, and pages that
  wait are abandoned without a report.  When a page counts as failed depends on how
  many pages there are.

  * A few pages are *watched together*.  A failure counts at once, also while earlier
    pages still wait.
  * More than that are *taken in order*.  A failure counts once all earlier pages have
    answered.  Behind a page that waits, all others are therefore started and settled,
    whatever becomes of them.

  Pages that wait, wait for their timeout, and the first of them runs into its own
  before the others do.
-/
import Retrieval.Execution.Run

namespace Retrieval

/-! ### The searches of the pages -/

/-- The operation whose result is no 64-bit word.  Unlike a `Failure` it is not an outcome
    of the call: the call has none. -/
inductive Overflow where
  | product
  | sum
deriving DecidableEq, Repr

namespace Overflow

def message : Overflow → String
  | .product => "attempt to multiply with overflow"
  | .sum => "attempt to add with overflow"

/-- The result of an operation as a word. -/
def word (operation : Overflow) (n : Nat) : Except Overflow UInt64 :=
  if n < UInt64.size then .ok (UInt64.ofNat n) else .error operation

end Overflow

/-- Where page `k` begins. -/
def Search.pageStart (s : Search) (k : Nat) : Except Overflow UInt64 := do
  let skipped ← Overflow.product.word (k * s.limit.toNat)
  Overflow.sum.word (s.start.toNat + skipped.toNat)

def Search.pageAt (s : Search) (k : Nat) : Except Overflow Search := do
  let start ← s.pageStart k
  pure (s.page start s.limit)

namespace Job

variable {α : Type}

def pageAt (job : Job α) (k : Nat) : Except Overflow (Job α) := do
  let search ← job.search.pageAt k
  pure { job with search }

def pages (job : Job α) (count : Nat) : Except Overflow (List (Job α)) :=
  (List.range count).mapM job.pageAt

end Job

/-! ### How a page stands -/

/-- How a page stands once it has been started. -/
inductive PageState (Q α : Type) where
  /-- Its outcome is there. -/
  | settled (outcome : Except Failure (Response α))
  /-- Its request waits for a reply. -/
  | waiting (p : Prepared Q)

namespace PageState

variable {Q α : Type}

def isWaiting : PageState Q α → Bool
  | .waiting _ => true
  | .settled _ => false

def failure? : PageState Q α → Option Failure
  | .settled (.error failure) => some failure
  | _ => none

end PageState

/-! ### Which failures count -/

/-- When the failure of a page counts. -/
inductive Watch where
  /-- At once. -/
  | together
  /-- Once all earlier pages have answered. -/
  | inOrder
deriving DecidableEq, Repr

namespace Watch

/-- The greatest number of pages that are watched together. -/
def togetherUpTo : Nat := 30

def ofPages (pages : Nat) : Watch := if pages ≤ togetherUpTo then .together else .inOrder

/-- Whether a failure counts during the start, where `waits` says whether an earlier page
    waits. -/
def endsStart (watch : Watch) (waits : Bool) : Bool :=
  match watch with
  | .together => true
  | .inOrder => !waits

end Watch

/-! ### Execution -/

namespace Executor

variable {Q B α : Type}

/-- Start one page, whose request meets the given reply. -/
def startPage (e : Executor Q B) (timeout : Option Duration) (job : Job α) (reply : Reply B) :
    PageState Q α × List Occurrence :=
  match e.prepare job.search timeout with
  | .error failure => (.settled (.error failure), [])
  | .ok p =>
    match reply with
    | .silence => (.waiting p, p.opening)
    | reply =>
      let (outcome, closing) := e.settle job p .zero reply
      (.settled outcome, p.opening ++ closing)

/-- Start pages in order, up to the first failure that counts.  Each comes with the reply
    that its request meets; `waits` says whether an earlier page waits. -/
def startPages (e : Executor Q B) (timeout : Option Duration) (watch : Watch) (waits : Bool) :
    List (Job α × Reply B) → List (PageState Q α) × List Occurrence
  | [] => ([], [])
  | (job, reply) :: rest =>
    let (state, trace) := e.startPage timeout job reply
    if state.failure?.isSome && watch.endsStart waits then ([state], trace)
    else
      let (states, more) := startPages e timeout watch (waits || state.isWaiting) rest
      (state :: states, trace ++ more)

/-- Take the pages in order.  A page that waits runs into its timeout. -/
def takePages : List (PageState Q α) → Except Failure (List (Response α)) × List Occurrence
  | [] => (.ok [], [])
  | .settled (.ok response) :: rest =>
    let (responses, trace) := takePages rest
    (responses.map (response :: ·), trace)
  | .settled (.error failure) :: _ => (.error failure, [])
  | .waiting p :: _ =>
    (.error p.timedOut, p.closing (.error p.timedOut : Except Failure (Response α)) p.timeout)

/-- The outcome of pages that have been started, and what happens until it is known. -/
def finishPages (watch : Watch) (states : List (PageState Q α)) :
    Except Failure (List (Response α)) × List Occurrence :=
  match watch, states.findSome? PageState.failure? with
  | .together, some failure => (.error failure, [])
  | _, _ => takePages states

/-- Execute jobs side by side.  The reply to job `k` is `replies k`. -/
def runJobs (e : Executor Q B) (jobs : List (Job α)) (timeout : Option Duration)
    (replies : Nat → Reply B) : Except Failure (List (Response α)) × List Occurrence :=
  let watch := Watch.ofPages jobs.length
  let requests := jobs.mapIdx fun k job => (job, replies k)
  let (states, trace) := e.startPages timeout watch false requests
  let (outcome, rest) := finishPages watch states
  (outcome, trace ++ rest)

/-- Execute pages of a job. -/
def runPages (e : Executor Q B) (job : Job α) (pages : Nat) (timeout : Option Duration)
    (replies : Nat → Reply B) :
    Except Overflow (Except Failure (List (Response α)) × List Occurrence) := do
  let jobs ← job.pages pages
  pure (e.runJobs jobs timeout replies)

end Executor

end Retrieval
