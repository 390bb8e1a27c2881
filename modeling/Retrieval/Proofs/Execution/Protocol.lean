/-
  Retrieval/Proofs/Execution/Protocol.lean
  ========================================
  **Every execution follows one protocol.**

  A search that has no request in the syntax of the backend fails with the failure of
  its compilation, and nobody hears of it.  Every other execution asks the transport
  once and makes two reports about the same event: one of the start, before the request
  goes out, and one of the outcome, when it is known.  The report of the outcome says
  what the caller gets (`Protocol`).

  An execution can end in many places: the transport fails, the body cannot be read, a
  projection fails, the timeout passes.  All of them meet in `Executor.settle`, and one
  lemma says what it adds to the trace (`settle_trace`).
-/
import Retrieval.Execution.Run

namespace Retrieval

/-! ### What a trace shows -/

/-- Whether a report says how an execution ended. -/
def Progress.isOutcome : Progress → Bool
  | .started => false
  | .succeeded .. | .failed _ => true

@[simp] theorem Progress.isOutcome_started : Progress.started.isOutcome = false := rfl

@[simp] theorem requestsOf_append (t u : List Occurrence) :
    requestsOf (t ++ u) = requestsOf t ++ requestsOf u :=
  List.filterMap_append

@[simp] theorem reportsOf_append (t u : List Occurrence) :
    reportsOf (t ++ u) = reportsOf t ++ reportsOf u :=
  List.filterMap_append

@[simp] theorem requestsOf_noted (notices : List Notice) :
    requestsOf (notices.map .noted) = [] := by
  simp [requestsOf, Occurrence.request?]

@[simp] theorem reportsOf_noted (notices : List Notice) :
    reportsOf (notices.map .noted) = [] := by
  simp [reportsOf, Occurrence.report?]

namespace Prepared

variable {Q B α : Type}

/-- The request as the transport sees it. -/
def request (p : Prepared Q) : Request := ⟨p.event.index, p.event.request, p.timeout⟩

@[simp] theorem requestsOf_opening (p : Prepared Q) : requestsOf p.opening = [p.request] := rfl

@[simp] theorem reportsOf_opening (p : Prepared Q) :
    reportsOf p.opening = [(p.event, .started)] := rfl

@[simp] theorem requestsOf_closing (p : Prepared Q) (outcome : Except Failure (Response α))
    (elapsed : Duration) : requestsOf (p.closing outcome elapsed) = [] := rfl

@[simp] theorem reportsOf_closing (p : Prepared Q) (outcome : Except Failure (Response α))
    (elapsed : Duration) :
    reportsOf (p.closing outcome elapsed) = [(p.event, progressOf outcome)] := rfl

theorem progressOf_eq_succeeded_iff {outcome : Except Failure (Response α)} {total : UInt64}
    {returned : Nat} :
    progressOf outcome = .succeeded total returned ↔
      ∃ response, outcome = .ok response ∧ response.totalFound = total ∧
        response.results.length = returned := by
  cases outcome with
  | error e => simp [progressOf]
  | ok response => simp [progressOf, Response.size]

theorem progressOf_eq_failed_iff {outcome : Except Failure (Response α)} {failure : Failure} :
    progressOf outcome = .failed failure ↔ outcome = .error failure := by
  cases outcome <;> simp [progressOf]

theorem isOutcome_progressOf (outcome : Except Failure (Response α)) :
    (progressOf outcome).isOutcome = true := by
  cases outcome <;> rfl

theorem heard_of_le {p : Prepared Q} {delay : Duration} (h : delay ≤ p.timeout) (reply : Reply B) :
    p.heard delay reply = reply :=
  if_pos h

theorem heard_zero (p : Prepared Q) (reply : Reply B) : p.heard .zero reply = reply :=
  heard_of_le (Nat.zero_le p.timeout.nanos) reply

theorem heard_of_late {p : Prepared Q} {delay : Duration} {reply : Reply B}
    (h : reply = .silence ∨ ¬ delay ≤ p.timeout) : p.heard delay reply = .silence := by
  unfold heard
  split
  · rename_i hle
    exact h.resolve_right fun hlate => hlate hle
  · rfl

end Prepared

/-! ### The steps of an execution -/

namespace Executor

variable {Q B α : Type} {e : Executor Q B} {job : Job α} {timeout : Option Duration}

/-- The event of a search that has the request `query`. -/
def event (e : Executor Q B) (s : Search) (query : Q) : QueryEvent :=
  ⟨e.backend.name, s.index, e.backend.text query⟩

theorem prepare_of_error {s : Search} {failure : Failure}
    (h : e.backend.compile s = .error failure) : e.prepare s timeout = .error failure := by
  rw [prepare, h]
  rfl

theorem prepare_of_ok {s : Search} {query : Q} (h : e.backend.compile s = .ok query) :
    e.prepare s timeout = .ok ⟨query, e.event s query, timeout.getD e.config.timeout⟩ := by
  rw [prepare, h]
  rfl

theorem prepare_eq_ok {s : Search} {p : Prepared Q} (h : e.prepare s timeout = .ok p) :
    e.backend.compile s = .ok p.query ∧ p.event = e.event s p.query ∧
      p.timeout = timeout.getD e.config.timeout := by
  cases hcompile : e.backend.compile s with
  | error failure =>
    rw [prepare_of_error hcompile] at h
    cases h
  | ok query =>
    rw [prepare_of_ok hcompile] at h
    cases h
    exact ⟨rfl, rfl, rfl⟩

theorem run_of_error {delay : Duration} {reply : Reply B} {failure : Failure}
    (h : e.prepare job.search timeout = .error failure) :
    e.run job timeout delay reply = (.error failure, []) := by
  rw [run, h]

theorem run_of_ok {delay : Duration} {reply : Reply B} {p : Prepared Q}
    (h : e.prepare job.search timeout = .ok p) :
    e.run job timeout delay reply =
      ((e.settle job p delay (p.heard delay reply)).1,
        p.opening ++ (e.settle job p delay (p.heard delay reply)).2) := by
  rw [run, h]

/-- Wherever an execution ends, some notices and one report of the outcome are all that
    is added to the trace. -/
theorem settle_trace (e : Executor Q B) (job : Job α) (p : Prepared Q) (elapsed : Duration)
    (reply : Reply B) :
    ∃ (notices : List Notice) (ended : Duration),
      (e.settle job p elapsed reply).2 =
        notices.map .noted ++ p.closing (e.settle job p elapsed reply).1 ended := by
  cases reply with
  | body body => exact ⟨(e.digest job p body).2, elapsed, rfl⟩
  | failure failure => exact ⟨[], elapsed, rfl⟩
  | silence => exact ⟨[], p.timeout, rfl⟩

/-- A body that is heard is read, and what was read is processed. -/
theorem settle_body (e : Executor Q B) (job : Job α) (p : Prepared Q) (elapsed : Duration)
    (body : B) :
    (e.settle job p elapsed (.body body)).1 =
      e.backend.read p.query body >>= job.search.processResults job.projection job.transform := by
  rw [settle, digest]
  cases e.backend.read p.query body <;> rfl

end Executor

/-! ### The protocol -/

/-- The protocol of an execution whose search has the request `query`, where the backend
    replies after a delay: what the transport and the logger see of it, and what the
    caller gets.  The last report says `final`. -/
structure Protocol {Q B α : Type} (e : Executor Q B) (job : Job α) (query : Q)
    (limit delay : Duration) (reply : Reply B) (outcome : Except Failure (Response α))
    (trace : List Occurrence) (final : Progress) : Prop where
  /-- The transport is asked once, for the index of the search. -/
  asked : requestsOf trace = [⟨job.search.index, e.backend.text query, limit⟩]
  /-- The start is reported and then one outcome, of the same event. -/
  reported : reportsOf trace =
    [(e.event job.search query, .started), (e.event job.search query, final)]
  /-- The start is reported before the request goes out, the outcome at the very end. -/
  ordered : ∃ (notices : List Notice) (elapsed : Duration),
    trace = .reported (e.event job.search query) .started .zero ::
      .sent ⟨job.search.index, e.backend.text query, limit⟩ ::
      (notices.map .noted ++ [.reported (e.event job.search query) final elapsed])
  /-- A success is reported when the caller gets a response, with the counts of it. -/
  succeeds : ∀ total returned, final = .succeeded total returned ↔
    ∃ response, outcome = .ok response ∧ response.totalFound = total ∧
      response.results.length = returned
  /-- A failure is reported when the caller gets one, and it is the same. -/
  fails : ∀ failure, final = .failed failure ↔ outcome = .error failure
  /-- A body in time is read, and what was read is processed. -/
  answered : ∀ body, reply = .body body → delay ≤ limit →
    outcome = e.backend.read query body >>= job.search.processResults job.projection job.transform
  /-- A failure of the transport in time is passed on. -/
  refused : ∀ failure, reply = .failure failure → delay ≤ limit → outcome = .error failure
  /-- Without a reply in time there is a timeout, which names the request. -/
  expired : reply = .silence ∨ ¬ delay ≤ limit →
    outcome = .error (.timeout limit.millis (e.backend.text query))

namespace Executor

variable {Q B α : Type}

/-- A request that is ready leads to an execution by the protocol. -/
theorem protocol_of_prepare {e : Executor Q B} {job : Job α} {timeout : Option Duration}
    {p : Prepared Q} (hprepare : e.prepare job.search timeout = .ok p) (delay : Duration)
    (reply : Reply B) :
    Protocol e job p.query p.timeout delay reply (e.run job timeout delay reply).1
      (e.run job timeout delay reply).2
      (Prepared.progressOf (e.run job timeout delay reply).1) := by
  obtain ⟨notices, ended, htrace⟩ := e.settle_trace job p delay (p.heard delay reply)
  have hevent : p.event = e.event job.search p.query := (prepare_eq_ok hprepare).2.1
  have hrequest : p.request = ⟨job.search.index, e.backend.text p.query, p.timeout⟩ := by
    rw [Prepared.request, hevent]
    rfl
  rw [run_of_ok hprepare]
  exact
    { asked := by simp [htrace, hrequest]
      reported := by simp [htrace, hevent]
      ordered := by
        refine ⟨notices, ended, ?_⟩
        rw [htrace, ← hrequest, ← hevent]
        rfl
      succeeds := fun _ _ => Prepared.progressOf_eq_succeeded_iff
      fails := fun _ => Prepared.progressOf_eq_failed_iff
      answered := by
        rintro body rfl hle
        rw [Prepared.heard_of_le hle]
        exact settle_body e job p delay body
      refused := by
        rintro failure rfl hle
        rw [Prepared.heard_of_le hle]
        rfl
      expired := by
        intro hlate
        rw [Prepared.heard_of_late hlate, settle, Prepared.timedOut, hevent]
        rfl }

/-- **Every execution follows one protocol.**  Either the search has no request, and then
    its failure is all there is; or it has one, and then the transport, the logger and the
    caller see what `Protocol` says. -/
theorem run_follows_protocol (e : Executor Q B) (job : Job α) (timeout : Option Duration)
    (delay : Duration) (reply : Reply B) :
    (∀ failure, e.backend.compile job.search = .error failure →
      e.run job timeout delay reply = (.error failure, [])) ∧
    ∀ query, e.backend.compile job.search = .ok query →
      ∃ final, Protocol e job query (timeout.getD e.config.timeout) delay reply
        (e.run job timeout delay reply).1 (e.run job timeout delay reply).2 final := by
  refine ⟨fun failure h => run_of_error (prepare_of_error h), fun query h => ?_⟩
  exact ⟨_, protocol_of_prepare (prepare_of_ok h) delay reply⟩

/-- A search that the flat syntax has no request for. -/
def searchByPhrase : Search :=
  { Search.ofIndex "venues" with sort := some ⟨.function (.phraseOf "pizza"), .descending⟩ }

theorem run_follows_protocol_flat :
    (∃ failure, Backend.flat.compile searchByPhrase = .error failure ∧
      (standard .flat).run searchByPhrase.job none .zero .silence = (.error failure, [])) ∧
    ∃ query final, Backend.flat.compile (.ofIndex "venues") = .ok query ∧
      Protocol (standard .flat) (Search.ofIndex "venues").job query ⟨5000000000⟩ ⟨7000000000⟩
        (.body "") ((standard .flat).run (Search.ofIndex "venues").job none ⟨7000000000⟩ (.body "")).1
        ((standard .flat).run (Search.ofIndex "venues").job none ⟨7000000000⟩ (.body "")).2 final := by
  constructor
  · exact ⟨_, rfl, (run_follows_protocol (standard .flat) searchByPhrase.job none .zero .silence).1
      _ rfl⟩
  · obtain ⟨final, h⟩ := (run_follows_protocol (standard .flat) (Search.ofIndex "venues").job none
      ⟨7000000000⟩ (.body "")).2 _ rfl
    exact ⟨_, final, rfl, h⟩

end Executor

end Retrieval
