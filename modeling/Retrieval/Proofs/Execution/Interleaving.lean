/-
  Retrieval/Proofs/Execution/Interleaving.lean
  ============================================
  **Pages that run side by side.**

  `Executor.runJobs` takes the pages of a call, which are jobs, in one order.  Here the
  order is left open: a page may start at any time, a page that waits may settle at any
  time, and the call may return as soon as it can (`Step`).  Whatever the pages meet, and
  in whatever order, each of them behaves like an execution of its own (`PageFollows`).

  A logger is promised one report of the outcome for each report of a start
  (`OutcomeReported`).  An execution of its own keeps that promise.  A call for several
  pages does not: the first failure ends the call, and a page that waits at that moment
  is dropped with its start reported and nothing more.  These pages are the only ones
  that break the promise, and wherever one page can fail while another waits there is an
  order in which that happens (`exists_reaches_dropped`).
-/
import Retrieval.Execution.Paging
import Retrieval.Proofs.Execution.Protocol
import Mathlib.Logic.Function.Basic
import Mathlib.Logic.Relation

namespace Retrieval

/-! ### What a logger is promised -/

/-- If a start is reported, then exactly one outcome is. -/
def OutcomeReported (reports : List (QueryEvent × Progress)) : Prop :=
  (∃ event, (event, Progress.started) ∈ reports) →
    (reports.filter fun report => report.2.isOutcome).length = 1

theorem outcomeReported_nil : OutcomeReported [] := by
  rintro ⟨event, h⟩
  cases h

theorem outcomeReported_pair (event : QueryEvent) {final : Progress} (h : final.isOutcome = true) :
    OutcomeReported [(event, .started), (event, final)] := by
  intro _
  simp [h]

theorem not_outcomeReported_started (event : QueryEvent) :
    ¬ OutcomeReported [(event, .started)] := by
  intro h
  have hcount := h ⟨event, List.mem_singleton_self _⟩
  simp at hcount

namespace Executor

variable {Q B α : Type}

/-- An execution of its own keeps the promise. -/
theorem outcomeReported_run (e : Executor Q B) (job : Job α) (timeout : Option Duration)
    (delay : Duration) (reply : Reply B) :
    OutcomeReported (reportsOf (e.run job timeout delay reply).2) := by
  cases hprepare : e.prepare job.search timeout with
  | error failure =>
    rw [run_of_error hprepare]
    exact outcomeReported_nil
  | ok p =>
    rw [(protocol_of_prepare hprepare delay reply).reported]
    exact outcomeReported_pair _ (Prepared.isOutcome_progressOf _)

/-! ### The start of a page -/

variable {e : Executor Q B} {job : Job α} {timeout : Option Duration}

theorem startPage_of_error {failure : Failure} (reply : Reply B)
    (h : e.prepare job.search timeout = .error failure) :
    e.startPage timeout job reply = (.settled (.error failure), []) := by
  rw [startPage, h]

theorem startPage_silence {p : Prepared Q} (h : e.prepare job.search timeout = .ok p) :
    e.startPage timeout job .silence = (.waiting p, p.opening) := by
  rw [startPage, h]

/-- A reply at hand settles the page during the start. -/
theorem startPage_of_ne_silence {reply : Reply B} (hreply : reply ≠ .silence) :
    e.startPage timeout job reply =
      (.settled (e.run job timeout .zero reply).1, (e.run job timeout .zero reply).2) := by
  cases hprepare : e.prepare job.search timeout with
  | error failure => rw [startPage_of_error _ hprepare, run_of_error hprepare]
  | ok p =>
    rw [startPage, hprepare, run_of_ok hprepare, Prepared.heard_zero]
    cases reply with
    | silence => exact absurd rfl hreply
    | body body => rfl
    | failure failure => rfl

end Executor

/-! ### A call for several pages -/

/-- A call for several pages, as far as it has come. -/
structure PagedCall (Q α : Type) where
  /-- How each page stands.  A page that has not been started stands nowhere. -/
  page : Nat → Option (PageState Q α)
  /-- What has happened, with the numbers of the pages. -/
  trace : List (Nat × Occurrence)
  /-- What the call has returned, if it has. -/
  returned : Option (Except Failure (List (Response α)))

namespace PagedCall

variable {Q B α : Type}

def initial : PagedCall Q α := ⟨fun _ => none, [], none⟩

def traceOf (c : PagedCall Q α) (k : Nat) : List Occurrence :=
  c.trace.filterMap fun entry => if entry.1 = k then some entry.2 else none

def enter (c : PagedCall Q α) (k : Nat) (state : PageState Q α) (trace : List Occurrence) :
    PagedCall Q α :=
  { c with page := Function.update c.page k (some state), trace := c.trace ++ trace.map (k, ·) }

@[simp] theorem page_enter_self (c : PagedCall Q α) (k : Nat) (state : PageState Q α)
    (trace : List Occurrence) : (c.enter k state trace).page k = some state :=
  Function.update_self k _ _

theorem page_enter_of_ne {j k : Nat} (h : j ≠ k) (c : PagedCall Q α) (state : PageState Q α)
    (trace : List Occurrence) : (c.enter k state trace).page j = c.page j :=
  Function.update_of_ne h _ _

@[simp] theorem traceOf_enter_self (c : PagedCall Q α) (k : Nat) (state : PageState Q α)
    (trace : List Occurrence) : (c.enter k state trace).traceOf k = c.traceOf k ++ trace := by
  have hown : (fun entry : Nat × Occurrence => if entry.1 = k then some entry.2 else none) ∘
      (k, ·) = some := funext fun _ => if_pos rfl
  rw [traceOf, enter, List.filterMap_append, List.filterMap_map, hown, List.filterMap_some]
  rfl

theorem traceOf_enter_of_ne {j k : Nat} (h : j ≠ k) (c : PagedCall Q α) (state : PageState Q α)
    (trace : List Occurrence) : (c.enter k state trace).traceOf j = c.traceOf j := by
  have hothers : (trace.map (k, ·)).filterMap
      (fun entry => if entry.1 = j then some entry.2 else none) = [] := by
    rw [List.filterMap_eq_nil_iff]
    intro entry hentry
    obtain ⟨occurrence, -, rfl⟩ := List.mem_map.mp hentry
    exact if_neg h.symm
  rw [traceOf, enter, List.filterMap_append, hothers, List.append_nil]
  rfl

@[simp] theorem map_snd_trace_enter (c : PagedCall Q α) (k : Nat) (state : PageState Q α)
    (trace : List Occurrence) :
    (c.enter k state trace).trace.map Prod.snd = c.trace.map Prod.snd ++ trace := by
  simp [enter, Function.comp_def]

/-! ### Steps -/

section Steps

variable (e : Executor Q B) (jobs : List (Job α)) (timeout : Option Duration)
  (replies : Nat → Reply B)

/-- One step of a call for the given pages, where page `k` meets the reply `replies k`. -/
inductive Step : PagedCall Q α → PagedCall Q α → Prop
  /-- A page is started.  Its request waits, unless it has none. -/
  | start {c : PagedCall Q α} {k : Nat} {job : Job α} :
    c.returned = none → jobs[k]? = some job → c.page k = none →
    Step c (c.enter k (e.startPage timeout job .silence).1 (e.startPage timeout job .silence).2)
  /-- A page that waits settles, with its reply or with a timeout. -/
  | settle {c : PagedCall Q α} {k : Nat} {job : Job α} {p : Prepared Q} (delay : Duration) :
    c.returned = none → jobs[k]? = some job → c.page k = some (.waiting p) →
    Step c (c.enter k (.settled (e.settle job p delay (p.heard delay (replies k))).1)
      (e.settle job p delay (p.heard delay (replies k))).2)
  /-- The call returns the failure of a page.  Pages that wait are dropped. -/
  | fail {c : PagedCall Q α} {k : Nat} {failure : Failure} :
    c.returned = none → c.page k = some (.settled (.error failure)) →
    Step c { c with returned := some (.error failure) }
  /-- The call returns the responses of all pages. -/
  | succeed {c : PagedCall Q α} {responses : List (Response α)} :
    c.returned = none →
    (List.range jobs.length).map c.page =
      responses.map (fun response => some (.settled (.ok response))) →
    Step c { c with returned := some (.ok responses) }

abbrev Reaches : PagedCall Q α → PagedCall Q α → Prop :=
  Relation.ReflTransGen (Step e jobs timeout replies)

/-! ### What every order preserves -/

/-- How a page stands together with its share of the trace: a page that waits has begun
    an execution of its own, and a page that has settled has gone through one. -/
def PageFollows (job : Job α) (reply : Reply B) : Option (PageState Q α) → List Occurrence → Prop
  | none, trace => trace = []
  | some (.waiting p), trace => e.prepare job.search timeout = .ok p ∧ trace = p.opening
  | some (.settled outcome), trace => ∃ delay, e.run job timeout delay reply = (outcome, trace)

/-- What holds of a call in every order: each page follows its execution, nothing is known
    of others, and a call that has returned responses has one from each page. -/
structure Invariant (c : PagedCall Q α) : Prop where
  follows : ∀ k job, jobs[k]? = some job →
    PageFollows e timeout job (replies k) (c.page k) (c.traceOf k)
  within : ∀ k, jobs[k]? = none → c.page k = none ∧ c.traceOf k = []
  complete : ∀ responses, c.returned = some (.ok responses) →
    (List.range jobs.length).map c.page =
      responses.map fun response => some (.settled (.ok response))

variable {e jobs timeout replies}

theorem invariant_initial :
    Invariant e jobs timeout replies (initial : PagedCall Q α) where
  follows _ _ _ := rfl
  within _ _ := ⟨rfl, rfl⟩
  complete _ h := by cases h

theorem pageFollows_start (job : Job α) (reply : Reply B) :
    PageFollows e timeout job reply (some (e.startPage timeout job .silence).1)
      (e.startPage timeout job .silence).2 := by
  unfold Executor.startPage
  cases hprepare : e.prepare job.search timeout with
  | error failure => exact ⟨.zero, Executor.run_of_error hprepare⟩
  | ok p => exact ⟨hprepare, rfl⟩

theorem pageFollows_settle {job : Job α} {p : Prepared Q}
    (hprepare : e.prepare job.search timeout = .ok p) (delay : Duration) (reply : Reply B) :
    PageFollows e timeout job reply
      (some (.settled (e.settle job p delay (p.heard delay reply)).1))
      (p.opening ++ (e.settle job p delay (p.heard delay reply)).2) :=
  ⟨delay, Executor.run_of_ok hprepare⟩

/-- A change of one page keeps the invariant when that page still follows its execution. -/
theorem Invariant.enter {c : PagedCall Q α} (h : Invariant e jobs timeout replies c)
    (hreturned : c.returned = none) {k : Nat} {job : Job α} (hjob : jobs[k]? = some job)
    {state : PageState Q α} {trace : List Occurrence}
    (hfollows : PageFollows e timeout job (replies k) (some state) (c.traceOf k ++ trace)) :
    Invariant e jobs timeout replies (c.enter k state trace) where
  follows j other hother := by
    by_cases hj : j = k
    · subst hj
      rw [hjob] at hother
      cases hother
      rw [page_enter_self, traceOf_enter_self]
      exact hfollows
    · rw [page_enter_of_ne hj, traceOf_enter_of_ne hj]
      exact h.follows j other hother
  within j hnone := by
    have hj : j ≠ k := by
      rintro rfl
      rw [hjob] at hnone
      cases hnone
    rw [page_enter_of_ne hj, traceOf_enter_of_ne hj]
    exact h.within j hnone
  complete responses hresponses := by
    rw [PagedCall.enter, hreturned] at hresponses
    cases hresponses

theorem Invariant.exists_job {c : PagedCall Q α} (h : Invariant e jobs timeout replies c)
    {k : Nat} {state : PageState Q α} (hpage : c.page k = some state) :
    ∃ job, jobs[k]? = some job := by
  cases hjob : jobs[k]? with
  | some job => exact ⟨job, rfl⟩
  | none =>
    rw [(h.within k hjob).1] at hpage
    cases hpage

theorem Step.invariant {c c' : PagedCall Q α} (hstep : Step e jobs timeout replies c c')
    (h : Invariant e jobs timeout replies c) : Invariant e jobs timeout replies c' := by
  cases hstep with
  | @start k job hreturned hjob hpage =>
    have htrace := h.follows k job hjob
    rw [hpage] at htrace
    refine h.enter hreturned hjob ?_
    rw [htrace]
    exact pageFollows_start job (replies k)
  | @settle k job p delay hreturned hjob hpage =>
    have hwaits := h.follows k job hjob
    rw [hpage] at hwaits
    obtain ⟨hprepare, htrace⟩ := hwaits
    refine h.enter hreturned hjob ?_
    rw [htrace]
    exact pageFollows_settle hprepare delay (replies k)
  | fail hreturned hpage =>
    exact ⟨h.follows, h.within, fun responses hresponses => by cases hresponses⟩
  | succeed hreturned hpages =>
    refine ⟨h.follows, h.within, fun responses hresponses => ?_⟩
    cases hresponses
    exact hpages

theorem Reaches.invariant {c : PagedCall Q α} (h : Reaches e jobs timeout replies initial c) :
    Invariant e jobs timeout replies c := by
  induction h with
  | refl => exact invariant_initial
  | tail _ hstep ih => exact hstep.invariant ih

/-! ### Pages that are dropped -/

variable (e jobs timeout replies) in
/-- A page can be started and settle after a delay, whatever the others do. -/
theorem exists_reaches_settled {c : PagedCall Q α} {k : Nat} {job : Job α}
    (hreturned : c.returned = none) (hjob : jobs[k]? = some job) (hpage : c.page k = none)
    (delay : Duration) :
    ∃ c', Reaches e jobs timeout replies c c' ∧ c'.returned = none ∧
      c'.page k = some (.settled (e.run job timeout delay (replies k)).1) ∧
      (∀ j, j ≠ k → c'.page j = c.page j) ∧
      c'.trace.map Prod.snd =
        c.trace.map Prod.snd ++ (e.run job timeout delay (replies k)).2 := by
  have hstart : Step e jobs timeout replies c _ := .start hreturned hjob hpage
  cases hprepare : e.prepare job.search timeout with
  | error failure =>
    rw [Executor.startPage_of_error _ hprepare] at hstart
    rw [Executor.run_of_error hprepare]
    exact ⟨_, .single hstart, hreturned, page_enter_self _ _ _ _,
      fun j hj => page_enter_of_ne hj _ _ _, map_snd_trace_enter _ _ _ _⟩
  | ok p =>
    rw [Executor.startPage_silence hprepare] at hstart
    rw [Executor.run_of_ok hprepare]
    have hsettle : Step e jobs timeout replies (c.enter k (.waiting p) p.opening) _ :=
      .settle delay hreturned hjob (page_enter_self c k (.waiting p) p.opening)
    refine ⟨_, .tail (.single hstart) hsettle, hreturned, page_enter_self _ _ _ _,
      fun j hj => ?_, ?_⟩
    · rw [page_enter_of_ne hj, page_enter_of_ne hj]
    · rw [map_snd_trace_enter, map_snd_trace_enter, List.append_assoc]

/-- Where one page can fail, another that has been started can be dropped. -/
theorem exists_reaches_dropped {i j : Nat} {job other : Job α} {p : Prepared Q}
    {delay : Duration} {failure : Failure} (hi : jobs[i]? = some job)
    (hj : jobs[j]? = some other) (hij : i ≠ j) (hprepare : e.prepare job.search timeout = .ok p)
    (hfails : (e.run other timeout delay (replies j)).1 = .error failure) :
    ∃ c, Reaches e jobs timeout replies initial c ∧ c.returned = some (.error failure) ∧
      c.page i = some (.waiting p) := by
  have hstart : Step e jobs timeout replies initial _ := .start rfl hi rfl
  rw [Executor.startPage_silence hprepare] at hstart
  obtain ⟨c, hreach, hreturned, hpage, hothers, -⟩ :=
    exists_reaches_settled e jobs timeout replies
      (c := initial.enter i (.waiting p) p.opening) rfl hj
      (page_enter_of_ne hij.symm initial (.waiting p) p.opening) delay
  rw [hfails] at hpage
  refine ⟨_, .tail (.head hstart hreach) (.fail hreturned hpage), rfl, ?_⟩
  exact (hothers i hij).trans (page_enter_self initial i (.waiting p) p.opening)

/-- A page breaks the promise exactly when it waits. -/
theorem PageFollows.outcomeReported_iff {job : Job α} {reply : Reply B}
    {state : Option (PageState Q α)} {trace : List Occurrence}
    (h : PageFollows e timeout job reply state trace) :
    OutcomeReported (reportsOf trace) ↔ ∀ p, state ≠ some (.waiting p) := by
  match state with
  | none =>
    rw [show trace = [] from h]
    exact iff_of_true outcomeReported_nil fun p hp => by cases hp
  | some (.waiting p) =>
    obtain ⟨-, rfl⟩ := h
    rw [Prepared.reportsOf_opening]
    exact iff_of_false (not_outcomeReported_started p.event) fun hp => hp p rfl
  | some (.settled outcome) =>
    obtain ⟨delay, hrun⟩ := h
    have hpromise := Executor.outcomeReported_run e job timeout delay reply
    rw [hrun] at hpromise
    exact iff_of_true hpromise fun p hp => by cases hp

theorem Invariant.outcomeReported_iff {c : PagedCall Q α}
    (h : Invariant e jobs timeout replies c) (k : Nat) :
    OutcomeReported (reportsOf (c.traceOf k)) ↔ ∀ p, c.page k ≠ some (.waiting p) := by
  cases hjob : jobs[k]? with
  | some job => exact (h.follows k job hjob).outcomeReported_iff
  | none =>
    obtain ⟨hpage, htrace⟩ := h.within k hjob
    rw [hpage, htrace]
    exact iff_of_true outcomeReported_nil fun p hp => by cases hp

theorem Invariant.answered {c : PagedCall Q α} (h : Invariant e jobs timeout replies c)
    {responses : List (Response α)} (hreturned : c.returned = some (.ok responses)) {k : Nat}
    (hk : k < jobs.length) : ∃ response, c.page k = some (.settled (.ok response)) := by
  have hmem : c.page k ∈ (List.range jobs.length).map c.page :=
    List.mem_map_of_mem (List.mem_range.mpr hk)
  rw [h.complete responses hreturned] at hmem
  obtain ⟨response, -, hresponse⟩ := List.mem_map.mp hmem
  exact ⟨response, hresponse.symm⟩

theorem Invariant.not_waiting {c : PagedCall Q α} (h : Invariant e jobs timeout replies c)
    {responses : List (Response α)} (hreturned : c.returned = some (.ok responses)) (k : Nat)
    (p : Prepared Q) : c.page k ≠ some (.waiting p) := by
  intro hpage
  obtain ⟨job, hjob⟩ := h.exists_job hpage
  obtain ⟨response, hresponse⟩ := h.answered hreturned (List.getElem?_eq_some_iff.mp hjob).1
  rw [hresponse] at hpage
  cases hpage

end Steps

end PagedCall

end Retrieval
