/-
  Retrieval/Proofs/Execution/Scheduling.lean
  ==========================================
  **The order in which pages are taken.**

  `Executor.runJobs` starts the pages of a call in order, settles those whose reply is at
  hand, and ends in one of three ways: all pages have answered, one has failed, or one
  that waits runs into its timeout (`Ends`).  Each of these is a matter of a few steps,
  so that the order of `runJobs` is one of the orders in which pages can run side by side
  (`exists_reaches_runJobs`).  `Executor.runPages` is `runJobs` for the pages of a job,
  unless one of these begins beyond all words and there is no call at all.
-/
import Retrieval.Proofs.Execution.Interleaving
import Retrieval.Proofs.Outcome

namespace Retrieval

namespace Executor

variable {Q B α : Type} {e : Executor Q B} {timeout : Option Duration}

/-! ### How `runJobs` starts and ends -/

/-- Where no page fails, all pages are started. -/
theorem length_startPages {watch : Watch} {waits : Bool} {requests : List (Job α × Reply B)}
    (h : ∀ state ∈ (e.startPages timeout watch waits requests).1, state.failure? = none) :
    (e.startPages timeout watch waits requests).1.length = requests.length := by
  induction requests generalizing waits with
  | nil => rfl
  | cons request rest ih =>
    obtain ⟨job, reply⟩ := request
    rw [startPages] at h ⊢
    generalize e.startPage timeout job reply = started at *
    obtain ⟨state, trace⟩ := started
    by_cases hends : (state.failure?.isSome && watch.endsStart waits) = true
    · simp only [hends, ↓reduceIte] at h
      rw [h state (List.mem_singleton_self state)] at hends
      cases hends
    · simp only [hends] at h ⊢
      exact congrArg (· + 1) (ih fun other hother => h other (List.mem_cons_of_mem state hother))

/-- The ways in which a call can end whose pages stand as listed: all of them have
    answered, or one has failed, or one that waits runs into its timeout. -/
inductive Ends : List (PageState Q α) → Except Failure (List (Response α)) × List Occurrence → Prop
  | answered (responses : List (Response α)) :
    Ends (responses.map fun response => .settled (.ok response)) (.ok responses, [])
  | failed {states : List (PageState Q α)} {i : Nat} {failure : Failure} :
    states[i]? = some (.settled (.error failure)) → Ends states (.error failure, [])
  | expired {states : List (PageState Q α)} {i : Nat} {p : Prepared Q} :
    states[i]? = some (.waiting p) →
    Ends states (.error p.timedOut,
      p.closing (.error p.timedOut : Except Failure (Response α)) p.timeout)

theorem ends_takePages (states : List (PageState Q α)) : Ends states (takePages states) := by
  induction states with
  | nil => exact .answered []
  | cons state rest ih =>
    cases state with
    | waiting p => exact .expired (i := 0) rfl
    | settled outcome =>
      cases outcome with
      | error failure => exact .failed (i := 0) rfl
      | ok response =>
        rw [takePages]
        generalize takePages rest = taken at ih
        cases ih with
        | answered responses => exact .answered (response :: responses)
        | @failed _ i failure h => exact .failed (i := i + 1) h
        | @expired _ i p h => exact .expired (i := i + 1) h

theorem ends_finishPages (watch : Watch) (states : List (PageState Q α)) :
    Ends states (finishPages watch states) := by
  unfold finishPages
  split
  · rename_i failure hfailure
    obtain ⟨state, hmem, hstate⟩ := List.exists_of_findSome?_eq_some hfailure
    obtain ⟨i, hi⟩ := List.mem_iff_getElem?.mp hmem
    refine .failed (i := i) ?_
    rw [hi]
    cases state with
    | waiting p => cases hstate
    | settled outcome =>
      cases outcome with
      | ok response => cases hstate
      | error other =>
        cases hstate
        rfl
  · exact ends_takePages states

/-! ### The pages of a job -/

theorem length_pages {job : Job α} {pages : Nat} {jobs : List (Job α)}
    (h : job.pages pages = .ok jobs) : jobs.length = pages := by
  have hpages := mapM_eq_ok_iff.mp h
  rw [← hpages.length_eq, List.length_range]

theorem runPages_of_ok {job : Job α} {pages : Nat} {jobs : List (Job α)}
    (replies : Nat → Reply B) (h : job.pages pages = .ok jobs) :
    e.runPages job pages timeout replies = .ok (e.runJobs jobs timeout replies) := by
  rw [runPages, h]
  rfl

theorem runPages_of_error {job : Job α} {pages : Nat} {overflow : Overflow}
    (replies : Nat → Reply B) (h : job.pages pages = .error overflow) :
    e.runPages job pages timeout replies = .error overflow := by
  rw [runPages, h]
  rfl

end Executor

namespace PagedCall

variable {Q B α : Type} {e : Executor Q B} {jobs : List (Job α)} {timeout : Option Duration}
  {replies : Nat → Reply B}

/-! ### The steps of `runJobs` -/

variable (e jobs timeout replies) in
/-- Starting a page whose reply may be at hand takes one step or two. -/
theorem exists_reaches_startPage {c : PagedCall Q α} {k : Nat} {job : Job α}
    (hreturned : c.returned = none) (hjob : jobs[k]? = some job) (hpage : c.page k = none) :
    ∃ c', Reaches e jobs timeout replies c c' ∧ c'.returned = none ∧
      c'.page k = some (e.startPage timeout job (replies k)).1 ∧
      (∀ j, j ≠ k → c'.page j = c.page j) ∧
      c'.trace.map Prod.snd =
        c.trace.map Prod.snd ++ (e.startPage timeout job (replies k)).2 := by
  by_cases hreply : replies k = .silence
  · rw [hreply]
    exact ⟨_, .single (.start hreturned hjob hpage), hreturned, page_enter_self _ _ _ _,
      fun j hj => page_enter_of_ne hj _ _ _, map_snd_trace_enter _ _ _ _⟩
  · rw [Executor.startPage_of_ne_silence hreply]
    exact exists_reaches_settled e jobs timeout replies hreturned hjob hpage .zero

/-- The pages from `m` on stand as the list says, and those that wait meet silence. -/
def StandsFrom (replies : Nat → Reply B) (c : PagedCall Q α) (m : Nat)
    (states : List (PageState Q α)) : Prop :=
  ∀ i state, states[i]? = some state →
    c.page (m + i) = some state ∧ (state.isWaiting = true → replies (m + i) = .silence)

theorem StandsFrom.cons {c : PagedCall Q α} {m : Nat} {state : PageState Q α}
    {states : List (PageState Q α)} (hpage : c.page m = some state)
    (hsilence : state.isWaiting = true → replies m = .silence)
    (hrest : StandsFrom replies c (m + 1) states) : StandsFrom replies c m (state :: states) := by
  intro i other hother
  cases i with
  | zero =>
    cases hother
    exact ⟨hpage, hsilence⟩
  | succ i =>
    rw [Nat.add_comm i 1, ← Nat.add_assoc]
    exact hrest i other hother

variable (e timeout) in
/-- A page that waits after its start meets silence. -/
theorem startPage_isWaiting (job : Job α) (reply : Reply B)
    (h : (e.startPage timeout job reply).1.isWaiting = true) : reply = .silence := by
  by_contra hreply
  rw [Executor.startPage_of_ne_silence hreply] at h
  cases h

/-- Pages, each with the reply that it meets, where the first of them has number `m`. -/
def requestsFrom (replies : Nat → Reply B) (m : Nat) (jobs : List (Job α)) :
    List (Job α × Reply B) :=
  jobs.mapIdx fun i job => (job, replies (m + i))

theorem requestsFrom_cons (replies : Nat → Reply B) (m : Nat) (job : Job α)
    (rest : List (Job α)) :
    requestsFrom replies m (job :: rest) = (job, replies m) :: requestsFrom replies (m + 1) rest := by
  rw [requestsFrom, requestsFrom, List.mapIdx_cons]
  simp only [Nat.add_zero, Nat.add_assoc, Nat.add_comm 1]

variable (e jobs timeout replies) in
/-- Pages can be started in order. -/
theorem exists_reaches_startPages (watch : Watch) (rest : List (Job α)) :
    ∀ (m : Nat) (waits : Bool) (c : PagedCall Q α), jobs.drop m = rest → c.returned = none →
      (∀ k, m ≤ k → c.page k = none) →
      ∃ c', Reaches e jobs timeout replies c c' ∧ c'.returned = none ∧
        (∀ k, k < m → c'.page k = c.page k) ∧
        StandsFrom replies c' m
          (e.startPages timeout watch waits (requestsFrom replies m rest)).1 ∧
        c'.trace.map Prod.snd = c.trace.map Prod.snd ++
          (e.startPages timeout watch waits (requestsFrom replies m rest)).2 := by
  -- The induction is on the pages that are left.  Page `m` is started next, in a call in
  -- which nothing from `m` on has been started yet.
  induction rest with
  | nil =>
    intro m waits c _ hreturned _
    refine ⟨c, .refl, hreturned, fun _ _ => rfl, fun i state h => ?_, ?_⟩
    · cases h
    · exact (List.append_nil _).symm
  | cons job rest ih =>
    intro m waits c hrest hreturned hnone
    have hjob : jobs[m]? = some job := by
      have hfirst : (jobs.drop m)[0]? = some job := by rw [hrest]; rfl
      rwa [List.getElem?_drop] at hfirst
    have htail : jobs.drop (m + 1) = rest := by
      rw [← List.drop_drop, hrest]
      rfl
    obtain ⟨c₁, hreach₁, hreturned₁, hpage₁, hothers₁, htrace₁⟩ :=
      exists_reaches_startPage e jobs timeout replies hreturned hjob (hnone m (Nat.le_refl m))
    have hsilence := startPage_isWaiting e timeout job (replies m)
    rw [requestsFrom_cons, Executor.startPages]
    generalize e.startPage timeout job (replies m) = started at *
    obtain ⟨state, trace⟩ := started
    by_cases hends : (state.failure?.isSome && watch.endsStart waits) = true
    · simp only [hends, ↓reduceIte]
      refine ⟨c₁, hreach₁, hreturned₁, fun k hk => hothers₁ k (by omega), ?_, htrace₁⟩
      exact StandsFrom.cons hpage₁ hsilence fun i other h => by cases h
    · simp only [hends]
      obtain ⟨c₂, hreach₂, hreturned₂, hbefore₂, hstands₂, htrace₂⟩ :=
        ih (m + 1) (waits || state.isWaiting) c₁ htail hreturned₁
          fun k hk => (hothers₁ k (by omega)).trans (hnone k (by omega))
      refine ⟨c₂, hreach₁.trans hreach₂, hreturned₂, fun k hk => ?_, ?_, ?_⟩
      · exact (hbefore₂ k (by omega)).trans (hothers₁ k (by omega))
      · exact hstands₂.cons ((hbefore₂ m (by omega)).trans hpage₁) hsilence
      · rw [htrace₂, htrace₁, List.append_assoc]
        rfl

variable (e timeout) in
/-- A call whose pages stand as listed can return in each of the ways. -/
theorem exists_reaches_ends {c : PagedCall Q α} {states : List (PageState Q α)}
    {result : Except Failure (List (Response α)) × List Occurrence}
    (hinvariant : Invariant e jobs timeout replies c)
    (hreturned : c.returned = none) (hstands : StandsFrom replies c 0 states)
    (hlength : (∀ state ∈ states, state.failure? = none) → states.length = jobs.length)
    (hends : Executor.Ends states result) :
    ∃ c', Reaches e jobs timeout replies c c' ∧ c'.returned = some result.1 ∧
      c'.trace.map Prod.snd = c.trace.map Prod.snd ++ result.2 := by
  cases hends with
  | answered responses =>
    have hpages : responses.length = jobs.length := by
      rw [← hlength, List.length_map]
      intro state hstate
      obtain ⟨response, -, rfl⟩ := List.mem_map.mp hstate
      rfl
    refine ⟨_, .single (.succeed hreturned ?_), rfl, (List.append_nil _).symm⟩
    refine List.ext_getElem (by simp [hpages]) fun i hi hi' => ?_
    rw [List.getElem_map, List.getElem_map, List.getElem_range]
    have hresponse : i < responses.length := by simpa using hi'
    have hpage := (hstands i (.settled (.ok responses[i])) (by simp [hresponse])).1
    rwa [Nat.zero_add] at hpage
  | failed hfailed =>
    exact ⟨_, .single (.fail hreturned (hstands _ _ hfailed).1), rfl, (List.append_nil _).symm⟩
  | @expired _ i p hexpired =>
    obtain ⟨hpage, hsilence⟩ := hstands _ _ hexpired
    obtain ⟨job, hjob⟩ := hinvariant.exists_job hpage
    have hsettle : Step e jobs timeout replies c
        (c.enter (0 + i) (.settled (.error p.timedOut))
          (p.closing (.error p.timedOut : Except Failure (Response α)) p.timeout)) := by
      have hstep : Step e jobs timeout replies c _ := .settle .zero hreturned hjob hpage
      rw [hsilence rfl, Prepared.heard_zero] at hstep
      exact hstep
    refine ⟨_, .tail (.single hsettle) (.fail hreturned (page_enter_self _ _ _ _)), rfl, ?_⟩
    exact map_snd_trace_enter c (0 + i) (.settled (.error p.timedOut)) _

variable (e jobs timeout replies) in
/-- **One of the orders is the one of `runJobs`.** -/
theorem exists_reaches_runJobs :
    ∃ c, Reaches e jobs timeout replies initial c ∧
      c.returned = some (e.runJobs jobs timeout replies).1 ∧
      c.trace.map Prod.snd = (e.runJobs jobs timeout replies).2 := by
  obtain ⟨c, hreach, hreturned, -, hstands, htrace⟩ :=
    exists_reaches_startPages e jobs timeout replies (.ofPages jobs.length) jobs 0 false initial
      rfl rfl fun _ _ => rfl
  have hrun : e.runJobs jobs timeout replies =
      let started :=
        e.startPages timeout (.ofPages jobs.length) false (requestsFrom replies 0 jobs)
      let finished := Executor.finishPages (.ofPages jobs.length) started.1
      (finished.1, started.2 ++ finished.2) := by
    simp only [Executor.runJobs, requestsFrom, Nat.zero_add]
  have hrequests : (requestsFrom replies 0 jobs).length = jobs.length := List.length_mapIdx
  obtain ⟨c', hreach', hreturned', htrace'⟩ := exists_reaches_ends e timeout
    (Reaches.invariant hreach) hreturned hstands
    (fun h => (Executor.length_startPages h).trans hrequests)
    (Executor.ends_finishPages (.ofPages jobs.length) _)
  refine ⟨c', hreach.trans hreach', ?_, ?_⟩
  · rw [hreturned', hrun]
  · rw [htrace', htrace, hrun]
    rfl

/-- **Which pages break the promise.**  In every order, the pages without an outcome are
    those that wait; none is left when the call returns responses.  But where one page
    can fail and another can be started, there is an order in which the failure ends the
    call while the other one waits.  The order of `runPages` is one of all these, unless
    an overflow keeps it from starting. -/
theorem outcomeReported_iff_not_waiting (e : Executor Q B) (job : Job α) (pages : Nat)
    (timeout : Option Duration) (replies : Nat → Reply B) :
    (∀ jobs, job.pages pages = .ok jobs → jobs.length = pages ∧
      (∀ c, Reaches e jobs timeout replies initial c →
        (∀ k, OutcomeReported (reportsOf (c.traceOf k)) ↔ ∀ p, c.page k ≠ some (.waiting p)) ∧
        ∀ responses, c.returned = some (.ok responses) →
          ∀ k, OutcomeReported (reportsOf (c.traceOf k))) ∧
      (∀ i j page other p delay failure, jobs[i]? = some page → jobs[j]? = some other → i ≠ j →
        e.prepare page.search timeout = .ok p →
        (e.run other timeout delay (replies j)).1 = .error failure →
        ∃ c, Reaches e jobs timeout replies initial c ∧ c.returned = some (.error failure) ∧
          ¬ OutcomeReported (reportsOf (c.traceOf i))) ∧
      ∃ c outcome trace, e.runPages job pages timeout replies = .ok (outcome, trace) ∧
        Reaches e jobs timeout replies initial c ∧ c.returned = some outcome ∧
        c.trace.map Prod.snd = trace) ∧
    ∀ overflow, job.pages pages = .error overflow →
      e.runPages job pages timeout replies = .error overflow := by
  refine ⟨fun jobs hjobs => ⟨Executor.length_pages hjobs, fun c hreach => ?_, ?_, ?_⟩,
    fun overflow => Executor.runPages_of_error replies⟩
  · have hinvariant := Reaches.invariant hreach
    refine ⟨hinvariant.outcomeReported_iff, fun responses hreturned k => ?_⟩
    exact (hinvariant.outcomeReported_iff k).mpr (hinvariant.not_waiting hreturned k)
  · intro i j page other p delay failure hi hj hij hprepare hfails
    obtain ⟨c, hreach, hreturned, hwaits⟩ := exists_reaches_dropped hi hj hij hprepare hfails
    refine ⟨c, hreach, hreturned, fun hpromise => ?_⟩
    exact ((Reaches.invariant hreach).outcomeReported_iff i).mp hpromise p hwaits
  · obtain ⟨c, hreach, hreturned, htrace⟩ := exists_reaches_runJobs e jobs timeout replies
    exact ⟨c, _, _, Executor.runPages_of_ok replies hjobs, hreach, hreturned, htrace⟩

/-- The first page meets silence, all others a failure of the transport. -/
def firstSilent : Nat → Reply String
  | 0 => .silence
  | _ => .failure (.transport (some 503) "down" "q")

/-- The two first pages of the search for everything. -/
def venuesPages : List (Job Document) :=
  [((Search.ofIndex "venues").page 0 10).job, ((Search.ofIndex "venues").page 10 10).job]

theorem outcomeReported_iff_not_waiting_firstSilent :
    (Search.ofIndex "venues").job.pages 2 = .ok venuesPages ∧
    ∃ c : PagedCall Flat.Params Document,
      Reaches (.standard .flat) venuesPages none firstSilent initial c ∧
        c.returned = some (.error (.transport (some 503) "down" "q")) ∧
        ¬ OutcomeReported (reportsOf (c.traceOf 0)) ∧ ∃ p, c.page 0 = some (.waiting p) := by
  have hjobs : (Search.ofIndex "venues").job.pages 2 = .ok venuesPages := rfl
  obtain ⟨hcall, -⟩ := outcomeReported_iff_not_waiting (.standard .flat)
    (Search.ofIndex "venues").job 2 none firstSilent
  obtain ⟨-, hpages, hdropped, -⟩ := hcall venuesPages hjobs
  obtain ⟨c, hreach, hreturned, hpromise⟩ :=
    hdropped 0 1 _ _ _ .zero _ rfl rfl (by decide) rfl rfl
  have hwaits : ¬ ∀ p, c.page 0 ≠ some (.waiting p) := fun h =>
    hpromise (((hpages c hreach).1 0).mpr h)
  exact ⟨hjobs, c, hreach, hreturned, hpromise, by simpa using hwaits⟩

/-- With two pages the failure of the second can leave the first without an outcome, and
    in the order of `runPages` it does. -/
theorem dropped_page_without_outcome :
    (Search.ofIndex "venues").job.pages 2 = .ok venuesPages ∧
    (¬ ∀ c : PagedCall Flat.Params Document,
      Reaches (.standard .flat) venuesPages none firstSilent initial c →
        c.returned.isSome = true → ∀ k, OutcomeReported (reportsOf (c.traceOf k))) ∧
    (Executor.runPages (.standard .flat) (Search.ofIndex "venues").job 2 none firstSilent).map
        (fun result => reportsOf result.2) =
      .ok [(⟨"flat", "venues", "q=*%3A*&start=0&rows=10"⟩, .started),
        (⟨"flat", "venues", "q=*%3A*&start=10&rows=10"⟩, .started),
        (⟨"flat", "venues", "q=*%3A*&start=10&rows=10"⟩,
          .failed (.transport (some 503) "down" "q"))] := by
  refine ⟨rfl, ?_, ?_⟩
  · intro h
    have hfirst : venuesPages[0]? = some ((Search.ofIndex "venues").page 0 10).job := rfl
    have hsecond : venuesPages[1]? = some ((Search.ofIndex "venues").page 10 10).job := rfl
    have hfails : ((Executor.standard .flat).run ((Search.ofIndex "venues").page 10 10).job none
        .zero (firstSilent 1)).1 = .error (.transport (some 503) "down" "q") := rfl
    obtain ⟨c, hreach, hreturned, hwaits⟩ :=
      exists_reaches_dropped hfirst hsecond (by decide) rfl hfails
    have hpromise := h c hreach (by rw [hreturned]; rfl) 0
    exact ((Reaches.invariant hreach).outcomeReported_iff 0).mp hpromise _ hwaits
  · decide +kernel

end PagedCall

end Retrieval
