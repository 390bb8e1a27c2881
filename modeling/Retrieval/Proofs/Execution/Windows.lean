/-
  Retrieval/Proofs/Execution/Windows.lean
  =======================================
  **The windows of consecutive pages.**

  A search for `limit` matches from `start` on asks for a window of its matches.  The
  pages of a call tile the matches behind the start of the search: page `k` begins `k`
  limits after it, each page where the one before it ends (`Tiles`).

  Offsets are 64-bit words, and nothing checks beforehand that they fit.  A call whose
  last page begins at a word has all its pages, and these tile (`pages_eq_ok_iff`,
  `tiles_of_fits`).  Any other call ends in the overflow of the first page that begins
  beyond (`exists_of_pages_eq_error`) and asks for nothing: the pages before that one,
  whose windows would be in order, are not started either.
-/
import Retrieval.Proofs.Execution.Scheduling
import Mathlib.Order.Interval.Set.Defs
import Mathlib.Order.Nat

namespace Retrieval

namespace Overflow

theorem word_of_lt {n : Nat} (operation : Overflow) (h : n < UInt64.size) :
    operation.word n = .ok (UInt64.ofNat n) := if_pos h

theorem word_of_le {n : Nat} (operation : Overflow) (h : UInt64.size ≤ n) :
    operation.word n = .error operation := if_neg (Nat.not_lt_of_le h)

end Overflow

namespace Search

/-- The numbers of the matches that a search asks for. -/
def window (s : Search) : Set Nat := Set.Ico s.start.toNat (s.start.toNat + s.limit.toNat)

/-- Where page `k` should begin, as a number without bound. -/
def offset (s : Search) (k : Nat) : Nat := s.start.toNat + k * s.limit.toNat

/-- The search with another start. -/
def startingAt (s : Search) (n : Nat) : Search := { s with start := UInt64.ofNat n }

theorem offset_succ (s : Search) (k : Nat) : s.offset (k + 1) = s.offset k + s.limit.toNat := by
  rw [offset, offset, Nat.add_mul, Nat.one_mul, Nat.add_assoc]

theorem offset_mono (s : Search) {j k : Nat} (h : j ≤ k) : s.offset j ≤ s.offset k :=
  Nat.add_le_add_left (Nat.mul_le_mul_right s.limit.toNat h) s.start.toNat

/-- All pages begin at a word if the last one does. -/
theorem fits_iff (s : Search) (pages : Nat) :
    (∀ k ∈ List.range pages, s.offset k < UInt64.size) ↔
      pages = 0 ∨ s.start.toNat + (pages - 1) * s.limit.toNat < UInt64.size := by
  constructor
  · intro h
    by_cases hpages : pages = 0
    · exact .inl hpages
    · exact .inr (h (pages - 1) (List.mem_range.mpr (by omega)))
  · intro h k hk
    rw [List.mem_range] at hk
    rcases h with hpages | hlast
    · omega
    · have hle : k ≤ pages - 1 := by omega
      exact Nat.lt_of_le_of_lt (s.offset_mono hle) hlast

/-! ### Where a page begins -/

/-- The operation that fails where page `k` begins beyond all words. -/
def overflowAt (s : Search) (k : Nat) : Overflow :=
  if UInt64.size ≤ k * s.limit.toNat then .product else .sum

theorem pageStart_of_lt {s : Search} {k : Nat} (h : k * s.limit.toNat < UInt64.size) :
    s.pageStart k = Overflow.sum.word (s.offset k) := by
  rw [pageStart, Overflow.word_of_lt .product h]
  change Overflow.sum.word (s.start.toNat + (UInt64.ofNat (k * s.limit.toNat)).toNat) = _
  rw [UInt64.toNat_ofNat_of_lt' h]
  rfl

theorem pageAt_of_fits {s : Search} {k : Nat} (h : s.offset k < UInt64.size) :
    s.pageAt k = .ok (s.startingAt (s.offset k)) := by
  have hproduct : k * s.limit.toNat < UInt64.size := Nat.lt_of_le_of_lt (Nat.le_add_left _ _) h
  rw [pageAt, pageStart_of_lt hproduct, Overflow.word_of_lt .sum h]
  rfl

theorem pageAt_of_exceeds {s : Search} {k : Nat} (h : UInt64.size ≤ s.offset k) :
    s.pageAt k = .error (s.overflowAt k) := by
  rw [pageAt, overflowAt]
  by_cases hproduct : UInt64.size ≤ k * s.limit.toNat
  · rw [if_pos hproduct, pageStart, Overflow.word_of_le .product hproduct]
    rfl
  · rw [if_neg hproduct, pageStart_of_lt (Nat.lt_of_not_le hproduct), Overflow.word_of_le .sum h]
    rfl

/-! ### Tiles -/

/-- The windows of the pages lie side by side, in order, from the start of the search on. -/
structure Tiles (s : Search) (pages : List Search) : Prop where
  /-- Page `k` begins `k` limits after the search. -/
  starts : ∀ k page, pages[k]? = some page →
    page.start.toNat = s.start.toNat + k * s.limit.toNat
  limits : ∀ page ∈ pages, page.limit = s.limit
  /-- Each page begins where the one before it ends. -/
  adjacent : ∀ k page next, pages[k]? = some page → pages[k + 1]? = some next →
    next.start.toNat = page.start.toNat + page.limit.toNat
  ordered : pages.Pairwise fun page later => ∀ m ∈ page.window, ∀ n ∈ later.window, m < n
  disjoint : pages.Pairwise fun page other => ∀ n ∈ page.window, n ∉ other.window

theorem toNat_start_startingAt (s : Search) {n : Nat} (h : n < UInt64.size) :
    (s.startingAt n).start.toNat = n := UInt64.toNat_ofNat_of_lt' h

theorem window_startingAt (s : Search) {k : Nat} (h : s.offset k < UInt64.size) :
    (s.startingAt (s.offset k)).window = Set.Ico (s.offset k) (s.offset (k + 1)) := by
  have hlimit : (s.startingAt (s.offset k)).limit = s.limit := rfl
  rw [window, hlimit, s.toNat_start_startingAt h, offset_succ]

theorem getElem?_pages (s : Search) {pages k : Nat} {page : Search}
    (h : ((List.range pages).map fun k => s.startingAt (s.offset k))[k]? = some page) :
    k ∈ List.range pages ∧ page = s.startingAt (s.offset k) := by
  rw [List.getElem?_map] at h
  obtain ⟨j, hj, hpage⟩ := Option.map_eq_some_iff.mp h
  obtain ⟨hk, hkj⟩ := List.getElem?_eq_some_iff.mp hj
  rw [List.getElem_range] at hkj
  rw [List.length_range] at hk
  subst hkj
  exact ⟨List.mem_range.mpr hk, hpage.symm⟩

theorem tiles_of_fits {s : Search} {pages : Nat}
    (h : ∀ k ∈ List.range pages, s.offset k < UInt64.size) :
    s.Tiles ((List.range pages).map fun k => s.startingAt (s.offset k)) := by
  have hordered : (List.range pages).Pairwise fun j k =>
      ∀ m ∈ (s.startingAt (s.offset j)).window, ∀ n ∈ (s.startingAt (s.offset k)).window,
        m < n := by
    refine List.pairwise_lt_range.imp_of_mem ?_
    intro j k hj hk hjk m hm n hn
    rw [window_startingAt s (h j hj)] at hm
    rw [window_startingAt s (h k hk)] at hn
    calc m < s.offset (j + 1) := hm.2
      _ ≤ s.offset k := s.offset_mono hjk
      _ ≤ n := hn.1
  refine ⟨?_, ?_, ?_, List.pairwise_map.mpr hordered, List.pairwise_map.mpr ?_⟩
  · intro k page hpage
    obtain ⟨hk, rfl⟩ := s.getElem?_pages hpage
    exact s.toNat_start_startingAt (h k hk)
  · intro page hpage
    obtain ⟨k, -, rfl⟩ := List.mem_map.mp hpage
    rfl
  · intro k page next hpage hnext
    obtain ⟨hk, rfl⟩ := s.getElem?_pages hpage
    obtain ⟨hsucc, rfl⟩ := s.getElem?_pages hnext
    have hlimit : (s.startingAt (s.offset k)).limit = s.limit := rfl
    rw [s.toNat_start_startingAt (h k hk), s.toNat_start_startingAt (h (k + 1) hsucc), hlimit,
      offset_succ]
  · refine hordered.imp ?_
    intro j k hjk n hj hk
    exact Nat.lt_irrefl n (hjk n hj n hk)

end Search

/-! ### The pages of a job -/

namespace Job

variable {α : Type}

/-- The job with another start of its search. -/
def startingAt (job : Job α) (n : Nat) : Job α := { job with search := job.search.startingAt n }

theorem pageAt_of_fits {job : Job α} {k : Nat} (h : job.search.offset k < UInt64.size) :
    job.pageAt k = .ok (job.startingAt (job.search.offset k)) := by
  rw [pageAt, Search.pageAt_of_fits h]
  rfl

theorem pageAt_of_exceeds {job : Job α} {k : Nat} (h : UInt64.size ≤ job.search.offset k) :
    job.pageAt k = .error (job.search.overflowAt k) := by
  rw [pageAt, Search.pageAt_of_exceeds h]
  rfl

theorem pageAt_eq_ok_iff {job page : Job α} {k : Nat} :
    job.pageAt k = .ok page ↔
      job.search.offset k < UInt64.size ∧ job.startingAt (job.search.offset k) = page := by
  by_cases hfits : job.search.offset k < UInt64.size
  · rw [pageAt_of_fits hfits, and_iff_right hfits]
    exact ⟨Except.ok.inj, congrArg Except.ok⟩
  · rw [pageAt_of_exceeds (Nat.le_of_not_lt hfits)]
    exact iff_of_false (fun h => by cases h) fun h => hfits h.1

/-- A call has all its pages or none. -/
theorem pages_eq_ok_iff {job : Job α} {pages : Nat} {jobs : List (Job α)} :
    job.pages pages = .ok jobs ↔
      (∀ k ∈ List.range pages, job.search.offset k < UInt64.size) ∧
        jobs = (List.range pages).map fun k => job.startingAt (job.search.offset k) := by
  rw [Job.pages, mapM_eq_ok_iff]
  simp only [pageAt_eq_ok_iff]
  rw [List.forall₂_and_left, ← List.forall₂_map_left_iff, List.forall₂_eq_eq_eq, eq_comm]

/-- The overflow is the one of the first page that begins beyond all words. -/
theorem exists_of_pages_eq_error {job : Job α} {pages : Nat} {overflow : Overflow}
    (h : job.pages pages = .error overflow) :
    ∃ k, k < pages ∧ (∀ j, j < k → job.search.offset j < UInt64.size) ∧
      UInt64.size ≤ job.search.offset k ∧ overflow = job.search.overflowAt k := by
  obtain ⟨before, k, after, hsplit, hbefore, hfails⟩ := mapM_eq_error_iff.mp h
  rw [List.range_eq_range'] at hsplit
  obtain ⟨m, hm, rfl, hrest⟩ := List.range'_eq_append_iff.mp hsplit
  obtain ⟨hk, hlength, -⟩ := List.range'_eq_cons_iff.mp hrest.symm
  have hexceeds : UInt64.size ≤ job.search.offset k := by
    by_contra hfits
    rw [pageAt_of_fits (Nat.lt_of_not_le hfits)] at hfails
    cases hfails
  rw [pageAt_of_exceeds hexceeds] at hfails
  refine ⟨k, by omega, ?_, hexceeds, (Except.error.inj hfails).symm⟩
  intro j hj
  obtain ⟨page, hpage⟩ := hbefore j (List.mem_range'_1.mpr ⟨Nat.zero_le j, by omega⟩)
  exact (pageAt_eq_ok_iff.mp hpage).1

end Job

/-! ### What a call asks for -/

namespace PagedCall

variable {Q B α : Type} {e : Executor Q B} {job : Job α} {timeout : Option Duration}

/-- A page that has been started has sent the request of its search, and nothing else. -/
theorem PageFollows.requestsOf_eq {reply : Reply B} {state : PageState Q α}
    {trace : List Occurrence} (h : PageFollows e timeout job reply (some state) trace) {query : Q}
    (hcompile : e.backend.compile job.search = .ok query) :
    requestsOf trace =
      [⟨job.search.index, e.backend.text query, timeout.getD e.config.timeout⟩] := by
  have hprepare : e.prepare job.search timeout = .ok _ := Executor.prepare_of_ok hcompile
  cases state with
  | waiting p =>
    obtain ⟨hwaits, rfl⟩ := h
    rw [hprepare] at hwaits
    cases hwaits
    rfl
  | settled outcome =>
    obtain ⟨delay, hrun⟩ := h
    have hasked := (Executor.protocol_of_prepare hprepare delay reply).asked
    rw [hrun] at hasked
    exact hasked

theorem PageFollows.requestsOf_eq_nil {reply : Reply B} {state : PageState Q α}
    {trace : List Occurrence} (h : PageFollows e timeout job reply (some state) trace)
    {failure : Failure} (hcompile : e.backend.compile job.search = .error failure) :
    requestsOf trace = [] := by
  have hprepare : e.prepare job.search timeout = .error failure :=
    Executor.prepare_of_error hcompile
  cases state with
  | waiting p =>
    obtain ⟨hwaits, -⟩ := h
    rw [hprepare] at hwaits
    cases hwaits
  | settled outcome =>
    obtain ⟨delay, hrun⟩ := h
    rw [Executor.run_of_error hprepare] at hrun
    cases hrun
    rfl

/-- **Which windows a call asks for.**  A call has its pages exactly when the offset of the
    last one is a word.  Page `k` is then the job with a search that begins `k` limits
    later, and the windows tile.  In every order, a page that has been started asks for
    the window of its search and for nothing else, and a call that returns responses has
    started all pages.  A call whose last offset is no word ends in an overflow: of the
    product of page and limit where that is no word, or else of the sum. -/
theorem requested_windows_tile_iff (e : Executor Q B) (job : Job α) (pages : Nat)
    (timeout : Option Duration) (replies : Nat → Reply B) :
    (∀ jobs, job.pages pages = .ok jobs ↔
      (pages = 0 ∨
        job.search.start.toNat + (pages - 1) * job.search.limit.toNat < UInt64.size) ∧
      jobs = (List.range pages).map fun k => { job with search := { job.search with
        start := UInt64.ofNat (job.search.start.toNat + k * job.search.limit.toNat) } }) ∧
    (∀ jobs, job.pages pages = .ok jobs →
      e.runPages job pages timeout replies = .ok (e.runJobs jobs timeout replies) ∧
      jobs.length = pages ∧ job.search.Tiles (jobs.map Job.search) ∧
      ∀ c, Reaches e jobs timeout replies initial c →
        (∀ k page, jobs[k]? = some page → c.page k ≠ none →
          (∀ query, e.backend.compile page.search = .ok query →
            requestsOf (c.traceOf k) =
              [⟨job.search.index, e.backend.text query, timeout.getD e.config.timeout⟩]) ∧
          ∀ failure, e.backend.compile page.search = .error failure →
            requestsOf (c.traceOf k) = []) ∧
        ∀ responses, c.returned = some (.ok responses) → ∀ k, k < pages → c.page k ≠ none) ∧
    (¬ (pages = 0 ∨
        job.search.start.toNat + (pages - 1) * job.search.limit.toNat < UInt64.size) →
      ∃ k overflow, e.runPages job pages timeout replies = .error overflow ∧ k < pages ∧
        (∀ j, j < k → job.search.start.toNat + j * job.search.limit.toNat < UInt64.size) ∧
        UInt64.size ≤ job.search.start.toNat + k * job.search.limit.toNat ∧
        overflow = if UInt64.size ≤ k * job.search.limit.toNat then .product else .sum) := by
  refine ⟨fun jobs => ?_, fun jobs hjobs => ?_, fun hexceeds => ?_⟩
  · rw [← job.search.fits_iff pages]
    exact Job.pages_eq_ok_iff
  · obtain ⟨hfits, rfl⟩ := Job.pages_eq_ok_iff.mp hjobs
    refine ⟨Executor.runPages_of_ok replies hjobs, Executor.length_pages hjobs, ?_,
      fun c hreach => ⟨?_, ?_⟩⟩
    · rw [List.map_map]
      exact Search.tiles_of_fits hfits
    · intro k page hpage hstarted
      have hfollows := (Reaches.invariant hreach).follows k page hpage
      obtain ⟨state, hstate⟩ := Option.ne_none_iff_exists'.mp hstarted
      rw [hstate] at hfollows
      have hindex : page.search.index = job.search.index := by
        obtain ⟨j, -, rfl⟩ := List.mem_map.mp (List.mem_of_getElem? hpage)
        rfl
      rw [← hindex]
      exact ⟨fun query => hfollows.requestsOf_eq, fun failure => hfollows.requestsOf_eq_nil⟩
    · intro responses hreturned k hk
      have hlength := Nat.lt_of_lt_of_eq hk (Executor.length_pages hjobs).symm
      obtain ⟨response, hresponse⟩ := (Reaches.invariant hreach).answered hreturned hlength
      rw [hresponse]
      exact Option.some_ne_none _
  · cases hjobs : job.pages pages with
    | ok jobs =>
      have hfits := (Job.pages_eq_ok_iff.mp hjobs).1
      exact absurd ((job.search.fits_iff pages).mp hfits) hexceeds
    | error overflow =>
      obtain ⟨k, hk, hbefore, hbeyond, hcause⟩ := Job.exists_of_pages_eq_error hjobs
      exact ⟨k, overflow, Executor.runPages_of_error replies hjobs, hk, hbefore, hbeyond, hcause⟩

/-- A search whose pages take one half of all words each. -/
def halves : Search := { Search.ofIndex "venues" with limit := 9223372036854775808 }

/-- The answer of an index in which nothing matches. -/
def noMatches : Reply String := .body "\x7b\"response\":\x7b\"numFound\":0,\"docs\":[]\x7d\x7d"

def bothHalves : List (Job Document) := [halves.job, (halves.startingAt 9223372036854775808).job]

/-- Two halves tile. -/
theorem requested_windows_tile_iff_halves :
    halves.job.pages 2 = .ok bothHalves ∧ halves.Tiles (bothHalves.map Job.search) ∧
      ∃ (c : PagedCall Flat.Params Document) (responses : List (Response Document)),
        Reaches (.standard .flat) bothHalves none (fun _ => noMatches) initial c ∧
          c.returned = some (.ok responses) ∧
          requestsOf (c.traceOf 1) =
            [⟨"venues", "q=*%3A*&start=9223372036854775808&rows=9223372036854775808",
              ⟨5000000000⟩⟩] := by
  obtain ⟨hpages, hcalls, -⟩ :=
    requested_windows_tile_iff (.standard .flat) halves.job 2 none fun _ => noMatches
  have hjobs : halves.job.pages 2 = .ok bothHalves := (hpages bothHalves).mpr ⟨by decide, rfl⟩
  obtain ⟨-, -, htiles, hall⟩ := hcalls bothHalves hjobs
  obtain ⟨c, hreach, hreturned, -⟩ :=
    exists_reaches_runJobs (.standard .flat) bothHalves none fun _ => noMatches
  have hok : (Executor.runJobs (.standard .flat) bothHalves none
      fun _ => noMatches).1.isOk = true := by
    decide +kernel
  obtain ⟨hasks, hstarted⟩ := hall c hreach
  cases hresult : (Executor.runJobs (.standard .flat) bothHalves none fun _ => noMatches).1 with
  | error failure =>
    rw [hresult] at hok
    cases hok
  | ok responses =>
    rw [hresult] at hreturned
    have hsecond : c.page 1 ≠ none := hstarted responses hreturned 1 (by decide)
    exact ⟨hjobs, htiles, c, responses, hreach, hreturned, (hasks 1 _ rfl hsecond).1 _ rfl⟩

/-- The third half would begin where the words end.  The call for it ends in the overflow of
    the product, and the two halves before it are not asked for either. -/
theorem third_half_overflows :
    halves.start.toNat + 2 * halves.limit.toNat = UInt64.size ∧
    (¬ ∃ jobs, halves.job.pages 3 = .ok jobs) ∧
    Executor.runPages (.standard .flat) halves.job 3 none (fun _ => noMatches) =
      .error .product := by
  have hpages : halves.job.pages 3 = .error .product := rfl
  refine ⟨rfl, ?_, Executor.runPages_of_error _ hpages⟩
  rintro ⟨jobs, hjobs⟩
  rw [hpages] at hjobs
  cases hjobs

end PagedCall

end Retrieval
