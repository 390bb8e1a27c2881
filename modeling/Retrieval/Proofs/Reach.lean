/-
  Retrieval/Proofs/Reach.lean
  ===========================
  **How far a setting reaches.**

  A setting is about one part of a search, and a part shows in few places of a request: under
  the keys that `Part.keys` lists in a flat request, and in the members that `Part.members`
  lists in the body of a structured one.  Everywhere else the request stays as it was.

  Both requests are sequences of sections.  A section has its own names and reads some of the
  parts, and if each of these parts is listed with each of the names, then what the section
  writes under a name is decided by the parts that are listed with this name (`Settled`).  There
  is one such lemma for each section, and a sequence of sections inherits the property from
  them (`Settled.append`).
-/
import Retrieval.Proofs.Dict
import Retrieval.Proofs.Flat.CallOrder
import Retrieval.Proofs.Structured.Congruence

namespace Retrieval

/-! ### Places of a request -/

namespace Part

/-- The keys of a flat request that show a part. -/
def keys : Part → List String
  | .clause => ["q", "hl.fl"]
  | .filters => ["fq"]
  | .boostQueries => ["bq"]
  | .boostFunctions => ["bf"]
  | .queryFields => ["qf", "hl.fl"]
  | .phraseBoosts => ["pf", "pf2", "pf3"]
  | .tieBreaker => ["tie"]
  | .queryType => ["defType"]
  | .start => ["start"]
  | .limit => ["rows"]
  | .facetFields | .facetMinCount | .facetLimit =>
    ["facet", "facet.field", "facet.limit", "facet.mincount"]
  | .spatial => ["fq", "sfield", "pt", "d", "fl"]
  | .sort => ["sort"]
  | .minimumMatch => ["mm"]
  | .selection | .qualityFilter => ["fl"]
  | .highlighting => ["hl", "hl.fl"]

/-- The members of a structured body that show a part. -/
def members : Part → List String
  | .clause | .queryFields => ["query", "highlight"]
  | .filters | .boostQueries | .boostFunctions | .phraseBoosts | .tieBreaker | .spatial
  | .minimumMatch => ["query"]
  | .start => ["from"]
  | .limit => ["size"]
  | .facetFields | .facetMinCount | .facetLimit => ["aggs"]
  | .sort => ["sort"]
  | .selection => ["_source"]
  | .highlighting => ["highlight"]
  | .queryType | .qualityFilter => []

end Part

section Sections

variable {α : Type} {places : Part → List String} {f g : Search → List (String × α)}

/-- What a section writes under a name is decided by the parts listed with this name. -/
def Settled (places : Part → List String) (f : Search → List (String × α)) : Prop :=
  ∀ (name : String) (s t : Search), (∀ p : Part, name ∈ places p → p.get s = p.get t) →
    ((f s).filter fun entry => entry.1 == name) = (f t).filter fun entry => entry.1 == name

/-- A section that reads the given parts is settled if they are listed with all its names. -/
theorem settled_of (names : List String) (parts : List Part)
    (hnames : ∀ s, ∀ entry ∈ f s, entry.1 ∈ names)
    (hparts : ∀ s t, (∀ p ∈ parts, p.get s = p.get t) → f s = f t)
    (hlisted : ∀ name ∈ names, ∀ p ∈ parts, name ∈ places p) : Settled places f := by
  intro name s t h
  by_cases hname : name ∈ names
  · rw [hparts s t fun p hp => h p (hlisted name hname p hp)]
  · have hnone : ∀ s, ((f s).filter fun entry => entry.1 == name) = [] := by
      intro s
      apply List.filter_eq_nil_iff.mpr
      intro entry hentry heq
      exact hname (beq_iff_eq.mp heq ▸ hnames s entry hentry)
    rw [hnone s, hnone t]

theorem Settled.append (hf : Settled places f) (hg : Settled places g) :
    Settled places fun s => f s ++ g s := by
  intro name s t h
  rw [List.filter_append, List.filter_append, hf name s t h, hg name s t h]

end Sections

/-- A setting leaves alone what is settled by other parts. -/
theorem Settled.filter_apply {α : Type} {places : Part → List String}
    {f : Search → List (String × α)} (hf : Settled places f) (s : Search) (x : Setting)
    {name : String} (hname : name ∉ places x.part) :
    ((f (x.apply s)).filter fun entry => entry.1 == name)
      = (f s).filter fun entry => entry.1 == name := by
  apply hf
  intro p hp
  apply Setting.get_apply_of_ne
  rintro rfl
  exact hname hp

namespace Search

variable {s t : Search}

theorem facets_congr (hfields : s.facets.fields = t.facets.fields)
    (hlimit : s.facets.limit = t.facets.limit) (hcount : s.facets.minCount = t.facets.minCount) :
    s.facets = t.facets := by
  rcases hs : s.facets with ⟨fields, limit, minCount⟩
  rcases ht : t.facets with ⟨fields', limit', minCount'⟩
  simp_all

theorem highlightFields_congr (hclause : s.clause = t.clause)
    (hfields : s.queryFields = t.queryFields) : s.highlightFields = t.highlightFields := by
  rw [highlightFields, highlightFields, activeQueryFields, activeQueryFields, hclause, hfields]

end Search

/-! ### Flat requests -/

namespace Flat

theorem settled_mainPairs : Settled Part.keys mainPairs := by
  refine settled_of ["q"] [.clause] ?_ ?_ (by decide)
  · simp [mainPairs]
  · intro s t h
    have hclause : s.clause = t.clause := h .clause (by simp)
    rw [mainPairs, mainPairs, hclause]

theorem settled_readerPairs : Settled Part.keys readerPairs := by
  apply Settled.append
  · refine settled_of ["defType"] [.queryType] ?_ ?_ (by decide)
    · simp
    · intro s t h
      have htype : s.queryType = t.queryType := h .queryType (by simp)
      rw [htype]
  · refine settled_of ["mm"] [.minimumMatch] ?_ ?_ (by decide)
    · simp
    · intro s t h
      have hminimum : s.minimumMatch = t.minimumMatch := h .minimumMatch (by simp)
      rw [hminimum]

theorem settled_queryFieldPairs : Settled Part.keys queryFieldPairs := by
  refine settled_of ["qf"] [.queryFields] ?_ ?_ (by decide)
  · simp [queryFieldPairs]
  · intro s t h
    have hfields : s.queryFields = t.queryFields := h .queryFields (by simp)
    rw [queryFieldPairs, queryFieldPairs, Search.activeQueryFields, hfields]
    rfl

theorem settled_scorePairs : Settled Part.keys scorePairs := by
  refine Settled.append (Settled.append (Settled.append ?_ ?_) ?_) ?_
  · refine settled_of ["pf", "pf2", "pf3"] [.phraseBoosts] ?_ ?_ (by decide)
    · intro s entry hentry
      obtain ⟨boost, -, hentry⟩ := List.mem_flatMap.mp hentry
      simp only [phraseBoostPairs, List.mem_append, List.mem_ite_nil_right, List.mem_singleton]
        at hentry
      rcases hentry with (⟨-, rfl⟩ | ⟨-, rfl⟩) | ⟨-, rfl⟩ <;> simp
    · intro s t h
      have hboosts : s.phraseBoosts = t.phraseBoosts := h .phraseBoosts (by simp)
      rw [Search.activePhraseBoosts, hboosts]
      rfl
  · refine settled_of ["tie"] [.tieBreaker] ?_ ?_ (by decide)
    · simp
    · intro s t h
      have htie : s.tieBreaker = t.tieBreaker := h .tieBreaker (by simp)
      rw [htie]
  · refine settled_of ["bq"] [.boostQueries] ?_ ?_ (by decide)
    · simp
    · intro s t h
      have hqueries : s.boostQueries = t.boostQueries := h .boostQueries (by simp)
      rw [hqueries]
  · refine settled_of ["bf"] [.boostFunctions] ?_ ?_ (by decide)
    · simp
    · intro s t h
      have hfunctions : s.boostFunctions = t.boostFunctions := h .boostFunctions (by simp)
      rw [Search.activeBoostFunctions, hfunctions]
      rfl

theorem settled_filterPairs : Settled Part.keys filterPairs := by
  apply Settled.append
  · refine settled_of ["fq"] [.filters] ?_ ?_ (by decide)
    · simp
    · intro s t h
      have hfilters : s.filters = t.filters := h .filters (by simp)
      rw [hfilters]
  · refine settled_of ["fq", "sfield", "pt", "d"] [.spatial] ?_ ?_ (by decide)
    · intro s entry hentry
      cases hspatial : s.spatial with
      | none => simp [hspatial] at hentry
      | some circle =>
        simp only [hspatial, spatialPairs, List.mem_cons, List.not_mem_nil, or_false] at hentry
        rcases hentry with rfl | rfl | rfl | rfl <;> simp
    · intro s t h
      have hspatial : s.spatial = t.spatial := h .spatial (by simp)
      simp only [hspatial]

/-- The pairs of the order.  A search whose order is refused has none. -/
def sortingPairs (s : Search) : List (String × String) := (sortPairs s).toOption.getD []

theorem settled_sortingPairs : Settled Part.keys sortingPairs := by
  refine settled_of ["sort"] [.sort] ?_ ?_ (by decide)
  · intro s entry hentry
    unfold sortingPairs sortPairs at hentry
    cases hsort : s.sort with
    | none => simp [hsort, Except.toOption] at hentry
    | some order =>
      rw [hsort] at hentry
      cases hkey : sortKeyText order.target with
      | error e => simp [hkey, bind, Except.bind, Except.toOption] at hentry
      | ok key => simp_all [bind, Except.bind, pure, Except.pure, Except.toOption]
  · intro s t h
    have hsort : s.sort = t.sort := h .sort (by simp)
    rw [sortingPairs, sortingPairs, sortPairs, sortPairs, hsort]

theorem settled_windowPairs : Settled Part.keys windowPairs := by
  apply Settled.append (f := fun s => [("start", Decimal.naturalText s.start.toNat)])
  · refine settled_of ["start"] [.start] ?_ ?_ (by decide)
    · simp
    · intro s t h
      have hstart : s.start = t.start := h .start (by simp)
      rw [hstart]
  · refine settled_of ["rows"] [.limit] ?_ ?_ (by decide)
    · simp
    · intro s t h
      have hlimit : s.limit = t.limit := h .limit (by simp)
      rw [hlimit]

theorem settled_fieldListPairs : Settled Part.keys fieldListPairs := by
  refine settled_of ["fl"] [.selection, .spatial, .qualityFilter] ?_ ?_ (by decide)
  · intro s entry hentry
    unfold fieldListPairs at hentry
    split at hentry <;> simp_all
  · intro s t h
    have hfields : s.fields = t.fields := h .selection (by simp)
    have hspatial : s.spatial = t.spatial := h .spatial (by simp)
    have hquality : s.qualityFilter = t.qualityFilter := h .qualityFilter (by simp)
    simp only [fieldListPairs, baseFields, hfields, hspatial, hquality]

theorem settled_facetPairs : Settled Part.keys fun s => facetPairs s.facets := by
  refine settled_of ["facet", "facet.field", "facet.limit", "facet.mincount"]
    [.facetFields, .facetLimit, .facetMinCount] ?_ ?_ (by decide)
  · intro s entry hentry
    unfold facetPairs at hentry
    split at hentry
    · simp only [List.cons_append, List.mem_cons, List.mem_append, List.mem_map,
        Option.mem_toList, Option.map_eq_some_iff] at hentry
      rcases hentry with rfl | (⟨field, -, rfl⟩ | ⟨n, -, rfl⟩) | ⟨n, -, rfl⟩ <;> simp
    · cases hentry
  · intro s t h
    rw [Search.facets_congr (h .facetFields (by simp)) (h .facetLimit (by simp))
      (h .facetMinCount (by simp))]

theorem settled_highlightPairs : Settled Part.keys highlightPairs := by
  have hsplit : highlightPairs = fun s => (if s.highlighting then [("hl", "true")] else []) ++
      if s.highlighting then highlightFieldPairs s.highlightFields else [] := by
    funext s
    unfold highlightPairs
    split <;> rfl
  rw [hsplit]
  apply Settled.append
  · refine settled_of ["hl"] [.highlighting] ?_ ?_ (by decide)
    · simp
    · intro s t h
      have hhighlighting : s.highlighting = t.highlighting := h .highlighting (by simp)
      rw [hhighlighting]
  · refine settled_of ["hl.fl"] [.highlighting, .clause, .queryFields] ?_ ?_ (by decide)
    · intro s entry hentry
      unfold highlightFieldPairs at hentry
      split at hentry
      · split at hentry <;> simp_all
      · cases hentry
    · intro s t h
      have hhighlighting : s.highlighting = t.highlighting := h .highlighting (by simp)
      rw [hhighlighting,
        Search.highlightFields_congr (h .clause (by simp)) (h .queryFields (by simp))]

/-- All pairs of a request, as sections that cannot fail. -/
def allPairs (s : Search) : List (String × String) :=
  plainPairs s (sortingPairs s) ++ highlightPairs s

theorem settled_allPairs : Settled Part.keys allPairs :=
  ((((((((settled_mainPairs.append settled_readerPairs).append settled_queryFieldPairs).append
    settled_scorePairs).append settled_filterPairs).append settled_sortingPairs).append
    settled_windowPairs).append settled_fieldListPairs).append settled_facetPairs).append
    settled_highlightPairs

theorem pairs_eq_allPairs {s : Search} {p : Params} (h : Params.ofSearch s = .ok p) :
    p.pairs = allPairs s := by
  rcases hsort : sortPairs s with failure | sorting
  · rw [ofSearch_of_error hsort] at h
    cases h
  · rw [ofSearch_of_ok hsort] at h
    obtain rfl := Except.ok.inj h
    rw [allPairs, sortingPairs, hsort]
    rfl

end Flat

/-! ### Structured requests -/

namespace Structured

open Json

/-- The condition of a field depends on the settings of the default fields. -/
theorem fieldMatch_congr {s t : Search} (hfields : s.queryFields = t.queryFields)
    (hphrases : s.phraseBoosts = t.phraseBoosts) (htie : s.tieBreaker = t.tieBreaker)
    (hminimum : s.minimumMatch = t.minimumMatch) : fieldMatch s = fieldMatch t := by
  have hmembers : minimumMembers s = minimumMembers t := by
    rw [minimumMembers, minimumMembers, hminimum]
  have hdefault : fieldsMembers s = fieldsMembers t := by
    rw [fieldsMembers, fieldsMembers, Search.activeQueryFields, Search.activeQueryFields, hfields]
  have htext : ∀ kind text, textMatch s kind text = textMatch t kind text := by
    intro kind text
    rw [textMatch, textMatch, phrasePreferences, phrasePreferences, defaultFieldsMatch,
      defaultFieldsMatch, Search.activePhraseBoosts, Search.activePhraseBoosts, hdefault, hmembers,
      htie, hphrases]
  have hunscoped : unscopedLeaf s = unscopedLeaf t := by
    funext q
    cases q <;> simp only [unscopedLeaf, htext]
  have hscoped : scopedLeaf s = scopedLeaf t := by
    funext field q
    cases q <;> simp only [scopedLeaf, wordsMatch, hmembers]
  funext clause
  rw [fieldMatch, fieldMatch, unscopedMatch, unscopedMatch, scopedMatch, scopedMatch, hunscoped,
    hscoped]

def queryParts : List Part :=
  [.clause, .filters, .boostQueries, .boostFunctions, .queryFields, .phraseBoosts, .tieBreaker,
    .spatial, .minimumMatch]

theorem querySection_eq_of_parts {s t : Search} (h : ∀ p ∈ queryParts, p.get s = p.get t) :
    querySection s = querySection t := by
  have hfields : fieldMatch s = fieldMatch t :=
    fieldMatch_congr (h .queryFields (by decide)) (h .phraseBoosts (by decide))
      (h .tieBreaker (by decide)) (h .minimumMatch (by decide))
  have hfunctions : s.boostFunctions = t.boostFunctions := h .boostFunctions (by decide)
  apply querySection_congr hfields (h .clause (by decide)) (h .filters (by decide))
    (h .spatial (by decide)) (h .boostQueries (by decide))
  rw [Search.activeBoostFunctions, Search.activeBoostFunctions, hfunctions]

/-- The query section as a member.  A search whose query is refused has none. -/
def queryMembers (s : Search) : List (String × Json) :=
  ((querySection s).toOption.map fun query => ("query", query)).toList

def sortingMembers (s : Search) : List (String × Json) := (sortMembers s).toOption.getD []

/-- All members of a body, as sections that cannot fail. -/
def allMembers (s : Search) : List (String × Json) :=
  queryMembers s ++ [("from", natural s.start)] ++ [("size", natural s.limit)] ++
    sortingMembers s ++ sourceMembers s ++ facetMembers s.facets ++ highlightMembers s

theorem settled_queryMembers : Settled Part.members queryMembers := by
  refine settled_of ["query"] queryParts ?_ ?_ (by decide)
  · simp [queryMembers]
  · intro s t h
    rw [queryMembers, queryMembers, querySection_eq_of_parts h]

theorem settled_from : Settled Part.members fun s => [("from", natural s.start)] := by
  refine settled_of ["from"] [.start] ?_ ?_ (by decide)
  · simp
  · intro s t h
    have hstart : s.start = t.start := h .start (by simp)
    rw [hstart]

theorem settled_size : Settled Part.members fun s => [("size", natural s.limit)] := by
  refine settled_of ["size"] [.limit] ?_ ?_ (by decide)
  · simp
  · intro s t h
    have hlimit : s.limit = t.limit := h .limit (by simp)
    rw [hlimit]

theorem settled_sortingMembers : Settled Part.members sortingMembers := by
  refine settled_of ["sort"] [.sort] ?_ ?_ (by decide)
  · intro s entry hentry
    unfold sortingMembers sortMembers at hentry
    cases hsort : s.sort with
    | none => simp [hsort, Except.toOption] at hentry
    | some order =>
      rw [hsort] at hentry
      cases hkey : sortEntry order with
      | error e => simp [hkey, bind, Except.bind, Except.toOption] at hentry
      | ok key => simp_all [bind, Except.bind, pure, Except.pure, Except.toOption]
  · intro s t h
    have hsort : s.sort = t.sort := h .sort (by simp)
    rw [sortingMembers, sortingMembers, sortMembers, sortMembers, hsort]

theorem settled_sourceMembers : Settled Part.members sourceMembers := by
  refine settled_of ["_source"] [.selection] ?_ ?_ (by decide)
  · intro s entry hentry
    unfold sourceMembers at hentry
    split at hentry <;> simp_all
  · intro s t h
    have hfields : s.fields = t.fields := h .selection (by simp)
    rw [sourceMembers, sourceMembers, hfields]

theorem settled_facetMembers : Settled Part.members fun s => facetMembers s.facets := by
  refine settled_of ["aggs"] [.facetFields, .facetLimit, .facetMinCount] ?_ ?_ (by decide)
  · intro s entry hentry
    unfold facetMembers at hentry
    split at hentry <;> simp_all
  · intro s t h
    rw [Search.facets_congr (h .facetFields (by simp)) (h .facetLimit (by simp))
      (h .facetMinCount (by simp))]

theorem settled_highlightMembers : Settled Part.members highlightMembers := by
  refine settled_of ["highlight"] [.highlighting, .clause, .queryFields] ?_ ?_ (by decide)
  · intro s entry hentry
    unfold highlightMembers at hentry
    split at hentry <;> simp_all
  · intro s t h
    have hhighlighting : s.highlighting = t.highlighting := h .highlighting (by simp)
    rw [highlightMembers, highlightMembers, hhighlighting,
      Search.highlightFields_congr (h .clause (by simp)) (h .queryFields (by simp))]

theorem settled_allMembers : Settled Part.members allMembers :=
  (((((settled_queryMembers.append settled_from).append settled_size).append
    settled_sortingMembers).append settled_sourceMembers).append settled_facetMembers).append
    settled_highlightMembers

theorem body_eq_record {s : Search} {b : Json} (h : body s = .ok b) :
    b = record (allMembers s) := by
  obtain ⟨query, hquery, h⟩ := bind_eq_ok_iff.mp h
  obtain ⟨sorting, hsorting, h⟩ := bind_eq_ok_iff.mp h
  obtain rfl := pure_eq_ok_iff.mp h
  rw [allMembers, queryMembers, sortingMembers, hquery, hsorting]
  rfl

/-- Two searches that differ in parts without a member have the same body. -/
theorem body_eq_of_parts {s t : Search} (h : ∀ p : Part, p.members ≠ [] → p.get s = p.get t) :
    body s = body t := by
  have hquery : querySection s = querySection t := by
    apply querySection_eq_of_parts
    intro p hp
    apply h
    revert p
    decide
  have hsort : s.sort = t.sort := h .sort (by decide)
  have hfields : s.fields = t.fields := h .selection (by decide)
  have hstart : s.start = t.start := h .start (by decide)
  have hlimit : s.limit = t.limit := h .limit (by decide)
  have hhighlighting : s.highlighting = t.highlighting := h .highlighting (by decide)
  have hfacets : s.facets = t.facets :=
    Search.facets_congr (h .facetFields (by decide)) (h .facetLimit (by decide))
      (h .facetMinCount (by decide))
  have hnames : s.highlightFields = t.highlightFields :=
    Search.highlightFields_congr (h .clause (by decide)) (h .queryFields (by decide))
  rw [body, body, sortMembers, sortMembers, sourceMembers, sourceMembers, highlightMembers,
    highlightMembers, hquery, hsort, hfields, hstart, hlimit, hhighlighting, hfacets, hnames]

end Structured

/-- **Every setting stays in its places.**  The values of a flat request change under the keys
    of the part that the setting is about and under no others, and in a structured body no
    other members change.  Without a member there is no change of the body at all. -/
theorem setting_stays_in_its_places (s : Search) (x : Setting) :
    (∀ p p', Flat.Params.ofSearch s = .ok p → Flat.Params.ofSearch (x.apply s) = .ok p' →
      ∀ key ∉ x.part.keys, p'.getAll key = p.getAll key) ∧
    (∀ b b', Structured.body s = .ok b → Structured.body (x.apply s) = .ok b' →
      ∀ name ∉ x.part.members, b'.member? name = b.member? name) ∧
    (x.part.members = [] → Structured.body (x.apply s) = Structured.body s) := by
  refine ⟨?_, ?_, ?_⟩
  · intro p p' hp hp' key hkey
    rw [Flat.Params.getAll, Flat.Params.getAll, Flat.pairs_eq_allPairs hp,
      Flat.pairs_eq_allPairs hp', Flat.settled_allPairs.filter_apply s x hkey]
  · intro b b' hb hb' name hname
    rw [Structured.body_eq_record hb, Structured.body_eq_record hb']
    exact Dict.get?_ofEntries_congr (Structured.settled_allMembers.filter_apply s x hname)
  · intro hnone
    apply Structured.body_eq_of_parts
    intro p hp
    apply Setting.get_apply_of_ne
    rintro rfl
    exact hp hnone

/-- A search with a field by default, whose matches are highlighted. -/
def highlightedSearch : Search :=
  { Search.ofIndex "venues" with queryFields := [⟨"name", .one⟩], highlighting := true }

def namedCity : Setting := .and (.field (.including "city" (.exactly "nyc")))

theorem setting_stays_in_its_places_namedCity :
    ∃ p p' b b', Flat.Params.ofSearch highlightedSearch = .ok p ∧
      Flat.Params.ofSearch (namedCity.apply highlightedSearch) = .ok p' ∧
      Structured.body highlightedSearch = .ok b ∧
      Structured.body (namedCity.apply highlightedSearch) = .ok b' ∧
      p.getAll "hl.fl" = ["name"] ∧ p'.getAll "hl.fl" = ["city"] ∧
      p'.getAll "qf" = p.getAll "qf" ∧ b'.member? "from" = b.member? "from" ∧
      Structured.body (Setting.apply highlightedSearch (.queryType "edismax"))
        = Structured.body highlightedSearch := by
  have hflat : ∃ p, Flat.Params.ofSearch highlightedSearch = .ok p ∧
      p.getAll "hl.fl" = ["name"] :=
    ⟨_, Flat.ofSearch_of_ok rfl, by decide +kernel⟩
  have hflat' : ∃ p, Flat.Params.ofSearch (namedCity.apply highlightedSearch) = .ok p ∧
      p.getAll "hl.fl" = ["city"] :=
    ⟨_, Flat.ofSearch_of_ok rfl, by decide +kernel⟩
  have hbody : ∃ b, Structured.body highlightedSearch = .ok b := ⟨_, rfl⟩
  have hbody' : ∃ b, Structured.body (namedCity.apply highlightedSearch) = .ok b := ⟨_, rfl⟩
  obtain ⟨p, hp, hbefore⟩ := hflat
  obtain ⟨p', hp', hafter⟩ := hflat'
  obtain ⟨b, hb⟩ := hbody
  obtain ⟨b', hb'⟩ := hbody'
  obtain ⟨hkeys, hmembers, -⟩ := setting_stays_in_its_places highlightedSearch namedCity
  obtain ⟨-, -, hnone⟩ := setting_stays_in_its_places highlightedSearch (.queryType "edismax")
  exact ⟨p, p', b, b', hp, hp', hb, hb', hbefore, hafter, hkeys p p' hp hp' "qf" (by decide),
    hmembers b b' hb hb' "from" (by decide), hnone rfl⟩

end Retrieval
