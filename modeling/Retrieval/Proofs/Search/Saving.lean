/-
  Retrieval/Proofs/Search/Saving.lean
  ===================================
  **Saved searches.**

  A search is saved as JSON, where only finite numbers have a form.  Reading it gives the search
  back, with all bits of its numbers, exactly if the numbers anywhere in it are finite
  (`saved_search_restored_iff`).

  The proof goes up through the types that a search is made of.  Each of them has its numbers
  (`scalars`) and one lemma `restores`, which says that its decoder restores it where they are
  finite.  Expressions and clauses nest, so for them this is an induction.
-/
import Retrieval.Proofs.Denotation
import Retrieval.Proofs.Json.Restoring
import Retrieval.Search.Serial

namespace Retrieval

open Json

/-! ### Numbers -/

/-- None of the numbers is an infinity or no number at all. -/
def AllFinite (xs : List Scalar) : Prop := ∀ x ∈ xs, x.isFinite = true

section AllFinite

variable {α : Type} {x : Scalar} {xs ys : List Scalar}

@[simp] theorem allFinite_nil : AllFinite [] := List.forall_mem_nil _

@[simp] theorem allFinite_cons : AllFinite (x :: xs) ↔ x.isFinite = true ∧ AllFinite xs :=
  List.forall_mem_cons

@[simp] theorem allFinite_append : AllFinite (xs ++ ys) ↔ AllFinite xs ∧ AllFinite ys :=
  List.forall_mem_append

@[simp] theorem allFinite_toList {o : Option Scalar} :
    AllFinite o.toList ↔ ∀ x ∈ o, x.isFinite = true := by
  simp [AllFinite]

@[simp] theorem allFinite_flatMap {f : α → List Scalar} {as : List α} :
    AllFinite (as.flatMap f) ↔ ∀ a ∈ as, AllFinite (f a) := List.forall_mem_flatMap

end AllFinite

/-! ### Expressions -/

theorem DistanceShape.restores (shape : DistanceShape) :
    Restores DistanceShape.decoder shape.toJson shape True := by
  apply restores_choice
  cases shape with
  | arc => rfl
  | square => rfl

namespace Query

mutual

/-- The numbers in an expression: weights, coordinates and the coefficients of reciprocals. -/
def scalars : Query → List Scalar
  | .splat => []
  | .term .. => []
  | .phrase .. => []
  | .words .. => []
  | .group q => scalars q
  | .boost q w => w :: scalars q
  | .range l h => scalars l ++ scalars h
  | .allOf qs => scalarsAll qs
  | .anyOf qs => scalarsAll qs
  | .distance _ lat lng _ => [lat, lng]
  | .reciprocal q x y z => x :: y :: z :: scalars q
  | .fieldValue _ => []

def scalarsAll : List Query → List Scalar
  | [] => []
  | q :: qs => scalars q ++ scalarsAll qs

end

theorem scalarsAll_eq_flatMap (qs : List Query) : scalarsAll qs = qs.flatMap scalars := by
  induction qs with
  | nil => rfl
  | cons q qs ih => rw [scalarsAll, ih, List.flatMap_cons]

theorem toJsonAll_eq_map (qs : List Query) : toJsonAll qs = qs.map toJson := by
  induction qs with
  | nil => rfl
  | cons q qs ih => rw [toJsonAll, ih, List.map_cons]

/-! What the decoder makes of a variant.  Where a part of the content is an expression again, it
has two levels less than the whole, and these are the levels of the record or array it stands in. -/

section Variants

variable (levels : Nat) (s : Source)

theorem decoder_allOf :
    decoder (levels + 1) (.object [(some "And", s)])
      = (Decode.list decoder levels s).map .allOf := by
  cases levels with
  | zero => rfl
  | succ levels => cases s <;> rfl

theorem decoder_anyOf :
    decoder (levels + 1) (.object [(some "Or", s)])
      = (Decode.list decoder levels s).map .anyOf := by
  cases levels with
  | zero => rfl
  | succ levels => cases s <;> rfl

theorem decoder_boost :
    decoder (levels + 1) (.object [(some "Boost", s)]) = (do
      let r ← Record.ofSource? ["query", "weight"] levels s
      pure (.boost (← r.required "query" decoder) (← r.required "weight" Decode.scalar))) := by
  cases levels with
  | zero => rfl
  | succ levels =>
    have hread : decoder (levels + 2) (.object [(some "Boost", s)]) = (do
        let r ← Record.ofSource? ["query", "weight"] (levels + 1) s
        pure (.boost (← decoder levels (← r.part? "query"))
          (← r.required "weight" Decode.scalar))) := by
      cases s <;> rfl
    rw [hread]
    refine Option.bind_congr fun r hr => ?_
    rw [Record.required_of_ofSource? hr "query"]
    exact (Option.bind_assoc ..).symm

theorem decoder_range :
    decoder (levels + 1) (.object [(some "Range", s)]) = (do
      let r ← Record.ofSource? ["low", "high"] levels s
      pure (.range (← r.required "low" decoder) (← r.required "high" decoder))) := by
  cases levels with
  | zero => rfl
  | succ levels =>
    have hread : decoder (levels + 2) (.object [(some "Range", s)]) = (do
        let r ← Record.ofSource? ["low", "high"] (levels + 1) s
        pure (.range (← decoder levels (← r.part? "low"))
          (← decoder levels (← r.part? "high")))) := by
      cases s <;> rfl
    rw [hread]
    refine Option.bind_congr fun r hr => ?_
    simp only [Record.required_of_ofSource? hr, Option.bind_eq_bind, Option.bind_assoc]

theorem decoder_reciprocal :
    decoder (levels + 1) (.object [(some "Recip", s)]) = (do
      let r ← Record.ofSource? ["query", "x", "y", "z"] levels s
      pure (.reciprocal (← r.required "query" decoder) (← r.required "x" Decode.scalar)
        (← r.required "y" Decode.scalar) (← r.required "z" Decode.scalar))) := by
  cases levels with
  | zero => rfl
  | succ levels =>
    have hread : decoder (levels + 2) (.object [(some "Recip", s)]) = (do
        let r ← Record.ofSource? ["query", "x", "y", "z"] (levels + 1) s
        pure (.reciprocal (← decoder levels (← r.part? "query")) (← r.required "x" Decode.scalar)
          (← r.required "y" Decode.scalar) (← r.required "z" Decode.scalar))) := by
      cases s <;> rfl
    rw [hread]
    refine Option.bind_congr fun r hr => ?_
    rw [Record.required_of_ofSource? hr "query"]
    exact (Option.bind_assoc ..).symm

end Variants

theorem restores (q : Query) : Restores decoder q.toJson q (AllFinite q.scalars) := by
  induction q with
  | splat =>
    intro levels _
    refine iff_of_true ?_ allFinite_nil
    cases levels with
    | zero => rfl
    | succ levels => rfl
  | term values escaped =>
    refine Restores.variant (fun _ _ => rfl) (Restores.record rfl (by decide) ?_)
    rintro r ⟨hvalues, hescaped⟩
    simp only [bind_eq_some_iff, pure_eq_some_iff, Query.term.injEq, existsAndEq]
    rw [hvalues.required (restores_texts values), hescaped.required (restores_flag escaped)]
    simp [scalars]
  | phrase value escaped =>
    refine Restores.variant (fun _ _ => rfl) (Restores.record rfl (by decide) ?_)
    rintro r ⟨hvalue, hescaped⟩
    simp only [bind_eq_some_iff, pure_eq_some_iff, Query.phrase.injEq, existsAndEq]
    rw [hvalue.required (restores_text value), hescaped.required (restores_flag escaped)]
    simp [scalars]
  | words value escaped =>
    refine Restores.variant (fun _ _ => rfl) (Restores.record rfl (by decide) ?_)
    rintro r ⟨hvalue, hescaped⟩
    simp only [bind_eq_some_iff, pure_eq_some_iff, Query.words.injEq, existsAndEq]
    rw [hvalue.required (restores_text value), hescaped.required (restores_flag escaped)]
    simp [scalars]
  | group q ih =>
    exact Restores.variant (fun _ _ => rfl) (ih.map fun _ _ => Query.group.inj)
  | boost q weight ih =>
    refine Restores.variant decoder_boost (Restores.record rfl (by decide) ?_)
    rintro r ⟨hquery, hweight⟩
    simp only [bind_eq_some_iff, pure_eq_some_iff, Query.boost.injEq, existsAndEq]
    rw [hquery.required ih, hweight.required (restores_scalar weight)]
    simp [scalars, and_comm]
  | range low high ihlow ihhigh =>
    refine Restores.variant decoder_range (Restores.record rfl (by decide) ?_)
    rintro r ⟨hlow, hhigh⟩
    simp only [bind_eq_some_iff, pure_eq_some_iff, Query.range.injEq, existsAndEq]
    rw [hlow.required ihlow, hhigh.required ihhigh]
    simp [scalars]
  | allOf qs ih =>
    rw [toJson, toJsonAll_eq_map, scalars, scalarsAll_eq_flatMap, allFinite_flatMap]
    exact Restores.variant decoder_allOf ((Restores.list ih).map fun _ _ => Query.allOf.inj)
  | anyOf qs ih =>
    rw [toJson, toJsonAll_eq_map, scalars, scalarsAll_eq_flatMap, allFinite_flatMap]
    exact Restores.variant decoder_anyOf ((Restores.list ih).map fun _ _ => Query.anyOf.inj)
  | distance field lat lng shape =>
    refine Restores.variant (fun _ _ => rfl) (Restores.record rfl (by decide) ?_)
    rintro r ⟨hfield, hlat, hlng, hshape⟩
    simp only [bind_eq_some_iff, pure_eq_some_iff, Query.distance.injEq, existsAndEq]
    rw [hfield.required (restores_text field), hlat.required (restores_scalar lat),
      hlng.required (restores_scalar lng), hshape.required shape.restores]
    simp [scalars]
  | reciprocal q x y z ih =>
    refine Restores.variant decoder_reciprocal (Restores.record rfl (by decide) ?_)
    rintro r ⟨hquery, hx, hy, hz⟩
    simp only [bind_eq_some_iff, pure_eq_some_iff, Query.reciprocal.injEq, existsAndEq]
    rw [hquery.required ih, hx.required (restores_scalar x), hy.required (restores_scalar y),
      hz.required (restores_scalar z)]
    simp only [scalars, allFinite_cons]
    tauto
  | fieldValue field =>
    have hfield := (restores_text field).map fun _ _ => Query.fieldValue.inj
    exact (Restores.variant (fun _ _ => rfl) hfield).congr (iff_of_true trivial allFinite_nil)

end Query

/-! ### Clauses -/

def FieldClause.scalars (clause : FieldClause) : List Scalar := clause.query.scalars

theorem FieldClause.restores (clause : FieldClause) :
    Restores FieldClause.decoder clause.toJson clause (AllFinite clause.scalars) := by
  obtain ⟨fieldName, query, included⟩ := clause
  refine Restores.record rfl (by decide) ?_
  rintro r ⟨hname, hquery, hincluded⟩
  simp only [bind_eq_some_iff, pure_eq_some_iff, FieldClause.mk.injEq, existsAndEq]
  rw [hname.required (restores_text fieldName), hquery.required query.restores,
    hincluded.required (restores_flag included)]
  simp [FieldClause.scalars]

namespace Clause

mutual

/-- The numbers in the expressions of a clause. -/
def scalars : Clause → List Scalar
  | .field clause => clause.scalars
  | .allOf clauses => scalarsAll clauses
  | .anyOf clauses => scalarsAll clauses

def scalarsAll : List Clause → List Scalar
  | [] => []
  | c :: cs => scalars c ++ scalarsAll cs

end

theorem scalarsAll_eq_flatMap (cs : List Clause) : scalarsAll cs = cs.flatMap scalars := by
  induction cs with
  | nil => rfl
  | cons c cs ih => rw [scalarsAll, ih, List.flatMap_cons]

theorem toJsonAll_eq_map (cs : List Clause) : toJsonAll cs = cs.map toJson := by
  induction cs with
  | nil => rfl
  | cons c cs ih => rw [toJsonAll, ih, List.map_cons]

theorem decoder_allOf (levels : Nat) (s : Source) :
    decoder (levels + 1) (.object [(some "And", s)])
      = (Decode.list decoder levels s).map .allOf := by
  cases levels with
  | zero => cases s <;> rfl
  | succ levels => cases s <;> rfl

theorem decoder_anyOf (levels : Nat) (s : Source) :
    decoder (levels + 1) (.object [(some "Or", s)])
      = (Decode.list decoder levels s).map .anyOf := by
  cases levels with
  | zero => cases s <;> rfl
  | succ levels => cases s <;> rfl

theorem refuses_null (levels : Nat) : decoder levels .null = none := by
  cases levels with
  | zero => rfl
  | succ levels => rfl

theorem restores (clause : Clause) :
    Restores decoder clause.toJson clause (AllFinite clause.scalars) := by
  induction clause with
  | field clause =>
    exact Restores.variant (fun _ _ => rfl) (clause.restores.map fun _ _ => Clause.field.inj)
  | allOf clauses ih =>
    rw [toJson, toJsonAll_eq_map, scalars, scalarsAll_eq_flatMap, allFinite_flatMap]
    exact Restores.variant decoder_allOf ((Restores.list ih).map fun _ _ => Clause.allOf.inj)
  | anyOf clauses ih =>
    rw [toJson, toJsonAll_eq_map, scalars, scalarsAll_eq_flatMap, allFinite_flatMap]
    exact Restores.variant decoder_anyOf ((Restores.list ih).map fun _ _ => Clause.anyOf.inj)

end Clause

/-! ### Settings -/

def WeightedField.scalars (f : WeightedField) : List Scalar := [f.weight]

theorem WeightedField.restores (f : WeightedField) :
    Restores WeightedField.decoder f.toJson f (AllFinite f.scalars) := by
  obtain ⟨field, weight⟩ := f
  refine Restores.record rfl (by decide) ?_
  rintro r ⟨hfield, hweight⟩
  simp only [bind_eq_some_iff, pure_eq_some_iff, WeightedField.mk.injEq, existsAndEq]
  rw [hfield.required (restores_text field), hweight.required (restores_scalar weight)]
  simp [WeightedField.scalars]

def PhraseBoost.scalars (b : PhraseBoost) : List Scalar := b.field.scalars

theorem PhraseBoost.restores (b : PhraseBoost) :
    Restores PhraseBoost.decoder b.toJson b (AllFinite b.scalars) := by
  obtain ⟨field, whole, pairs, triples⟩ := b
  refine Restores.record rfl (by decide) ?_
  rintro r ⟨hfield, hwhole, hpairs, htriples⟩
  simp only [bind_eq_some_iff, pure_eq_some_iff, PhraseBoost.mk.injEq, existsAndEq]
  rw [hfield.required field.restores, hwhole.required (restores_flag whole),
    hpairs.required (restores_flag pairs), htriples.required (restores_flag triples)]
  simp [PhraseBoost.scalars]

def BoostFunction.scalars (f : BoostFunction) : List Scalar := f.function.scalars ++ [f.weight]

theorem BoostFunction.restores (f : BoostFunction) :
    Restores BoostFunction.decoder f.toJson f (AllFinite f.scalars) := by
  obtain ⟨function, weight⟩ := f
  refine Restores.record rfl (by decide) ?_
  rintro r ⟨hfunction, hweight⟩
  simp only [bind_eq_some_iff, pure_eq_some_iff, BoostFunction.mk.injEq, existsAndEq]
  rw [hfunction.required function.restores, hweight.required (restores_scalar weight)]
  simp [BoostFunction.scalars]

def SortKey.scalars : SortKey → List Scalar
  | .field _ => []
  | .function query => query.scalars

theorem SortKey.restores (key : SortKey) :
    Restores SortKey.decoder key.toJson key (AllFinite key.scalars) := by
  cases key with
  | field name =>
    have hname := (restores_text name).map fun _ _ => SortKey.field.inj
    exact (Restores.variant (fun _ _ => rfl) hname).congr (iff_of_true trivial allFinite_nil)
  | function query =>
    exact Restores.variant (fun _ _ => rfl) (query.restores.map fun _ _ => SortKey.function.inj)

theorem SortDirection.restores (direction : SortDirection) :
    Restores SortDirection.decoder (.string direction.name) direction True := by
  apply restores_choice
  cases direction with
  | ascending => rfl
  | descending => rfl

def SortOrder.scalars (s : SortOrder) : List Scalar := s.target.scalars

theorem SortOrder.restores (s : SortOrder) :
    Restores SortOrder.decoder s.toJson s (AllFinite s.scalars) := by
  obtain ⟨target, direction⟩ := s
  refine Restores.record rfl (by decide) ?_
  rintro r ⟨htarget, hdirection⟩
  simp only [bind_eq_some_iff, pure_eq_some_iff, SortOrder.mk.injEq, existsAndEq]
  rw [htarget.required target.restores, hdirection.required direction.restores]
  simp [SortOrder.scalars]

theorem MinimumMatch.restores (m : MinimumMatch) :
    Restores MinimumMatch.decoder m.toJson m True := by
  cases m with
  | percent n =>
    exact Restores.variant (fun _ _ => rfl)
      ((restores_natural32 n).map fun _ _ => MinimumMatch.percent.inj)
  | absolute n =>
    exact Restores.variant (fun _ _ => rfl)
      ((restores_natural32 n).map fun _ _ => MinimumMatch.absolute.inj)

theorem MinimumMatch.refuses_null (levels : Nat) : MinimumMatch.decoder levels .null = none := by
  cases levels with
  | zero => rfl
  | succ levels => rfl

def QualityFilter.scalars (f : QualityFilter) : List Scalar := [f.fallOff]

theorem QualityFilter.restores (f : QualityFilter) :
    Restores QualityFilter.decoder f.toJson f (AllFinite f.scalars) := by
  obtain ⟨fallOff, minResults⟩ := f
  refine Restores.record rfl (by decide) ?_
  rintro r ⟨hfallOff, hminResults⟩
  simp only [bind_eq_some_iff, pure_eq_some_iff, QualityFilter.mk.injEq, existsAndEq]
  rw [hfallOff.required (restores_scalar fallOff),
    hminResults.required (restores_natural64 minResults)]
  simp [QualityFilter.scalars]

theorem FacetSettings.restores (f : FacetSettings) :
    Restores FacetSettings.decoder f.toJson f True := by
  obtain ⟨fields, limit, minCount⟩ := f
  refine Restores.record rfl (by decide) ?_
  rintro r ⟨hfields, hlimit, hminCount⟩
  simp only [bind_eq_some_iff, pure_eq_some_iff, FacetSettings.mk.injEq, existsAndEq]
  rw [hfields.required (restores_texts fields), hlimit.optional restores_natural64 (fun _ => rfl),
    hminCount.optional restores_natural64 (fun _ => rfl)]
  simp

def Spatial.scalars (s : Spatial) : List Scalar := [s.lat, s.lng, s.distanceKm]

theorem Spatial.restores (s : Spatial) :
    Restores Spatial.decoder s.toJson s (AllFinite s.scalars) := by
  obtain ⟨field, lat, lng, distanceKm⟩ := s
  refine Restores.record rfl (by decide) ?_
  rintro r ⟨hfield, hlat, hlng, hdistance⟩
  simp only [bind_eq_some_iff, pure_eq_some_iff, Spatial.mk.injEq, existsAndEq]
  rw [hfield.required (restores_text field), hlat.required (restores_scalar lat),
    hlng.required (restores_scalar lng), hdistance.required (restores_scalar distanceKm)]
  simp [Spatial.scalars]

/-! ### Searches -/

namespace Search

/-- All numbers in a search that are not whole by their type. -/
def scalars (s : Search) : List Scalar :=
  s.clause.toList.flatMap Clause.scalars ++ s.filters.flatMap Clause.scalars ++
    s.boostQueries.flatMap Clause.scalars ++ s.boostFunctions.flatMap BoostFunction.scalars ++
    s.queryFields.flatMap WeightedField.scalars ++ s.phraseBoosts.flatMap PhraseBoost.scalars ++
    s.tieBreaker.toList ++ s.sort.toList.flatMap SortOrder.scalars ++
    s.qualityFilter.toList.flatMap QualityFilter.scalars ++
    s.spatial.toList.flatMap Spatial.scalars

theorem restores (s : Search) : Restores decoder s.toJson s (AllFinite s.scalars) := by
  obtain ⟨index, clause, filters, boostQueries, boostFunctions, queryFields, phraseBoosts,
    tieBreaker, queryType, facets, sort, start, limit, minimumMatch, qualityFilter, highlighting,
    fields, spatial⟩ := s
  refine Restores.record rfl (by decide) ?_
  rintro r ⟨hindex, hclause, hfilters, hboostQueries, hboostFunctions, hqueryFields,
    hphraseBoosts, htieBreaker, hqueryType, hfacets, hsort, hstart, hlimit, hminimumMatch,
    hqualityFilter, hhighlighting, hfields, hspatial⟩
  simp only [bind_eq_some_iff, pure_eq_some_iff, Search.mk.injEq, existsAndEq]
  rw [hindex.required (restores_text index), hclause.optional Clause.restores Clause.refuses_null,
    hfilters.required (Restores.list fun c _ => c.restores),
    hboostQueries.required (Restores.list fun c _ => c.restores),
    hboostFunctions.required (Restores.list fun f _ => f.restores),
    hqueryFields.required (Restores.list fun f _ => f.restores),
    hphraseBoosts.required (Restores.list fun b _ => b.restores),
    htieBreaker.optional restores_scalar (fun _ => rfl),
    hqueryType.optional restores_text (fun _ => rfl), hfacets.required facets.restores,
    hsort.optional SortOrder.restores Record.refuses_null,
    hstart.required (restores_natural64 start), hlimit.required (restores_natural64 limit),
    hminimumMatch.optional MinimumMatch.restores MinimumMatch.refuses_null,
    hqualityFilter.optional QualityFilter.restores Record.refuses_null,
    hhighlighting.required (restores_flag highlighting), hfields.required (restores_texts fields),
    hspatial.optional Spatial.restores Record.refuses_null]
  simp [scalars]

end Search

/-- **Saved searches.**  A search comes back from its JSON value as it was, bit by bit in its
    numbers, exactly if all numbers in it are finite. -/
theorem saved_search_restored_iff (s : Search) :
    Search.decoder.ofJson? s.toJson = some s ↔ ∀ x ∈ s.scalars, x.isFinite = true :=
  s.restores _ (Nat.le_refl _)

/-- An infinite tie breaker is lost, although the saved search can be read. -/
example : Search.decoder.ofJson?
    { Search.ofIndex "city" with tieBreaker := some ⟨0x7FF0000000000000⟩ }.toJson
      = some (Search.ofIndex "city") := by decide +kernel

end Retrieval
