/-
  Retrieval/Builder.lean
  ======================
  **Putting a search together step by step.**

  A builder holds a search in the making together with what is to become of its
  answer: the transformation of the documents and the projection of each of them.  The
  type parameter is what a projected document is.  A new builder projects a document to
  itself.

  Builders are values.  A builder that is extended in two ways gives two builders that
  share nothing.
-/
import Retrieval.Execution.Run
import Retrieval.Schema.Basic
import Retrieval.Search.Inspect
import Retrieval.Search.Setting

namespace Retrieval

/-- A search in the making, whose documents become values of type `α`. -/
structure Builder (α : Type) where
  search : Search
  projection : Projection α
  transform : Option Transform
  /-- The one-shot settings that have been made. -/
  used : List OneShot

namespace Builder

variable {α β : Type}

/-- The builder of the search that matches everything in an index. -/
def ofIndex (index : String) : Builder Document := ⟨.ofIndex index, .ok, none, []⟩

/-- Make a setting, if it may still be made. -/
def set? (b : Builder α) (setting : Setting) : Option (Builder α) :=
  if setting.isPermitted b.used then
    some { b with search := setting.apply b.search, used := setting.note b.used }
  else none

/-- Select the fields to return and what is made of a document, if that may still be
    done. -/
def select? (b : Builder α) (fields : List String) (projection : Projection β) :
    Option (Builder β) :=
  let setting := Setting.select fields
  if setting.isPermitted b.used then
    some ⟨setting.apply b.search, projection, b.transform, setting.note b.used⟩
  else none

/-- Set the transformation of documents, in place of an earlier one. -/
def withTransform (b : Builder α) (transform : Transform) : Builder α :=
  { b with transform := some transform }

def isSelected (b : Builder α) : Bool := b.used.contains .selection

/-! ### Use -/

def flat (b : Builder α) : Except Failure Flat.Params := Flat.Params.ofSearch b.search

def structured (b : Builder α) : Except Failure Json := Structured.body b.search

def process (b : Builder α) (docs : List Document) : Except Failure (List α) :=
  b.search.processDocuments b.projection b.transform docs

/-- The search with what is to become of its answer. -/
def job (b : Builder α) : Job α := ⟨b.search, b.projection, b.transform⟩

/-! ### Inspection -/

open Text

def inspect (b : Builder α) : String :=
  Inspect.openRecord "QueryBuilder"
    [("state", b.search.inspect), ("transform", Inspect.flag b.transform.isSome)]

def inspectSelection (b : Builder α) : String :=
  if b.isSelected then Inspect.openRecord "Selected" [] else "Unselected"

end Builder

/-- The builder of a search in the index of a schema. -/
def Schema.builder (s : Schema) : Builder Document := .ofIndex s.index

end Retrieval
