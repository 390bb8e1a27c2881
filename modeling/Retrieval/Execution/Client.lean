/-
  Retrieval/Execution/Client.lean
  ===============================
  **A client that is made when it is first needed.**

  A handle holds a client or is empty.  The first use of an empty handle makes a client
  and keeps it; a failure to make one leaves the handle empty, so that a later use
  tries again.
-/
import Retrieval.Failure

namespace Retrieval

/-- A place for a client. -/
structure ClientHandle (C : Type) where
  client : Option C
deriving DecidableEq, Repr

namespace ClientHandle

variable {C : Type}

def empty : ClientHandle C := ⟨none⟩

def holding (client : C) : ClientHandle C := ⟨some client⟩

def isInitialized (h : ClientHandle C) : Bool := h.client.isSome

/-- The client, which is made by `init` if there is none yet. -/
def getOrInit (h : ClientHandle C) (init : Unit → Except Failure C) :
    Except Failure C × ClientHandle C :=
  match h.client with
  | some client => (.ok client, h)
  | none =>
    match init () with
    | .ok client => (.ok client, holding client)
    | .error failure => (.error failure, h)

end ClientHandle

end Retrieval
