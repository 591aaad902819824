/-
  Scaffold/Store/Session.lean
  ===========================
  **Stores that are shared.**

  A store is used through handles. A handle can be cloned, and what is done through one handle is
  seen through every clone of it; a new store has nothing in common with the others. A session holds
  the stores and says which handle is for which of them.
-/
import Scaffold.Store

namespace Scaffold

namespace Store

/-! ### One store -/

/-- What can be asked of a store. -/
inductive Request
  | createDirectories (path : String)
  | write (path content : String)
  | holds (path : String)
  | read (path : String)
  | paths
  | writes
  | clear
  deriving DecidableEq, Repr

/-- What a store can answer. -/
inductive Answer
  | done
  | refused (failure : Failure)
  | held (there : Bool)
  | text (content : Option String)
  | paths (all : List String)
  | count (writes : Nat)
  deriving DecidableEq, Repr

/-- Whether a request only asks a question. -/
def Request.isQuestion : Request → Bool
  | createDirectories _ | write .. | clear => false
  | holds _ | read _ | paths | writes => true

/-- Answers a request; a write that is refused leaves the store as it is. -/
def serve (s : Store) : Request → Answer × Store
  | .createDirectories path => (.done, s.createDirectories path)
  | .write path content =>
    match s.write path content with
    | .ok s' => (.done, s')
    | .error failure => (.refused failure, s)
  | .holds path => (.held (s.holds path), s)
  | .read path => (.text (s.read? path), s)
  | .paths => (.paths s.paths, s)
  | .writes => (.count s.writes, s)
  | .clear => (.done, ∅)

end Store

/-! ### Many handles -/

/-- Stores, and for every handle the place of its store among them. -/
structure Session where
  stores : List Store := []
  handles : List Nat := []
  deriving DecidableEq, Repr

/-- What can happen in a session. -/
inductive Session.Event
  /-- A new store, with a handle of its own. -/
  | create
  /-- A further handle for the store of the given one. -/
  | clone (handle : Nat)
  | request (handle : Nat) (request : Store.Request)
  deriving DecidableEq, Repr

namespace Session

variable (session : Session)

/-- Answers a request that is made through a handle, when there is such a handle. -/
def serve (handle : Nat) (request : Store.Request) : Option (Store.Answer × Session) := do
  let place ← session.handles[handle]?
  let store ← session.stores[place]?
  let (answer, store) := store.serve request
  some (answer, { session with stores := session.stores.set place store })

/-- The session after an event; an event on a handle that there is not changes nothing. -/
def step : Event → Session
  | .create =>
    { stores := session.stores ++ [∅], handles := session.handles ++ [session.stores.length] }
  | .clone handle => { session with handles := session.handles ++ session.handles[handle]?.toList }
  | .request handle request => ((session.serve handle request).map (·.2)).getD session

/-- The session that events lead to, the last of them named first. -/
def after : List Event → Session
  | [] => {}
  | event :: earlier => (after earlier).step event

end Session

end Scaffold
