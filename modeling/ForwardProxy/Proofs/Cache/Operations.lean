import ForwardProxy.Cache.Store

/-!
# Operations on the cache

The calls of the cache as data, so that a finite sequence of them is a list, with what each call
gives back and what can be read off the cache after it. Calls that read the clock carry the reading,
and nothing is assumed of how these readings are related.
-/

namespace ForwardProxy.Cache

open Time

/-- A call of the cache. -/
inductive Operation where
  /-- Sets the entry under a key, at a time. -/
  | set (key : String) (value : Bytes) (ttl : Option Span) (now : Instant)
  /-- Looks a key up, at a time. -/
  | get (key : String) (now : Instant)
  /-- Drops the entry under a key. -/
  | remove (key : String)
  /-- Drops all entries. -/
  | clear
  deriving DecidableEq

/-- What a call gives back. -/
inductive Reply where
  /-- Whether the key that was set is new. -/
  | isNew (new : Bool)
  /-- The live entry under the key that was looked up. -/
  | found (entry : Option Entry)
  /-- Whether there was an entry to drop. -/
  | removed (known : Bool)
  /-- Nothing. -/
  | done
  deriving DecidableEq

/-- What can be read off a cache. -/
structure Facts where
  /-- The number of entries. -/
  size : Nat
  /-- Whether there are no entries. -/
  isEmpty : Bool
  /-- The keys from the newest to the oldest. -/
  keys : List String
  /-- The counters, and how full the cache is. -/
  statistics : Statistics
  deriving DecidableEq

/-- The replies to a sequence of calls, each with what can be read off the cache after it. -/
def observations {α : Type} (perform : α → Operation → Reply × α) (facts : α → Facts) :
    α → List Operation → List (Reply × Facts)
  | _, [] => []
  | cache, operation :: operations =>
    let answer := perform cache operation
    (answer.1, facts answer.2) :: observations perform facts answer.2 operations

namespace Store

/-- Carries out a call. -/
def perform (store : Store) : Operation → Reply × Store
  | .set key value ttl now =>
    let answer := store.set key value ttl now
    (.isNew answer.1, answer.2)
  | .get key now =>
    let answer := store.get key now
    (.found answer.1, answer.2)
  | .remove key =>
    let answer := store.remove key
    (.removed answer.1, answer.2)
  | .clear => (.done, store.clear)

/-- The cache after a sequence of calls. -/
def after (store : Store) (operations : List Operation) : Store :=
  operations.foldl (fun store operation => (store.perform operation).2) store

/-- The last call finds the cache as the calls before it left it. -/
theorem after_concat (store : Store) (operations : List Operation) (operation : Operation) :
    store.after (operations ++ [operation]) = ((store.after operations).perform operation).2 := by
  simp [after]

/-- What can be read off the cache. -/
def facts (store : Store) : Facts where
  size := store.size
  isEmpty := store.isEmpty
  keys := store.keys
  statistics := store.statistics

end Store

end ForwardProxy.Cache
