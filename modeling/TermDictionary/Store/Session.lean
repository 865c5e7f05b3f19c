import TermDictionary.Store.Intern
import TermDictionary.Store.Query

/-!
# Sessions

A session puts requests to one dictionary in turn. Each request gets a reply and leaves the
dictionary that its operation leaves: interning may change it, every other request only reads
it.
-/

namespace TermDictionary

/-- A request to a dictionary. -/
inductive Request where
  /-- The id of a term, storing the term if it is new; the memory allocator answers as given
  if the term's table asks it for room. -/
  | intern (kind : TermKind) (view : kind.View) (allocation : Allocation)
  /-- The id of a term, if the dictionary holds it. -/
  | find (kind : TermKind) (view : kind.View)
  /-- The record stored under an id, in the table of a kind. -/
  | resolve (kind : TermKind) (id : TermId)
  /-- Erase the term of an id from the table of a kind. -/
  | erase (kind : TermKind) (id : TermId)
  /-- Whether the dictionary issued an id. -/
  | contains (id : TermId)
  /-- The number of terms of a kind. -/
  | count (kind : TermKind)
  /-- The ids of a kind, ascending. -/
  | ids (kind : TermKind)
  /-- The counts of the dictionary. -/
  | stats
  /-- The reserved IRIs the dictionary was built with. -/
  | reserved

/-- A dictionary's reply to a request. -/
inductive Reply where
  /-- The id of the term. -/
  | issued (id : TermId)
  /-- The id of the term, or `none` when the dictionary does not hold it. -/
  | found (id : Option TermId)
  /-- A record of a kind. -/
  | record (kind : TermKind) (record : kind.Record)
  /-- The request succeeded and has nothing to answer. -/
  | done
  /-- The request was refused. -/
  | refused (error : StoreError)
  /-- Whether the id was issued. -/
  | contains (held : Bool)
  /-- A number of terms. -/
  | count (count : Nat)
  /-- Ids, ascending. -/
  | ids (ids : List TermId)
  /-- Counts of the dictionary. -/
  | stats (stats : Stats)
  /-- Reserved IRIs, in table order. -/
  | reserved (entries : List ReservedIri)

namespace Store

/-- The reply to a request and the dictionary afterwards. -/
def exec (store : Store) : Request → Reply × Store
  | .intern kind view allocation =>
    match store.intern kind view allocation with
    | (.ok id, next) => (.issued id, next)
    | (.error error, next) => (.refused error, next)
  | .find kind view => (.found (store.find? kind view), store)
  | .resolve kind id =>
    match store.resolve kind id with
    | .ok record => (.record kind record, store)
    | .error error => (.refused error, store)
  | .erase kind id =>
    match store.erase kind id with
    | .ok () => (.done, store)
    | .error error => (.refused error, store)
  | .contains id => (.contains (store.contains id), store)
  | .count kind => (.count (store.count kind), store)
  | .ids kind => (.ids (store.ids kind), store)
  | .stats => (.stats store.stats, store)
  | .reserved => (.reserved store.reserved.entries, store)

/-- The replies to requests put in turn, each to the dictionary the ones before left. -/
def replay (store : Store) : List Request → List Reply
  | [] => []
  | request :: rest =>
    let step := store.exec request
    step.1 :: step.2.replay rest

end Store

end TermDictionary
