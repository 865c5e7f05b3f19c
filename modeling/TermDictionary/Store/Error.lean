import TermDictionary.Reserved.Basic

/-!
# Errors of a dictionary

A dictionary refuses an operation for one of a few causes, and each cause has one text and
one category: erasing is never supported; running out of budget, records or ids is
exhaustion; asking with an id of the wrong kind or one the dictionary never issued is misuse
by the caller; a faulty reserved table is a configuration error.
-/

namespace TermDictionary

/-- Why a dictionary refused an operation. -/
inductive StoreError where
  /-- Terms are never erased. -/
  | unsupported (kind : TermKind) (id : TermId)
  /-- The budget cannot take the bytes of a new record. -/
  | regionExhausted (kind : TermKind) (requested used capacity : Nat)
  /-- No room could be made for one more record of the kind: its handles are used up, or the
  memory allocator refused. -/
  | allocationFailed (kind : TermKind)
  /-- The kind has handed out every value an id can hold. -/
  | idSpaceExhausted (kind : TermKind)
  /-- The id is of another kind than the one asked for. -/
  | wrongKind (id : TermId) (expected : TermKind)
  /-- No record is stored under the id. -/
  | unknownId (id : TermId)
  /-- The reserved table has a fault. -/
  | invalidReserved (fault : ReservedError)
deriving DecidableEq

/-- The four coarse classes of errors. -/
inductive ErrorCategory where
  /-- The operation is never supported. -/
  | unsupported
  /-- Budget, records or ids ran out; nothing changed. -/
  | resourceExhaustion
  /-- The caller named an id the dictionary cannot use. -/
  | callerMisuse
  /-- The dictionary was configured wrongly. -/
  | configuration
deriving DecidableEq, Repr

namespace StoreError

/-- The text of an error. -/
def message : StoreError → String
  | unsupported _ id =>
    "erasing " ++ id.display ++ " is not supported: the node store is append-only"
  | regionExhausted kind requested used capacity =>
    "node region exhausted storing " ++ kind.name ++ " record: " ++ toString requested ++
      " bytes requested, " ++ toString used ++ " of " ++ toString capacity ++ " bytes in use"
  | allocationFailed kind => "allocating a " ++ kind.name ++ " record failed"
  | idSpaceExhausted kind => kind.name ++ " id space exhausted"
  | wrongKind id expected => id.display ++ " is not a " ++ expected.name ++ " id"
  | unknownId id => id.display ++ " was not issued by this store"
  | invalidReserved fault => fault.message

/-- The category of an error. -/
def category : StoreError → ErrorCategory
  | unsupported .. => .unsupported
  | regionExhausted .. => .resourceExhaustion
  | allocationFailed .. => .resourceExhaustion
  | idSpaceExhausted .. => .resourceExhaustion
  | wrongKind .. => .callerMisuse
  | unknownId .. => .callerMisuse
  | invalidReserved .. => .configuration

end StoreError

end TermDictionary
