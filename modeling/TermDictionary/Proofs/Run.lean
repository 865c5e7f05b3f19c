import TermDictionary.Store.Session
import TermDictionary.Proofs.Build

/-!
# Runs of a dictionary

Of all requests, only interning a term that the dictionary does not hold can change it. A
successful change is an `Insertion`: the term is missing, the kind's next value fits in an id,
its table has room, the budget takes the record's bytes and the allocator makes room, and then
the record is pushed at the minted id and its bytes stay charged (`insert_eq_ok_iff`). A refused
insertion answers the dictionary it was given, because every refusal comes before the first
change but the budget's claim, and that claim is given back (`insert_cases`,
`insert_of_fst_eq_error`); the insertion into laid-out tables takes the same branches and keeps
the same law (`IndexedRegion.insert_cases`, `IndexedRegion.insert_of_fst_eq_error`). So every request either leaves the dictionary as it
was or makes one insertion (`exec_cases`), and a run answers every later request as if a
refused one had not been made (`refused_request_changes_nothing`).

The dictionaries that requests reach from a built one are `Store.Reachable`; a property of
every built dictionary that every insertion keeps holds of all of them
(`Reachable.induction_on_insertions`).
-/

namespace TermDictionary

/-! ## The branches of inserting into laid-out tables -/

namespace IndexedRegion

variable {kind : TermKind}

section Branches

variable {tables : IndexedRegion kind} {budget : Budget} {record : kind.Record}
  {mint : (value : Nat) → value < 2 ^ 48 → kind.Record → TermId}

/-- An allocator past the last value an id can hold refuses before anything changes. -/
theorem insert_of_next_gt (exhausted : ¬ tables.next < 2 ^ 48) (allocation : Allocation) :
    tables.insert budget record mint allocation =
      (.error (.idSpaceExhausted kind), tables, budget) := by
  unfold insert
  rw [dif_neg exhausted]

/-- A region with no handle left refuses before anything changes. -/
theorem insert_of_full (fits : tables.next < 2 ^ 48)
    (full : ¬ tables.region.length < KindTable.maxRecords) (allocation : Allocation) :
    tables.insert budget record mint allocation =
      (.error (.allocationFailed kind), tables, budget) := by
  unfold insert nextHandle?
  rw [dif_pos fits, if_neg full]

/-- A budget that cannot take the record's bytes refuses the claim, which changes nothing. -/
theorem insert_of_unaffordable (fits : tables.next < 2 ^ 48)
    (room : tables.region.length < KindTable.maxRecords)
    (exceeded : budget.limit < budget.used + kind.footprint record) (allocation : Allocation) :
    tables.insert budget record mint allocation =
      (.error (.regionExhausted kind (kind.footprint record) budget.used
        budget.reportedCapacity), tables, budget) := by
  have refused : budget.claim kind (kind.footprint record) =
      .error (.regionExhausted kind (kind.footprint record) budget.used
        budget.reportedCapacity) :=
    Budget.claim_eq_error_iff.mpr ⟨exceeded, rfl⟩
  unfold insert nextHandle?
  rw [dif_pos fits, if_pos room, refused]

/-- When the memory allocator refuses room, the claim is dropped uncommitted and the budget is
as it was. -/
theorem insert_of_denied (fits : tables.next < 2 ^ 48)
    (room : tables.region.length < KindTable.maxRecords)
    (affordable : budget.used + kind.footprint record ≤ budget.limit) :
    tables.insert budget record mint .denied =
      (.error (.allocationFailed kind), tables, budget) := by
  have claimed : budget.claim kind (kind.footprint record) =
      .ok (budget.charge (kind.footprint record), ⟨kind.footprint record, false⟩) :=
    Budget.claim_eq_ok_iff.mpr ⟨affordable, rfl, rfl⟩
  unfold insert nextHandle?
  rw [dif_pos fits, if_pos room, claimed]
  dsimp only
  rw [Budget.drop_of_claim_eq_ok claimed]

/-- When the memory allocator makes room, the record is placed at the next handle under the
minted id, the allocator moves on and the committed claim keeps the bytes in use. -/
theorem insert_of_granted (fits : tables.next < 2 ^ 48)
    (room : tables.region.length < KindTable.maxRecords)
    (affordable : budget.used + kind.footprint record ≤ budget.limit) :
    tables.insert budget record mint .granted =
      (.ok (mint tables.next fits record),
        { tables.place (mint tables.next fits record) tables.region.length record with
          next := tables.next + 1 },
        budget.charge (kind.footprint record)) := by
  have claimed : budget.claim kind (kind.footprint record) =
      .ok (budget.charge (kind.footprint record), ⟨kind.footprint record, false⟩) :=
    Budget.claim_eq_ok_iff.mpr ⟨affordable, rfl, rfl⟩
  unfold insert nextHandle?
  rw [dif_pos fits, if_pos room, claimed]
  dsimp only
  rw [BudgetClaim.drop_commit]

end Branches

/-- An insertion is refused, with the tables and the budget as they were, or every check passes,
the memory allocator makes room, and the record is placed under the minted id with its bytes
charged: every check that can fail comes before the first change, and the claim taken before
the memory allocator refuses is dropped uncommitted. -/
theorem insert_cases (tables : IndexedRegion kind) (budget : Budget) (record : kind.Record)
    (mint : (value : Nat) → value < 2 ^ 48 → kind.Record → TermId) (allocation : Allocation) :
    (∃ error, tables.insert budget record mint allocation = (.error error, tables, budget)) ∨
      ∃ fits : tables.next < 2 ^ 48,
        tables.region.length < KindTable.maxRecords ∧
        budget.used + kind.footprint record ≤ budget.limit ∧
        allocation = .granted ∧
        tables.insert budget record mint allocation =
          (.ok (mint tables.next fits record),
            { tables.place (mint tables.next fits record) tables.region.length record with
              next := tables.next + 1 },
            budget.charge (kind.footprint record)) := by
  by_cases fits : tables.next < 2 ^ 48
  · by_cases room : tables.region.length < KindTable.maxRecords
    · by_cases affordable : budget.used + kind.footprint record ≤ budget.limit
      · cases allocation with
        | granted =>
          exact .inr ⟨fits, room, affordable, rfl, insert_of_granted fits room affordable⟩
        | denied => exact .inl ⟨_, insert_of_denied fits room affordable⟩
      · exact .inl ⟨_, insert_of_unaffordable fits room (Nat.lt_of_not_le affordable) allocation⟩
    · exact .inl ⟨_, insert_of_full fits room allocation⟩
  · exact .inl ⟨_, insert_of_next_gt fits allocation⟩

/-- A refused insertion answers the tables and the budget it was given. -/
theorem insert_of_fst_eq_error
    {tables : IndexedRegion kind}
    {budget : Budget}
    {record : kind.Record}
    {mint : (value : Nat) → value < 2 ^ 48 → kind.Record → TermId}
    {allocation : Allocation}
    {error : StoreError}
    (refused : (tables.insert budget record mint allocation).1 = .error error) :
    (tables.insert budget record mint allocation).2 = (tables, budget) := by
  rcases insert_cases tables budget record mint allocation with
    ⟨_, unchanged⟩ | ⟨_, -, -, -, stored⟩
  · rw [unchanged]
  · rw [stored] at refused
    cases refused

end IndexedRegion

namespace Store

/-- The dictionary after requests put in turn. -/
def run (store : Store) : List Request → Store
  | [] => store
  | request :: rest => (store.exec request).2.run rest

@[simp] theorem run_nil (store : Store) : store.run [] = store := rfl

@[simp] theorem run_cons (store : Store) (request : Request) (rest : List Request) :
    store.run (request :: rest) = (store.exec request).2.run rest := rfl

theorem run_append (store : Store) (first second : List Request) :
    store.run (first ++ second) = (store.run first).run second := by
  induction first generalizing store with
  | nil => rfl
  | cons request rest ih => exact ih _

/-! ## Storing a new record -/

/-- The dictionary with a record pushed to the table of its kind under an id, and its bytes
charged. -/
def withRecord (store : Store) (kind : TermKind) (id : TermId) (record : kind.Record) : Store :=
  { store.setTable kind ((store.table kind).push id record) with
    budget := store.budget.charge (kind.footprint record) }

section WithRecord

variable (store : Store) (kind : TermKind) (id : TermId) (record : kind.Record)

@[simp] theorem table_withRecord_self :
    (store.withRecord kind id record).table kind = (store.table kind).push id record := by
  cases kind <;> rfl

theorem table_withRecord_of_ne {other : TermKind} (different : other ≠ kind) :
    (store.withRecord kind id record).table other = store.table other := by
  cases kind <;> cases other <;> first | exact absurd rfl different | rfl

@[simp] theorem budget_withRecord :
    (store.withRecord kind id record).budget = store.budget.charge (kind.footprint record) :=
  rfl

@[simp] theorem reserved_withRecord :
    (store.withRecord kind id record).reserved = store.reserved := by
  cases kind <;> rfl

end WithRecord

@[simp] theorem kind_mint (store : Store) (value : Nat) (fits : value < 2 ^ 48)
    (kind : TermKind) (record : kind.Record) : (store.mint value fits kind record).kind = kind := by
  cases kind <;> rfl

@[simp] theorem value_mint (store : Store) (value : Nat) (fits : value < 2 ^ 48)
    (kind : TermKind) (record : kind.Record) :
    (store.mint value fits kind record).value = value := by
  cases kind <;> rfl

/-- One storing of a new term: the view names no term the dictionary holds, the kind's next
value fits in an id, its table has room, and the budget takes the bytes of the record. -/
structure Insertion (store : Store) where
  /-- The kind of the new term. -/
  kind : TermKind
  /-- The view that names it. -/
  view : kind.View
  /-- The dictionary holds no term the view names. -/
  missing : store.find? kind view = none
  /-- The next value of the kind fits in an id. -/
  fits : (store.table kind).next < 2 ^ 48
  /-- The table of the kind has room for one more record. -/
  room : (store.table kind).size < KindTable.maxRecords
  /-- The budget takes the bytes of the record. -/
  affordable : store.budget.used + kind.footprint (kind.toRecord view) ≤ store.budget.limit

namespace Insertion

variable {store : Store} (step : Insertion store)

/-- The record stored. -/
def record : step.kind.Record := step.kind.toRecord step.view

/-- The id the new record receives: the kind's next value, minted. -/
def id : TermId := store.mint (store.table step.kind).next step.fits step.kind step.record

/-- The dictionary after the insertion. -/
def after : Store := store.withRecord step.kind step.id step.record

@[simp] theorem kind_id : step.id.kind = step.kind := kind_mint ..

@[simp] theorem value_id : step.id.value = (store.table step.kind).next := value_mint ..

@[simp] theorem table_after_self :
    step.after.table step.kind = (store.table step.kind).push step.id step.record :=
  table_withRecord_self ..

theorem table_after_of_ne {other : TermKind} (different : other ≠ step.kind) :
    step.after.table other = store.table other :=
  table_withRecord_of_ne _ _ _ _ different

@[simp] theorem budget_after :
    step.after.budget = store.budget.charge (step.kind.footprint step.record) :=
  rfl

@[simp] theorem reserved_after : step.after.reserved = store.reserved :=
  reserved_withRecord ..

end Insertion

/-! ## The branches of storing a record -/

section Branches

variable {store : Store} {kind : TermKind} {record : kind.Record}

/-- A kind that has handed out every value an id can hold refuses before anything changes. -/
theorem insert_of_next_gt (exhausted : ¬ (store.table kind).next < 2 ^ 48)
    (allocation : Allocation) :
    store.insert kind record allocation = (.error (.idSpaceExhausted kind), store) := by
  unfold insert
  dsimp only
  rw [dif_neg exhausted]

/-- A table with no handle left refuses before anything changes. -/
theorem insert_of_full (fits : (store.table kind).next < 2 ^ 48)
    (full : ¬ (store.table kind).size < KindTable.maxRecords) (allocation : Allocation) :
    store.insert kind record allocation = (.error (.allocationFailed kind), store) := by
  unfold insert
  dsimp only
  rw [dif_pos fits, if_neg full]

/-- A budget that cannot take the record's bytes refuses the claim, which changes nothing, so
the allocator is never asked. -/
theorem insert_of_unaffordable (fits : (store.table kind).next < 2 ^ 48)
    (room : (store.table kind).size < KindTable.maxRecords)
    (exceeded : store.budget.limit < store.budget.used + kind.footprint record)
    (allocation : Allocation) :
    store.insert kind record allocation =
      (.error (.regionExhausted kind (kind.footprint record) store.budget.used
        store.budget.reportedCapacity), store) := by
  have refused : store.budget.claim kind (kind.footprint record) =
      .error (.regionExhausted kind (kind.footprint record) store.budget.used
        store.budget.reportedCapacity) :=
    Budget.claim_eq_error_iff.mpr ⟨exceeded, rfl⟩
  unfold insert
  dsimp only
  rw [dif_pos fits, if_pos room, refused]

/-- When the allocator refuses room after the budget took the record's bytes, the claim is
dropped uncommitted and the budget is as it was. -/
theorem insert_of_denied (fits : (store.table kind).next < 2 ^ 48)
    (room : (store.table kind).size < KindTable.maxRecords)
    (affordable : store.budget.used + kind.footprint record ≤ store.budget.limit) :
    store.insert kind record .denied = (.error (.allocationFailed kind), store) := by
  have claimed : store.budget.claim kind (kind.footprint record) =
      .ok (store.budget.charge (kind.footprint record), ⟨kind.footprint record, false⟩) :=
    Budget.claim_eq_ok_iff.mpr ⟨affordable, rfl, rfl⟩
  unfold insert
  dsimp only
  rw [dif_pos fits, if_pos room, claimed]
  dsimp only
  rw [Budget.drop_of_claim_eq_ok claimed]

/-- When the budget takes the record's bytes and the allocator makes room, the record is
pushed under the minted id and the claim is committed, so its bytes stay in use. -/
theorem insert_of_granted (fits : (store.table kind).next < 2 ^ 48)
    (room : (store.table kind).size < KindTable.maxRecords)
    (affordable : store.budget.used + kind.footprint record ≤ store.budget.limit) :
    store.insert kind record .granted =
      (.ok (store.mint (store.table kind).next fits kind record),
        store.withRecord kind (store.mint (store.table kind).next fits kind record) record) := by
  have claimed : store.budget.claim kind (kind.footprint record) =
      .ok (store.budget.charge (kind.footprint record), ⟨kind.footprint record, false⟩) :=
    Budget.claim_eq_ok_iff.mpr ⟨affordable, rfl, rfl⟩
  unfold insert
  dsimp only
  rw [dif_pos fits, if_pos room, claimed]
  dsimp only
  rw [BudgetClaim.drop_commit]
  rfl

end Branches

/-- Storing a record is refused, with the dictionary as it was, or every check passes, the
allocator makes room, and the record is pushed under the minted id with its bytes charged. -/
theorem insert_cases (store : Store) (kind : TermKind) (record : kind.Record)
    (allocation : Allocation) :
    (∃ error, store.insert kind record allocation = (.error error, store)) ∨
      ∃ fits : (store.table kind).next < 2 ^ 48,
        (store.table kind).size < KindTable.maxRecords ∧
        store.budget.used + kind.footprint record ≤ store.budget.limit ∧
        allocation = .granted ∧
        store.insert kind record allocation =
          (.ok (store.mint (store.table kind).next fits kind record),
            store.withRecord kind (store.mint (store.table kind).next fits kind record) record) := by
  by_cases fits : (store.table kind).next < 2 ^ 48
  · by_cases room : (store.table kind).size < KindTable.maxRecords
    · by_cases affordable : store.budget.used + kind.footprint record ≤ store.budget.limit
      · cases allocation with
        | granted =>
          exact .inr ⟨fits, room, affordable, rfl, insert_of_granted fits room affordable⟩
        | denied => exact .inl ⟨_, insert_of_denied fits room affordable⟩
      · exact .inl ⟨_, insert_of_unaffordable fits room (Nat.lt_of_not_le affordable) allocation⟩
    · exact .inl ⟨_, insert_of_full fits room allocation⟩
  · exact .inl ⟨_, insert_of_next_gt fits allocation⟩

/-- Storing succeeds exactly when the value fits, the table has room, the budget takes the
bytes and the allocator makes room; the record is then pushed at the minted id. -/
theorem insert_eq_ok_iff
    {store after : Store}
    {kind : TermKind}
    {record : kind.Record}
    {allocation : Allocation}
    {id : TermId} :
    store.insert kind record allocation = (.ok id, after) ↔
      ∃ fits : (store.table kind).next < 2 ^ 48,
        (store.table kind).size < KindTable.maxRecords ∧
        store.budget.used + kind.footprint record ≤ store.budget.limit ∧
        allocation = .granted ∧
        id = store.mint (store.table kind).next fits kind record ∧
        after = store.withRecord kind id record := by
  constructor
  · intro inserted
    rcases insert_cases store kind record allocation with
      ⟨_, unchanged⟩ | ⟨fits, room, affordable, granted, stored⟩
    · rw [unchanged] at inserted
      cases inserted
    · rw [stored] at inserted
      obtain ⟨minted, rfl⟩ := Prod.mk.inj inserted
      cases minted
      exact ⟨fits, room, affordable, granted, rfl, rfl⟩
  · rintro ⟨fits, room, affordable, rfl, rfl, rfl⟩
    exact insert_of_granted fits room affordable

/-- A refused insertion answers the dictionary it was given: every check that can fail comes
before the first change, and the claim taken before the allocator refuses is dropped
uncommitted, which gives its bytes back. -/
theorem insert_of_fst_eq_error
    {store : Store}
    {kind : TermKind}
    {record : kind.Record}
    {allocation : Allocation}
    {error : StoreError}
    (refused : (store.insert kind record allocation).1 = .error error) :
    (store.insert kind record allocation).2 = store := by
  rcases insert_cases store kind record allocation with ⟨_, unchanged⟩ | ⟨_, -, -, -, stored⟩
  · rw [unchanged]
  · rw [stored] at refused
    cases refused

/-- Interning a view whose term is held answers its id and changes nothing. -/
theorem intern_of_find?_eq_some
    {store : Store}
    {kind : TermKind}
    {view : kind.View}
    {id : TermId}
    (found : store.find? kind view = some id)
    (allocation : Allocation) :
    store.intern kind view allocation = (.ok id, store) := by
  simp [intern, found]

/-- Interning a view whose term is not held stores its record. -/
theorem intern_of_find?_eq_none
    {store : Store}
    {kind : TermKind}
    {view : kind.View}
    (missing : store.find? kind view = none)
    (allocation : Allocation) :
    store.intern kind view allocation = store.insert kind (kind.toRecord view) allocation := by
  simp [intern, missing]

/-- Refused interning answers the dictionary it was given. -/
theorem intern_of_fst_eq_error
    {store : Store}
    {kind : TermKind}
    {view : kind.View}
    {allocation : Allocation}
    {error : StoreError}
    (refused : (store.intern kind view allocation).1 = .error error) :
    (store.intern kind view allocation).2 = store := by
  cases found : store.find? kind view with
  | some id =>
    rw [intern_of_find?_eq_some found]
  | none =>
    rw [intern_of_find?_eq_none found] at refused ⊢
    exact insert_of_fst_eq_error refused

/-- A request either leaves the dictionary as it was, or makes one insertion, with room
granted, and answers the new id. -/
theorem exec_cases (store : Store) (request : Request) :
    (store.exec request).2 = store ∨
      ∃ step : Insertion store, request = .intern step.kind step.view .granted ∧
        store.exec request = (.issued step.id, step.after) := by
  cases request with
  | intern kind view allocation =>
    cases interned : store.intern kind view allocation with
    | mk result after =>
      cases result with
      | error error =>
        have unchanged := intern_of_fst_eq_error (show (store.intern kind view allocation).1 =
          .error error by rw [interned])
        rw [interned] at unchanged
        exact .inl (by simp [exec, interned, unchanged])
      | ok id =>
        cases found : store.find? kind view with
        | some held =>
          rw [intern_of_find?_eq_some found] at interned
          obtain ⟨-, rfl⟩ := Prod.mk.inj interned
          exact .inl (by simp [exec, intern_of_find?_eq_some found])
        | none =>
          rw [intern_of_find?_eq_none found] at interned
          obtain ⟨fits, room, affordable, rfl, rfl, rfl⟩ := insert_eq_ok_iff.mp interned
          refine .inr ⟨⟨kind, view, found, fits, room, affordable⟩, rfl, ?_⟩
          simp [exec, intern_of_find?_eq_none found, insert_eq_ok_iff.mpr
            ⟨fits, room, affordable, rfl, rfl, rfl⟩, Insertion.id, Insertion.after,
            Insertion.record]
  | find kind view => exact .inl rfl
  | resolve kind id =>
    left
    simp only [exec]
    split <;> rfl
  | erase kind id => exact .inl rfl
  | contains id => exact .inl rfl
  | count kind => exact .inl rfl
  | ids kind => exact .inl rfl
  | stats => exact .inl rfl
  | reserved => exact .inl rfl

/-! ## Refused requests -/

/-- A refused request leaves the dictionary exactly as it was, so the rest of a run answers as
if it had not been made; erasing is refused for every id of every kind. This rests on the
insertion step itself: on the dictionary's tables and on the laid-out ones alike, every
refusal comes before the first change but the budget's claim, and that claim is given back. -/
theorem refused_request_changes_nothing
    {store : Store}
    {request : Request}
    {error : StoreError}
    (refused : (store.exec request).1 = .refused error) :
    (store.exec request).2 = store ∧
      (∀ rest, store.replay (request :: rest) = .refused error :: store.replay rest ∧
        store.run (request :: rest) = store.run rest) ∧
      (∀ kind record allocation failure,
        (store.insert kind record allocation).1 = .error failure →
          (store.insert kind record allocation).2 = store) ∧
      (∀ (kind : TermKind) (tables : IndexedRegion kind) budget record mint allocation failure,
        (tables.insert budget record mint allocation).1 = .error failure →
          (tables.insert budget record mint allocation).2 = (tables, budget)) ∧
      ∀ kind id, store.exec (.erase kind id) = (.refused (.unsupported kind id), store) := by
  have unchanged : (store.exec request).2 = store := by
    rcases exec_cases store request with unchanged | ⟨step, -, stepped⟩
    · exact unchanged
    · rw [stepped] at refused
      cases refused
  refine ⟨unchanged, fun rest => ⟨?_, ?_⟩, fun kind record allocation failure => ?_,
    fun kind tables budget record mint allocation failure => ?_, fun kind id => rfl⟩
  · rw [replay, refused, unchanged]
  · rw [run_cons, unchanged]
  · exact insert_of_fst_eq_error
  · exact IndexedRegion.insert_of_fst_eq_error

/-- When the allocator refuses room for a new IRI, the claim already taken for its bytes is
given back: the request is refused and the dictionary stays as built. -/
theorem denied_room_changes_nothing :
    ((preloaded {}).exec (.intern .iri "http://example.org/a" .denied)).1 =
      .refused (.allocationFailed .iri) ∧
    (((preloaded {}).exec (.intern .iri "http://example.org/a" .denied)).2 = preloaded {} ∧
      (∀ rest, (preloaded {}).replay (.intern .iri "http://example.org/a" .denied :: rest) =
          .refused (.allocationFailed .iri) :: (preloaded {}).replay rest ∧
        (preloaded {}).run (.intern .iri "http://example.org/a" .denied :: rest) =
          (preloaded {}).run rest) ∧
      (∀ kind record allocation failure,
        ((preloaded {}).insert kind record allocation).1 = .error failure →
          ((preloaded {}).insert kind record allocation).2 = preloaded {}) ∧
      (∀ (kind : TermKind) (tables : IndexedRegion kind) budget record mint allocation failure,
        (tables.insert budget record mint allocation).1 = .error failure →
          (tables.insert budget record mint allocation).2 = (tables, budget)) ∧
      ∀ kind id, (preloaded {}).exec (.erase kind id) =
        (.refused (.unsupported kind id), preloaded {})) := by
  have refused : ((preloaded {}).exec (.intern .iri "http://example.org/a" .denied)).1 =
      .refused (.allocationFailed .iri) := by
    rfl
  exact ⟨refused, refused_request_changes_nothing refused⟩

/-! ## Reachable dictionaries -/

/-- The dictionaries that requests reach from a built one. -/
inductive Reachable : Store → Prop
  /-- A dictionary as a configuration builds it. -/
  | build {config : StoreConfig} {store : Store} :
      Store.build config = .ok store → Reachable store
  /-- The dictionary after one more request. -/
  | exec {store : Store} (request : Request) : Reachable store → Reachable (store.exec request).2

/-- A configuration whose reserved IRIs fit its capacity builds a reachable dictionary. -/
theorem reachable_preloaded
    {config : StoreConfig}
    (withinCapacity : ∀ capacity, config.capacity = some capacity →
      (config.reserved.entries.map fun entry => TermKind.iri.footprint entry.iri).sum ≤ capacity) :
    (preloaded config).Reachable := by
  refine .build (build_eq_ok_iff.mpr ⟨rfl, fun capacity limited => ?_⟩)
  rw [preloaded_budget]
  exact withinCapacity capacity limited

/-- Requests lead from a reachable dictionary only to reachable ones. -/
theorem Reachable.run
    {store : Store}
    (reachable : store.Reachable)
    (requests : List Request) :
    (store.run requests).Reachable := by
  induction requests generalizing store with
  | nil => exact reachable
  | cons request rest ih => exact ih (.exec request reachable)

/-- A reachable dictionary is a built one after a run of requests. -/
theorem Reachable.exists_run {store : Store} (reachable : store.Reachable) :
    ∃ config initial requests, Store.build config = .ok initial ∧
      store = initial.run requests := by
  induction reachable with
  | build built => exact ⟨_, _, [], built, rfl⟩
  | exec request _ earlier =>
    obtain ⟨config, initial, requests, built, rfl⟩ := earlier
    exact ⟨config, initial, requests ++ [request], built, by rw [run_append]; rfl⟩

/-- A property of every built dictionary that every insertion into a reachable dictionary keeps
holds of every reachable dictionary. -/
theorem Reachable.induction_on_insertions
    {property : Store → Prop}
    (initial : ∀ config : StoreConfig,
      (∀ capacity, config.capacity = some capacity →
        (preloaded config).budget.used ≤ capacity) →
      property (preloaded config))
    (inserted : ∀ (store : Store) (step : Insertion store),
      store.Reachable → property store → property step.after)
    {store : Store}
    (reachable : store.Reachable) :
    property store := by
  induction reachable with
  | build built =>
    obtain ⟨rfl, withinCapacity⟩ := build_eq_ok_iff.mp built
    exact initial _ withinCapacity
  | exec request reachable holds =>
    rcases exec_cases _ request with unchanged | ⟨step, -, stepped⟩
    · rw [unchanged]
      exact holds
    · rw [stepped]
      exact inserted _ step reachable holds

end Store
end TermDictionary
