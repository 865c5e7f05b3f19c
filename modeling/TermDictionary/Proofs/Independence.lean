import TermDictionary.Proofs.Growth

/-!
# Kinds are independent

Every request reads or changes the table of at most one kind (`Request.kind?`), and the four
tables share nothing but the byte budget and the reserved IRIs, which never change. So a
request leaves the tables of all other kinds as they were (`table_exec_of_ne`).

While the budget has room for the record of every view interned, nothing else reaches a
request either: two dictionaries with the same reserved IRIs and the same table of the
request's kind answer it alike, leave that table alike and charge the same bytes
(`AgreeOn.exec`), and so do whole runs (`AgreeOn.run`). Requests on different kinds
therefore commute (`run_exec_comm`), and a run on one kind merged in any order with a run on
other kinds gives each request the answer it gets in its own run and ends where running the
two one after the other ends (`kinds_are_independent`).
-/

namespace TermDictionary

/-- `Interleaving first second mixed`: `mixed` merges `first` and `second`, keeping the order
of each. -/
inductive Interleaving {α : Type} : List α → List α → List α → Prop
  /-- Nothing merges into nothing. -/
  | nil : Interleaving [] [] []
  /-- The merge goes on with the next item of the first list. -/
  | left {item : α} {first second mixed : List α} :
      Interleaving first second mixed → Interleaving (item :: first) second (item :: mixed)
  /-- The merge goes on with the next item of the second list. -/
  | right {item : α} {first second mixed : List α} :
      Interleaving first second mixed → Interleaving first (item :: second) (item :: mixed)

namespace Request

/-- The kind whose table a request reads or changes; the statistics and the reserved IRIs
belong to no kind. -/
def kind? : Request → Option TermKind
  | .intern kind _ _ => some kind
  | .find kind _ => some kind
  | .resolve kind _ => some kind
  | .erase kind _ => some kind
  | .contains id => some id.kind
  | .count kind => some kind
  | .ids kind => some kind
  | .stats => none
  | .reserved => none

/-- The bytes a request may claim: the footprint of the record of an interned view. -/
def bytes : Request → Nat
  | .intern kind view _ => kind.footprint (kind.toRecord view)
  | _ => 0

/-- A request on one kind is on no other. -/
theorem kind?_ne_of_ne
    {request : Request}
    {kind other : TermKind}
    (onKind : request.kind? = some kind)
    (different : other ≠ kind) :
    request.kind? ≠ some other := by
  rw [onKind]
  exact fun same => different (Option.some.inj same).symm

end Request

namespace Store

/-! ## What a request leaves alone -/

/-- A request leaves the table of every kind but its own as it was. -/
theorem table_exec_of_ne
    (store : Store)
    {request : Request}
    {kind : TermKind}
    (elsewhere : request.kind? ≠ some kind) :
    (store.exec request).2.table kind = store.table kind := by
  rcases exec_cases store request with unchanged | ⟨step, rfl, stepped⟩
  · rw [unchanged]
  · rw [stepped]
    apply step.table_after_of_ne
    rintro rfl
    exact elsewhere rfl

@[simp] theorem reserved_exec (store : Store) (request : Request) :
    (store.exec request).2.reserved = store.reserved :=
  (grows_exec store request).reserved_eq

@[simp] theorem reserved_run (store : Store) (requests : List Request) :
    (store.run requests).reserved = store.reserved :=
  (grows_run store requests).reserved_eq

@[simp] theorem capacity_exec (store : Store) (request : Request) :
    (store.exec request).2.budget.capacity = store.budget.capacity := by
  rcases exec_cases store request with unchanged | ⟨step, -, stepped⟩
  · rw [unchanged]
  · rw [stepped, Insertion.budget_after, Budget.capacity_charge]

theorem limit_exec (store : Store) (request : Request) :
    (store.exec request).2.budget.limit = store.budget.limit := by
  simp only [Budget.limit, capacity_exec]

/-- A request claims at most its bytes. -/
theorem used_exec_le (store : Store) (request : Request) :
    (store.exec request).2.budget.used ≤ store.budget.used + request.bytes := by
  rcases exec_cases store request with unchanged | ⟨step, rfl, stepped⟩
  · rw [unchanged]
    exact Nat.le_add_right _ _
  · rw [stepped, Insertion.budget_after, Budget.used_charge]
    exact Nat.le_refl _

/-- A request leaves room in the budget for what was left after its own bytes. -/
theorem room_exec
    (store : Store)
    (request : Request)
    {rest : Nat}
    (room : store.budget.used + request.bytes + rest ≤ store.budget.limit) :
    (store.exec request).2.budget.used + rest ≤ (store.exec request).2.budget.limit := by
  have claimed := used_exec_le store request
  rw [limit_exec]
  omega

theorem table_run_of_ne
    (store : Store)
    {requests : List Request}
    {kind : TermKind}
    (elsewhere : ∀ request ∈ requests, request.kind? ≠ some kind) :
    (store.run requests).table kind = store.table kind := by
  induction requests generalizing store with
  | nil => rfl
  | cons request rest ih =>
    rw [run_cons, ih _ fun later member => elsewhere later (List.mem_cons_of_mem _ member),
      table_exec_of_ne store (elsewhere request List.mem_cons_self)]

@[simp] theorem capacity_run (store : Store) (requests : List Request) :
    (store.run requests).budget.capacity = store.budget.capacity := by
  induction requests generalizing store with
  | nil => rfl
  | cons request rest ih => rw [run_cons, ih, capacity_exec]

theorem limit_run (store : Store) (requests : List Request) :
    (store.run requests).budget.limit = store.budget.limit := by
  induction requests generalizing store with
  | nil => rfl
  | cons request rest ih => rw [run_cons, ih, limit_exec]

/-- A run claims at most the bytes of its requests. -/
theorem used_run_le (store : Store) (requests : List Request) :
    (store.run requests).budget.used ≤ store.budget.used + (requests.map Request.bytes).sum := by
  induction requests generalizing store with
  | nil => exact Nat.le_refl _
  | cons request rest ih =>
    have step := used_exec_le store request
    have later := ih (store.exec request).2
    rw [run_cons, List.map_cons, List.sum_cons]
    omega

/-- Dictionaries with the same reserved IRIs, bytes in use, capacity and tables are the
same. -/
theorem ext_table
    {store other : Store}
    (reserved : other.reserved = store.reserved)
    (used : other.budget.used = store.budget.used)
    (capacity : other.budget.capacity = store.budget.capacity)
    (tables : ∀ kind, other.table kind = store.table kind) :
    other = store := by
  obtain ⟨reserved', ⟨used', capacity'⟩, vars', blanks', iris', literals'⟩ := store
  obtain ⟨reserved, ⟨used, capacity⟩, vars, blanks, iris, literals⟩ := other
  simp only [Store.mk.injEq, Budget.mk.injEq]
  exact ⟨reserved, ⟨used, capacity⟩, tables .var, tables .blank, tables .iri,
    tables .literal⟩

/-! ## What a request reads -/

/-- A look-up reads only the reserved IRIs and the table of its kind. -/
theorem find?_congr
    {store other : Store}
    {kind : TermKind}
    (sameReserved : other.reserved = store.reserved)
    (sameTable : other.table kind = store.table kind)
    (view : kind.View) :
    other.find? kind view = store.find? kind view := by
  unfold find?
  rw [sameTable]
  cases kind <;> simp [reservedId?, sameReserved]

/-- Minting reads only the reserved IRIs. -/
theorem mint_congr
    {store other : Store}
    (sameReserved : other.reserved = store.reserved)
    (value : Nat)
    (fits : value < 2 ^ 48)
    (kind : TermKind)
    (record : kind.Record) :
    other.mint value fits kind record = store.mint value fits kind record := by
  cases kind <;> simp [mint, sameReserved]

/-- When the budget takes a record's bytes, storing it fails only for want of ids, of a handle,
or of the allocator's room, and the claim is then given back. -/
theorem insert_of_affordable
    {store : Store}
    {kind : TermKind}
    {record : kind.Record}
    (affordable : store.budget.used + kind.footprint record ≤ store.budget.limit)
    (allocation : Allocation) :
    store.insert kind record allocation =
      if fits : (store.table kind).next < 2 ^ 48 then
        if (store.table kind).size < KindTable.maxRecords then
          match allocation with
          | .granted =>
            (.ok (store.mint (store.table kind).next fits kind record),
              store.withRecord kind (store.mint (store.table kind).next fits kind record) record)
          | .denied => (.error (.allocationFailed kind), store)
        else (.error (.allocationFailed kind), store)
      else (.error (.idSpaceExhausted kind), store) := by
  by_cases fits : (store.table kind).next < 2 ^ 48
  · rw [dif_pos fits]
    by_cases room : (store.table kind).size < KindTable.maxRecords
    · rw [if_pos room]
      cases allocation with
      | granted => exact insert_of_granted fits room affordable
      | denied => exact insert_of_denied fits room affordable
    · rw [if_neg room]
      exact insert_of_full fits room allocation
  · rw [dif_neg fits]
    exact insert_of_next_gt fits allocation

/-- Interning with room in the budget reads only the reserved IRIs and the table of its
kind: it answers alike, leaves that table alike and charges the same bytes. -/
theorem exec_intern_congr
    {store other : Store}
    {kind : TermKind}
    {view : kind.View}
    (allocation : Allocation)
    (sameReserved : other.reserved = store.reserved)
    (sameTable : other.table kind = store.table kind)
    (room : store.budget.used + kind.footprint (kind.toRecord view) ≤ store.budget.limit)
    (otherRoom : other.budget.used + kind.footprint (kind.toRecord view) ≤ other.budget.limit) :
    (other.exec (.intern kind view allocation)).1 = (store.exec (.intern kind view allocation)).1 ∧
      (other.exec (.intern kind view allocation)).2.table kind =
        (store.exec (.intern kind view allocation)).2.table kind ∧
      (other.exec (.intern kind view allocation)).2.budget.used + store.budget.used =
        (store.exec (.intern kind view allocation)).2.budget.used + other.budget.used := by
  have found := find?_congr sameReserved sameTable view
  cases held : store.find? kind view with
  | some id =>
    rw [held] at found
    have stays : store.exec (.intern kind view allocation) = (.issued id, store) := by
      simp [exec, intern_of_find?_eq_some held]
    have otherStays : other.exec (.intern kind view allocation) = (.issued id, other) := by
      simp [exec, intern_of_find?_eq_some found]
    rw [stays, otherStays]
    exact ⟨rfl, sameTable, Nat.add_comm _ _⟩
  | none =>
    rw [held] at found
    simp only [exec, intern_of_find?_eq_none held, intern_of_find?_eq_none found,
      insert_of_affordable room, insert_of_affordable otherRoom, sameTable,
      mint_congr sameReserved]
    -- Both store at the same value or both fail alike, on facts of the shared table.
    split_ifs
    · cases allocation with
      | granted =>
        refine ⟨rfl, by simp [sameTable], ?_⟩
        simp only [budget_withRecord, Budget.used_charge]
        omega
      | denied => exact ⟨rfl, sameTable, Nat.add_comm _ _⟩
    · exact ⟨rfl, sameTable, Nat.add_comm _ _⟩
    · exact ⟨rfl, sameTable, Nat.add_comm _ _⟩

/-- A request on a kind, with room in the budget, reads only the reserved IRIs and the table
of its kind: it answers alike, leaves that table alike and charges the same bytes. -/
theorem exec_congr
    {store other : Store}
    {request : Request}
    {kind : TermKind}
    (onKind : request.kind? = some kind)
    (sameReserved : other.reserved = store.reserved)
    (sameTable : other.table kind = store.table kind)
    (room : store.budget.used + request.bytes ≤ store.budget.limit)
    (otherRoom : other.budget.used + request.bytes ≤ other.budget.limit) :
    (other.exec request).1 = (store.exec request).1 ∧
      (other.exec request).2.table kind = (store.exec request).2.table kind ∧
      (other.exec request).2.budget.used + store.budget.used =
        (store.exec request).2.budget.used + other.budget.used := by
  by_cases interning : ∃ interned view allocation, request = .intern interned view allocation
  · obtain ⟨interned, view, allocation, rfl⟩ := interning
    cases onKind
    exact exec_intern_congr allocation sameReserved sameTable room otherRoom
  have notIntern : ∀ interned view allocation, request ≠ .intern interned view allocation :=
    fun interned view allocation same => interning ⟨interned, view, allocation, same⟩
  rw [exec_of_ne_intern other notIntern, exec_of_ne_intern store notIntern]
  refine ⟨?_, sameTable, Nat.add_comm _ _⟩
  -- Every other reply reads the table of the request's kind and nothing else.
  cases request with
  | intern interned view allocation => exact absurd rfl (notIntern interned view allocation)
  | find found view =>
    cases onKind
    simp [exec, find?_congr sameReserved sameTable view]
  | resolve resolved id =>
    cases onKind
    have sameResolve : other.resolve kind id = store.resolve kind id := by
      simp only [resolve, sameTable]
    simp only [exec, sameResolve]
    cases store.resolve kind id <;> rfl
  | erase erased id => rfl
  | contains id =>
    cases onKind
    simp [exec, contains, sameTable]
  | count counted =>
    cases onKind
    simp [exec, count, sameTable]
  | ids listed =>
    cases onKind
    simp [exec, ids, sameTable]
  | stats => cases onKind
  | reserved => cases onKind

/-! ## Runs on some kinds -/

/-- Two dictionaries agree on the kinds `kinds` when they have the same reserved IRIs and the
same table of each of those kinds. -/
structure AgreeOn (kinds : TermKind → Prop) (store other : Store) : Prop where
  /-- The reserved IRIs are the same. -/
  reserved_eq : other.reserved = store.reserved
  /-- The tables of the kinds are the same. -/
  table_eq : ∀ kind, kinds kind → other.table kind = store.table kind

/-- A request on a kind other than the ones agreed on keeps the agreement. -/
theorem AgreeOn.exec_of_not
    {kinds : TermKind → Prop}
    (store : Store)
    {request : Request}
    {kind : TermKind}
    (onKind : request.kind? = some kind)
    (outside : ¬ kinds kind) :
    AgreeOn kinds store (store.exec request).2 where
  reserved_eq := reserved_exec store request
  table_eq other within := by
    apply table_exec_of_ne
    apply Request.kind?_ne_of_ne onKind
    rintro rfl
    exact outside within

/-- With room in both budgets, dictionaries that agree on some kinds answer a request on one
of them alike, keep agreeing, and charge the same bytes. -/
theorem AgreeOn.exec
    {kinds : TermKind → Prop}
    {store other : Store}
    (agree : AgreeOn kinds store other)
    {request : Request}
    {kind : TermKind}
    (onKind : request.kind? = some kind)
    (within : kinds kind)
    (room : store.budget.used + request.bytes ≤ store.budget.limit)
    (otherRoom : other.budget.used + request.bytes ≤ other.budget.limit) :
    (other.exec request).1 = (store.exec request).1 ∧
      AgreeOn kinds (store.exec request).2 (other.exec request).2 ∧
      (other.exec request).2.budget.used + store.budget.used =
        (store.exec request).2.budget.used + other.budget.used := by
  obtain ⟨reply, table, used⟩ :=
    exec_congr onKind agree.reserved_eq (agree.table_eq kind within) room otherRoom
  refine ⟨reply, ⟨?_, fun agreed isAgreed => ?_⟩, used⟩
  · rw [reserved_exec, reserved_exec]
    exact agree.reserved_eq
  · by_cases same : agreed = kind
    · subst same
      exact table
    · -- The request leaves every other table of both dictionaries as it was.
      have elsewhere := Request.kind?_ne_of_ne onKind same
      rw [table_exec_of_ne _ elsewhere, table_exec_of_ne _ elsewhere]
      exact agree.table_eq agreed isAgreed

/-- With room in both budgets for every request, dictionaries that agree on some kinds answer
a run on those kinds alike, keep agreeing, and charge the same bytes. -/
theorem AgreeOn.run
    {kinds : TermKind → Prop}
    {store other : Store}
    (agree : AgreeOn kinds store other)
    {requests : List Request}
    (onKinds : ∀ request ∈ requests, ∃ kind, kinds kind ∧ request.kind? = some kind)
    (room : store.budget.used + (requests.map Request.bytes).sum ≤ store.budget.limit)
    (otherRoom : other.budget.used + (requests.map Request.bytes).sum ≤ other.budget.limit) :
    other.replay requests = store.replay requests ∧
      AgreeOn kinds (store.run requests) (other.run requests) ∧
      (other.run requests).budget.used + store.budget.used =
        (store.run requests).budget.used + other.budget.used := by
  induction requests generalizing store other with
  | nil => exact ⟨rfl, agree, Nat.add_comm _ _⟩
  | cons request rest ih =>
    obtain ⟨kind, within, onKind⟩ := onKinds request List.mem_cons_self
    simp only [List.map_cons, List.sum_cons] at room otherRoom
    obtain ⟨reply, agreeAfter, used⟩ := agree.exec onKind within (by omega) (by omega)
    obtain ⟨replies, agreeEnd, usedEnd⟩ := ih agreeAfter
      (fun later member => onKinds later (List.mem_cons_of_mem _ member))
      (room_exec store request (by omega)) (room_exec other request (by omega))
    refine ⟨?_, agreeEnd, ?_⟩
    · simp only [replay, reply, replies]
    · simp only [run_cons]
      omega

/-- With room in the budget for every request, a request commutes with a run on kinds other
than its own: the run answers alike after it, it answers alike after the run, and the two
orders end in the same dictionary. -/
theorem run_exec_comm
    {store : Store}
    {request : Request}
    {kind : TermKind}
    {requests : List Request}
    (onKind : request.kind? = some kind)
    (elsewhere : ∀ later ∈ requests, ∃ other, other ≠ kind ∧ later.kind? = some other)
    (room : store.budget.used + request.bytes + (requests.map Request.bytes).sum ≤
      store.budget.limit) :
    (store.exec request).2.replay requests = store.replay requests ∧
      ((store.run requests).exec request).1 = (store.exec request).1 ∧
      (store.exec request).2.run requests = ((store.run requests).exec request).2 := by
  have notKind : ∀ later ∈ requests, later.kind? ≠ some kind := by
    intro later member
    obtain ⟨other, different, onOther⟩ := elsewhere later member
    exact Request.kind?_ne_of_ne onOther (Ne.symm different)
  -- The run does not read the request's kind, so it sees no difference after the request.
  have agreeStep : AgreeOn (· ≠ kind) store (store.exec request).2 :=
    AgreeOn.exec_of_not store onKind (fun different => different rfl)
  obtain ⟨replies, agreeRun, usedRun⟩ :=
    agreeStep.run elsewhere (by omega) (room_exec store request room)
  -- The request does not read the run's kinds, so it sees no difference after the run.
  have ran := used_run_le store requests
  obtain ⟨reply, table, used⟩ := exec_congr onKind (reserved_run store requests)
    (table_run_of_ne store notKind) (by omega) (by rw [limit_run]; omega)
  refine ⟨replies, reply, ext_table (by simp) (by omega) (by simp) ?_⟩
  · intro other
    by_cases same : other = kind
    · subst same
      rw [table, table_run_of_ne _ notKind]
    · rw [agreeRun.table_eq other same, table_exec_of_ne _ (Request.kind?_ne_of_ne onKind same)]

/-! ## Interleaved runs -/

/-- With room in the budget for every request, a run on one kind merged in any order with a
run on other kinds gives each request the answer it gets in its own run from the same
dictionary, and ends where the first run followed by the second ends. -/
theorem interleaving_run
    {store : Store}
    {kind : TermKind}
    {first second mixed : List Request}
    (interleaved : Interleaving first second mixed)
    (onKind : ∀ request ∈ first, request.kind? = some kind)
    (elsewhere : ∀ request ∈ second, ∃ other, other ≠ kind ∧ request.kind? = some other)
    (room : store.budget.used + ((first ++ second).map Request.bytes).sum ≤ store.budget.limit) :
    Interleaving (first.zip (store.replay first)) (second.zip (store.replay second))
        (mixed.zip (store.replay mixed)) ∧
      store.run mixed = (store.run first).run second := by
  induction interleaved generalizing store with
  | nil => exact ⟨.nil, rfl⟩
  | @left item first second mixed _ ih =>
    have itemOnKind := onKind item List.mem_cons_self
    simp only [List.cons_append, List.map_cons, List.sum_cons, List.map_append,
      List.sum_append] at room
    have roomAfter : (store.exec item).2.budget.used + ((first ++ second).map Request.bytes).sum ≤
        (store.exec item).2.budget.limit := by
      rw [List.map_append, List.sum_append]
      exact room_exec store item (by omega)
    obtain ⟨merged, ended⟩ :=
      ih (fun request member => onKind request (List.mem_cons_of_mem _ member)) elsewhere roomAfter
    -- The run on the other kinds answers alike after this request.
    have agreeStep : AgreeOn (· ≠ kind) store (store.exec item).2 :=
      AgreeOn.exec_of_not store itemOnKind (fun different => different rfl)
    have secondRoom :
        store.budget.used + (second.map Request.bytes).sum ≤ store.budget.limit := by
      omega
    obtain ⟨replies, -, -⟩ :=
      agreeStep.run elsewhere secondRoom (room_exec store item (by omega))
    refine ⟨?_, ?_⟩
    · simp only [replay, List.zip_cons_cons]
      rw [← replies]
      exact .left merged
    · rw [run_cons, run_cons, ended]
  | @right item first second mixed _ ih =>
    obtain ⟨other, different, itemOnOther⟩ := elsewhere item List.mem_cons_self
    simp only [List.map_append, List.sum_append, List.map_cons, List.sum_cons] at room
    have roomAfter : (store.exec item).2.budget.used + ((first ++ second).map Request.bytes).sum ≤
        (store.exec item).2.budget.limit := by
      rw [List.map_append, List.sum_append]
      exact room_exec store item (by omega)
    obtain ⟨merged, ended⟩ := ih onKind
      (fun request member => elsewhere request (List.mem_cons_of_mem _ member)) roomAfter
    -- This request commutes with the first run, which is on another kind than its own.
    have firstRoom : store.budget.used + item.bytes + (first.map Request.bytes).sum ≤
        store.budget.limit := by
      omega
    obtain ⟨replies, -, commuted⟩ := run_exec_comm itemOnOther
      (fun request member => ⟨kind, Ne.symm different, onKind request member⟩) firstRoom
    refine ⟨?_, ?_⟩
    · simp only [replay, List.zip_cons_cons]
      rw [← replies]
      exact .right merged
    · rw [run_cons, ended, commuted, run_cons]

/-- A request on a kind leaves the tables, with their next values, of every other kind as they
were, and no request changes the reserved IRIs or the capacity: only the bytes in use are
shared. Without a capacity, and with room below the largest 64-bit number for the records of
every view interned, a run on one kind and a run on other kinds merged in any order give
each request the answer it gets in its own run from the same dictionary, and end in the
dictionary that the first run followed by the second leaves. -/
theorem kinds_are_independent (store : Store) (kind : TermKind) :
    (∀ request, request.kind? = some kind → ∀ other, other ≠ kind →
      (store.exec request).2.table other = store.table other) ∧
    (∀ request, (store.exec request).2.reserved = store.reserved ∧
      (store.exec request).2.budget.capacity = store.budget.capacity) ∧
    (store.budget.capacity = none → ∀ first second mixed,
      (∀ request ∈ first, request.kind? = some kind) →
      (∀ request ∈ second, ∃ other, other ≠ kind ∧ request.kind? = some other) →
      store.budget.used + ((first ++ second).map Request.bytes).sum ≤ Budget.wordMax →
      Interleaving first second mixed →
      Interleaving (first.zip (store.replay first)) (second.zip (store.replay second))
          (mixed.zip (store.replay mixed)) ∧
        store.run mixed = (store.run first).run second) := by
  refine ⟨fun request onKind other different =>
      table_exec_of_ne store (Request.kind?_ne_of_ne onKind different),
    fun request => ⟨reserved_exec store request, capacity_exec store request⟩, ?_⟩
  intro unbounded first second mixed onKind elsewhere fits interleaved
  -- Without a capacity the limit of the budget is the largest 64-bit number.
  have limit : store.budget.limit = Budget.wordMax := by
    simp [Budget.limit, unbounded]
  exact interleaving_run interleaved onKind elsewhere (by rw [limit]; exact fits)

/-- In the standard dictionary, interning and finding an IRI merged with interning a literal
and a blank node answer as each run alone and end where the IRI run followed by the other
ends. -/
theorem iri_run_interleaves_with_other_kinds :
    (preloaded {}).budget.capacity = none ∧
    (∀ request ∈ [Request.intern .iri "urn:t0:0" .granted, .find .iri "urn:t0:0"],
      request.kind? = some .iri) ∧
    (∀ request ∈ [Request.intern .literal ⟨"1", TermId.make .iri 5 (by decide), none⟩ .granted,
        .intern .blank "b" .granted],
      ∃ other, other ≠ .iri ∧ request.kind? = some other) ∧
    (preloaded {}).budget.used +
      (([Request.intern .iri "urn:t0:0" .granted, .find .iri "urn:t0:0"] ++
        [Request.intern .literal ⟨"1", TermId.make .iri 5 (by decide), none⟩ .granted,
          .intern .blank "b" .granted]).map Request.bytes).sum ≤ Budget.wordMax ∧
    Interleaving [Request.intern .iri "urn:t0:0" .granted, .find .iri "urn:t0:0"]
      [Request.intern .literal ⟨"1", TermId.make .iri 5 (by decide), none⟩ .granted,
        .intern .blank "b" .granted]
      [Request.intern .iri "urn:t0:0" .granted,
        .intern .literal ⟨"1", TermId.make .iri 5 (by decide), none⟩ .granted,
        .find .iri "urn:t0:0", .intern .blank "b" .granted] ∧
    (Interleaving
      ([Request.intern .iri "urn:t0:0" .granted, .find .iri "urn:t0:0"].zip
        ((preloaded {}).replay [Request.intern .iri "urn:t0:0" .granted, .find .iri "urn:t0:0"]))
      ([Request.intern .literal ⟨"1", TermId.make .iri 5 (by decide), none⟩ .granted,
          .intern .blank "b" .granted].zip
        ((preloaded {}).replay
          [Request.intern .literal ⟨"1", TermId.make .iri 5 (by decide), none⟩ .granted,
          .intern .blank "b" .granted]))
      ([Request.intern .iri "urn:t0:0" .granted,
          .intern .literal ⟨"1", TermId.make .iri 5 (by decide), none⟩ .granted,
          .find .iri "urn:t0:0", .intern .blank "b" .granted].zip
        ((preloaded {}).replay [Request.intern .iri "urn:t0:0" .granted,
          .intern .literal ⟨"1", TermId.make .iri 5 (by decide), none⟩ .granted,
          .find .iri "urn:t0:0", .intern .blank "b" .granted])) ∧
      (preloaded {}).run [Request.intern .iri "urn:t0:0" .granted,
          .intern .literal ⟨"1", TermId.make .iri 5 (by decide), none⟩ .granted,
          .find .iri "urn:t0:0", .intern .blank "b" .granted] =
        ((preloaded {}).run [Request.intern .iri "urn:t0:0" .granted, .find .iri "urn:t0:0"]).run
          [Request.intern .literal ⟨"1", TermId.make .iri 5 (by decide), none⟩ .granted,
            .intern .blank "b" .granted]) := by
  have unbounded : (preloaded {}).budget.capacity = none := rfl
  have onIri : ∀ request ∈ [Request.intern .iri "urn:t0:0" .granted, .find .iri "urn:t0:0"],
      request.kind? = some .iri := by
    decide
  have elsewhere : ∀ request ∈
      [Request.intern .literal ⟨"1", TermId.make .iri 5 (by decide), none⟩ .granted,
      .intern .blank "b" .granted], ∃ other, other ≠ .iri ∧ request.kind? = some other := by
    intro request member
    simp only [List.mem_cons, List.not_mem_nil, or_false] at member
    rcases member with rfl | rfl
    · exact ⟨.literal, by decide, rfl⟩
    · exact ⟨.blank, by decide, rfl⟩
  have fits : (preloaded {}).budget.used + (([Request.intern .iri "urn:t0:0" .granted,
      .find .iri "urn:t0:0"] ++
        [Request.intern .literal ⟨"1", TermId.make .iri 5 (by decide), none⟩ .granted,
        .intern .blank "b" .granted]).map Request.bytes).sum ≤ Budget.wordMax := by
    rw [preloaded_budget]
    decide
  have merged : Interleaving [Request.intern .iri "urn:t0:0" .granted, .find .iri "urn:t0:0"]
      [Request.intern .literal ⟨"1", TermId.make .iri 5 (by decide), none⟩ .granted,
        .intern .blank "b" .granted]
      [Request.intern .iri "urn:t0:0" .granted,
        .intern .literal ⟨"1", TermId.make .iri 5 (by decide), none⟩ .granted,
        .find .iri "urn:t0:0", .intern .blank "b" .granted] :=
    .left (.right (.left (.right .nil)))
  exact ⟨unbounded, onIri, elsewhere, fits, merged,
    (kinds_are_independent (preloaded {}) .iri).2.2 unbounded _ _ _ onIri elsewhere fits merged⟩

end Store

end TermDictionary
