import TermDictionary.Proofs.RegionConsistency

/-!
# The exclusive path probes again

Finding or making a record probes under a shared lock and, when the record is absent, lets
that lock go and takes the exclusive one for the slow half; other writers may store records in
between. The slow half probes again, so on any tables it answers and changes exactly what the
whole operation would (`insertSlow_eq_findOrMake`).

What other writers do is a run of successful calls (`IndexedRegion.Interns`). A stored record
keeps its id through any such run (`Interns.probe_eq_some`), so a record that was absent when
probed and is present at the exclusive lock was stored by one of those writers, under the id
that writer was answered (`Interns.exists_call_of_probe`). The slow half then answers that id,
whatever mint it was given, and changes nothing (`exclusive_path_rechecks`).
-/

namespace TermDictionary

namespace IndexedRegion

variable {kind : TermKind}

/-- What successful calls to find or make, one after another, leave of the tables. Each call
brings its own record, budget and mint. -/
inductive Interns : IndexedRegion kind → IndexedRegion kind → Prop
  /-- No call at all. -/
  | refl (tables : IndexedRegion kind) : Interns tables tables
  /-- One successful call, then the rest. -/
  | step {tables middle later : IndexedRegion kind} {budget claimed : Budget}
      {record : kind.Record} {mint : (value : Nat) → value < 2 ^ 48 → kind.Record → TermId}
      {allocation : Allocation} {id : TermId} :
      tables.findOrMake budget record mint allocation = (.ok id, middle, claimed) →
      Interns middle later → Interns tables later

/-! ## One call -/

/-- The exclusive half answers the id of a record the reverse index holds and changes
nothing. -/
theorem insertSlow_of_probe_eq_some {tables : IndexedRegion kind} {record : kind.Record}
    {id : TermId} (found : tables.probe record = some id) (budget : Budget)
    (mint : (value : Nat) → value < 2 ^ 48 → kind.Record → TermId) (allocation : Allocation) :
    tables.insertSlow budget record mint allocation = (.ok id, tables, budget) := by
  simp only [insertSlow, found]

/-- The exclusive half alone does what the whole operation does: its probe repeats the
shared one. -/
theorem insertSlow_eq_findOrMake (tables : IndexedRegion kind) (budget : Budget)
    (record : kind.Record) (mint : (value : Nat) → value < 2 ^ 48 → kind.Record → TermId)
    (allocation : Allocation) :
    tables.insertSlow budget record mint allocation =
      tables.findOrMake budget record mint allocation := by
  cases found : tables.probe record with
  | some id => simp only [findOrMake, insertSlow, found]
  | none => simp only [findOrMake, found]

/-- Probing tables whose reverse index gained one record answers its id for that record and
what the earlier tables answer for any other. -/
theorem probe_of_reverse_eq_insert {tables after : IndexedRegion kind} {record : kind.Record}
    {id : TermId} (reverse : after.reverse = tables.reverse.insert record id)
    (other : kind.Record) :
    after.probe other = if record = other then some id else tables.probe other := by
  rw [probe, reverse, getElem?_reverse_insert, probe]

/-- A successful call finds the record, or stores it: the record was absent, the memory
allocator made room, and the record is then present under the id answered. -/
theorem findOrMake_eq_ok_cases {tables after : IndexedRegion kind} {budget claimed : Budget}
    {record : kind.Record} {mint : (value : Nat) → value < 2 ^ 48 → kind.Record → TermId}
    {allocation : Allocation} {id : TermId}
    (made : tables.findOrMake budget record mint allocation = (.ok id, after, claimed)) :
    (tables.probe record = some id ∧ after = tables) ∨
      (tables.probe record = none ∧ allocation = .granted ∧
        after.reverse = tables.reverse.insert record id) := by
  cases found : tables.probe record with
  | some other =>
    simp only [findOrMake, found, Prod.mk.injEq, Except.ok.injEq] at made
    obtain ⟨rfl, rfl, -⟩ := made
    exact .inl ⟨rfl, rfl⟩
  | none =>
    simp only [findOrMake, insertSlow, found] at made
    rcases insert_cases tables budget record mint allocation with
      ⟨_, unchanged⟩ | ⟨_, -, -, granted, stored⟩
    · rw [unchanged] at made
      cases made
    · rw [stored] at made
      simp only [Prod.mk.injEq, Except.ok.injEq] at made
      obtain ⟨rfl, rfl, -⟩ := made
      exact .inr ⟨rfl, granted, rfl⟩

/-- A successful call keeps the id of every record the reverse index held. -/
theorem probe_findOrMake {tables after : IndexedRegion kind} {budget claimed : Budget}
    {record other : kind.Record} {mint : (value : Nat) → value < 2 ^ 48 → kind.Record → TermId}
    {allocation : Allocation} {id otherId : TermId}
    (made : tables.findOrMake budget record mint allocation = (.ok id, after, claimed))
    (held : tables.probe other = some otherId) :
    after.probe other = some otherId := by
  rcases findOrMake_eq_ok_cases made with ⟨-, rfl⟩ | ⟨absent, -, reverse⟩
  · exact held
  · -- The stored record was absent, so it is not the one held.
    have different : record ≠ other := by
      rintro rfl
      rw [absent] at held
      cases held
    rw [probe_of_reverse_eq_insert reverse, if_neg different]
    exact held

/-! ## Runs of other writers -/

/-- A stored record keeps its id through any run of other writers. -/
theorem Interns.probe_eq_some {tables later : IndexedRegion kind} (run : tables.Interns later)
    {record : kind.Record} {id : TermId} (held : tables.probe record = some id) :
    later.probe record = some id := by
  induction run with
  | refl => exact held
  | step made _ ih => exact ih (probe_findOrMake made held)

/-- A record absent before a run of other writers and present after it was stored by one of
their calls, made on tables that still lacked it, where the memory allocator made room, and
that call was answered the id the record has at the end. -/
theorem Interns.exists_call_of_probe {tables later : IndexedRegion kind}
    (run : tables.Interns later) {record : kind.Record} {id : TermId}
    (absent : tables.probe record = none) (present : later.probe record = some id) :
    ∃ (middle after : IndexedRegion kind) (budget claimed : Budget)
      (mint : (value : Nat) → value < 2 ^ 48 → kind.Record → TermId),
      tables.Interns middle ∧ middle.probe record = none ∧
        middle.findOrMake budget record mint .granted = (.ok id, after, claimed) ∧
        after.Interns later := by
  induction run with
  | refl => rw [absent] at present; cases present
  | @step tables middle later budget claimed stored mint allocation answered made rest ih =>
    cases middleFound : middle.probe record with
    | none =>
      obtain ⟨start, after, budget', claimed', mint', reached, startAbsent, call, remaining⟩ :=
        ih middleFound present
      exact ⟨start, after, budget', claimed', mint', .step made reached, startAbsent, call,
        remaining⟩
    | some first =>
      -- The first call stored the record, under the id the rest of the run keeps.
      have same : first = id := by
        rw [rest.probe_eq_some middleFound] at present
        exact Option.some.inj present
      subst same
      rcases findOrMake_eq_ok_cases made with ⟨-, rfl⟩ | ⟨-, granted, reverse⟩
      · rw [absent] at middleFound
        cases middleFound
      · have storedRecord : stored = record := by
          by_contra different
          rw [probe_of_reverse_eq_insert reverse, if_neg different, absent] at middleFound
          cases middleFound
        have storedId : answered = first := by
          rw [probe_of_reverse_eq_insert reverse, if_pos storedRecord] at middleFound
          exact Option.some.inj middleFound
        subst storedRecord storedId granted
        exact ⟨tables, middle, budget, claimed, mint, .refl _, absent, made, rest⟩

/-- The exclusive half alone is correct, so giving up the shared lock before taking the
exclusive one is safe. Take tables on which the shared probe found a record absent, and any
tables that successful calls of other writers make of them before the exclusive lock is
taken. There the exclusive half answers and changes exactly what a whole call to find or make
would. If the record became present in between, the exclusive half answers its id, whatever
mint it was given, and leaves the tables and the budget as they were; that id is the one an
intervening call that stored the record was answered. -/
theorem exclusive_path_rechecks
    {tables later : IndexedRegion kind}
    {record : kind.Record}
    (absent : tables.probe record = none)
    (others : tables.Interns later)
    (budget : Budget)
    (mint : (value : Nat) → value < 2 ^ 48 → kind.Record → TermId)
    (allocation : Allocation) :
    later.insertSlow budget record mint allocation =
        later.findOrMake budget record mint allocation ∧
      ∀ id : TermId, later.probe record = some id →
        (∀ (anyMint : (value : Nat) → value < 2 ^ 48 → kind.Record → TermId)
          (anyAllocation : Allocation),
          later.insertSlow budget record anyMint anyAllocation = (.ok id, later, budget)) ∧
        ∃ (middle after : IndexedRegion kind) (budget' claimed : Budget)
          (mint' : (value : Nat) → value < 2 ^ 48 → kind.Record → TermId),
          tables.Interns middle ∧ middle.probe record = none ∧
            middle.findOrMake budget' record mint' .granted = (.ok id, after, claimed) ∧
            after.Interns later := by
  refine ⟨insertSlow_eq_findOrMake later budget record mint allocation,
    fun id present => ⟨?_, ?_⟩⟩
  · intro anyMint anyAllocation
    exact insertSlow_of_probe_eq_some present budget anyMint anyAllocation
  · exact others.exists_call_of_probe absent present

/-- A variable stored by another writer between the probe and the exclusive lock is answered
from the tables: the slow half returns its id 1, mints nothing and stores nothing. -/
theorem exclusive_path_rechecks_after_race :
    let raced : IndexedRegion .var :=
      { (new .var).place (TermId.make .var 1 (by decide)) 0 "raced" with next := 2 }
    raced.insertSlow (.fresh none) "raced" (fun value fits _ => TermId.make .var value fits)
        .granted =
        raced.findOrMake (.fresh none) "raced" (fun value fits _ => TermId.make .var value fits)
          .granted ∧
      ∀ id : TermId, raced.probe "raced" = some id →
        (∀ (anyMint : (value : Nat) → value < 2 ^ 48 → TermKind.var.Record → TermId)
          (anyAllocation : Allocation),
          raced.insertSlow (.fresh none) "raced" anyMint anyAllocation =
            (.ok id, raced, .fresh none)) ∧
        ∃ (middle after : IndexedRegion .var) (budget' claimed : Budget)
          (mint' : (value : Nat) → value < 2 ^ 48 → TermKind.var.Record → TermId),
          (new .var).Interns middle ∧ middle.probe "raced" = none ∧
            middle.findOrMake budget' "raced" mint' .granted = (.ok id, after, claimed) ∧
            after.Interns raced :=
  exclusive_path_rechecks (by decide)
    (@Interns.step .var (new .var) _ _ (.fresh none) ⟨21, none⟩ "raced"
      (fun value fits _ => TermId.make .var value fits) .granted (TermId.make .var 1 (by decide))
      rfl (.refl _))
    (.fresh none) (fun value fits _ => TermId.make .var value fits) .granted

end IndexedRegion

end TermDictionary
