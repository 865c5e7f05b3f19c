import TermDictionary.Proofs.Interning

/-!
# Budget accounting

The budget is charged twice over: once per reserved IRI while a dictionary is built, checked
against the capacity only at the end, and once per insertion, through a claim that fits the
limit. Both charge exactly the footprint of the record that is stored, so in every reachable
dictionary the bytes in use are the sum of the footprints of all records of all four tables,
and never more than the capacity (`Store.Accounted`).

A claim is measured on the view, the record is built from it separately: the two agree for
every view, a literal with an empty tag included (`TermKind.viewFootprint_eq_footprint`). An
interning of a new term that has a value and room left is then refused exactly when its bytes
would pass the capacity or the largest 64-bit number, and the refusal reports the bytes asked
for, the bytes in use and the capacity (`budget_is_exact`).
-/

namespace TermDictionary

namespace TermKind

/-- The bytes a record made from a view costs, read off the view: sixteen and the string's
UTF-8 bytes, or forty and the UTF-8 bytes of a literal's lexical form and language tag. -/
def viewFootprint : (kind : TermKind) → kind.View → Nat
  | var, name => 16 + String.utf8ByteSize name
  | blank, label => 16 + String.utf8ByteSize label
  | iri, text => 16 + String.utf8ByteSize text
  | literal, lit => 40 + lit.lexical.utf8ByteSize + (lit.language.map String.utf8ByteSize).getD 0

/-- A view costs what the record made from it costs, also a literal whose empty tag the record
drops. -/
theorem viewFootprint_eq_footprint (kind : TermKind) (view : kind.View) :
    kind.viewFootprint view = kind.footprint (kind.toRecord view) := by
  cases kind with
  | literal =>
    obtain ⟨lexical, datatype, language⟩ := view
    cases language with
    | none => rfl
    | some tag =>
      by_cases empty : tag = ""
      · subst empty
        rfl
      · have kept : (some tag).filter (fun tag => tag != "") = some tag := by
          simp [Option.filter, empty]
        simp [viewFootprint, footprint, toRecord, LiteralRecord.ofView, Literal.normalize, kept]
  | var => rfl
  | blank => rfl
  | iri => rfl

end TermKind

namespace Budget

/-- A total passes the limit exactly when it passes the capacity or the largest 64-bit
number. -/
theorem limit_lt_iff (budget : Budget) (total : Nat) :
    budget.limit < total ↔
      (∃ capacity, budget.capacity = some capacity ∧ capacity < total) ∨ wordMax < total := by
  unfold limit
  cases budget.capacity with
  | none => simp
  | some capacity =>
    simp only [Option.some.injEq, exists_eq_left']
    omega

end Budget

namespace Store

/-- The bytes of the records of one kind. -/
def kindBytes (store : Store) (kind : TermKind) : Nat :=
  ((store.table kind).entries.map fun entry => kind.footprint entry.2).sum

/-- The bytes of all records of a dictionary, reserved IRIs included. -/
def recordBytes (store : Store) : Nat :=
  store.kindBytes .var + store.kindBytes .blank + store.kindBytes .iri + store.kindBytes .literal

/-- The budget of a dictionary counts exactly the bytes of its records and stays within the
capacity. -/
structure Accounted (store : Store) : Prop where
  /-- The bytes in use are the bytes of the records. -/
  used_eq : store.budget.used = store.recordBytes
  /-- The bytes in use are within the capacity. -/
  used_le : ∀ capacity, store.budget.capacity = some capacity → store.budget.used ≤ capacity

theorem recordBytes_preloaded (config : StoreConfig) :
    (preloaded config).recordBytes =
      (config.reserved.entries.map fun entry => TermKind.iri.footprint entry.iri).sum := by
  have iris : (preloaded config).kindBytes .iri =
      (config.reserved.entries.map fun entry => TermKind.iri.footprint entry.iri).sum := by
    show ((preloaded config).iris.entries.map fun entry => TermKind.iri.footprint entry.2).sum = _
    rw [preloaded_iris, List.map_map]
    rfl
  have empty : ∀ kind, kind ≠ .iri → (preloaded config).kindBytes kind = 0 := by
    intro kind notIri
    rw [kindBytes, table_preloaded_of_ne config notIri]
    rfl
  rw [recordBytes, iris, empty .var (by decide), empty .blank (by decide),
    empty .literal (by decide)]
  omega

theorem accounted_preloaded
    (config : StoreConfig)
    (withinCapacity : ∀ capacity, config.capacity = some capacity →
      (preloaded config).budget.used ≤ capacity) :
    (preloaded config).Accounted where
  used_eq := by
    rw [recordBytes_preloaded, preloaded_budget]
  used_le := by
    intro capacity limited
    rw [preloaded_budget] at limited
    exact withinCapacity capacity limited

/-- An insertion adds the footprint of its record to the bytes of its kind and to no other. -/
theorem Insertion.kindBytes_after {store : Store} (step : Insertion store) (kind : TermKind) :
    step.after.kindBytes kind =
      store.kindBytes kind + if kind = step.kind then step.kind.footprint step.record else 0 := by
  refine step.forall_table_after (motive := fun kind table =>
      (table.entries.map fun entry => kind.footprint entry.2).sum =
        store.kindBytes kind + if kind = step.kind then step.kind.footprint step.record else 0)
    ?_ ?_ kind
  · intro other different
    rw [if_neg different, Nat.add_zero]
    rfl
  · rw [if_pos rfl, KindTable.entries_push, List.map_append, List.sum_append]
    rfl

theorem Insertion.recordBytes_after {store : Store} (step : Insertion store) :
    step.after.recordBytes = store.recordBytes + step.kind.footprint step.record := by
  simp only [recordBytes, step.kindBytes_after]
  -- Exactly one of the four kinds is the kind of the insertion.
  obtain ⟨kind, view, missing, fits, room, affordable⟩ := step
  cases kind <;> simp <;> omega

theorem Accounted.after {store : Store} (accounted : store.Accounted) (step : Insertion store) :
    step.after.Accounted where
  used_eq := by
    rw [Insertion.budget_after, Budget.used_charge, accounted.used_eq, step.recordBytes_after]
  used_le := by
    intro capacity limited
    rw [Insertion.budget_after, Budget.capacity_charge] at limited
    rw [Insertion.budget_after, Budget.used_charge]
    have affordable := step.affordable
    have withinLimit : store.budget.limit ≤ capacity := by
      rw [Budget.limit, limited]
      exact Nat.min_le_left _ _
    exact Nat.le_trans affordable withinLimit

/-- Every reachable dictionary is accounted for. -/
theorem Reachable.accounted {store : Store} (reachable : store.Reachable) : store.Accounted :=
  reachable.induction_on_insertions accounted_preloaded
    (fun _ step _ accounted => accounted.after step)

/-- Once its value fits and its table has room, storing a record with room granted is refused
exactly when the budget cannot take its bytes, and then with the bytes asked for, in use, and
the capacity. -/
theorem insert_granted_eq_error_iff
    {store : Store}
    {kind : TermKind}
    {record : kind.Record}
    {error : StoreError}
    (fits : (store.table kind).next < 2 ^ 48)
    (room : (store.table kind).size < KindTable.maxRecords) :
    (store.insert kind record .granted).1 = .error error ↔
      store.budget.limit < store.budget.used + kind.footprint record ∧
        error = .regionExhausted kind (kind.footprint record) store.budget.used
          store.budget.reportedCapacity := by
  by_cases affordable : store.budget.used + kind.footprint record ≤ store.budget.limit
  · rw [insert_of_granted fits room affordable]
    simp only [reduceCtorEq, false_iff, not_and]
    intro exceeded
    omega
  · have exceeded := Nat.lt_of_not_le affordable
    rw [insert_of_unaffordable fits room exceeded]
    simp only [Except.error.injEq, exceeded, true_and]
    exact eq_comm

/-- Once its value fits and its table has room, a refusal of storing a record, whatever the
allocator answers, is the budget's exactly when the budget cannot take the bytes: the claim
comes before the allocator is asked. -/
theorem insert_refusal_eq_regionExhausted_iff
    {store : Store}
    {kind : TermKind}
    {record : kind.Record}
    {allocation : Allocation}
    {error : StoreError}
    (fits : (store.table kind).next < 2 ^ 48)
    (room : (store.table kind).size < KindTable.maxRecords)
    (refused : (store.insert kind record allocation).1 = .error error) :
    error = .regionExhausted kind (kind.footprint record) store.budget.used
        store.budget.reportedCapacity ↔
      store.budget.limit < store.budget.used + kind.footprint record := by
  by_cases affordable : store.budget.used + kind.footprint record ≤ store.budget.limit
  · cases allocation with
    | granted =>
      rw [insert_of_granted fits room affordable] at refused
      cases refused
    | denied =>
      -- Only the allocator refused, with an error that is not the budget's.
      rw [insert_of_denied fits room affordable] at refused
      cases refused
      simp only [reduceCtorEq, false_iff, Nat.not_lt]
      exact affordable
  · have exceeded := Nat.lt_of_not_le affordable
    rw [insert_of_unaffordable fits room exceeded] at refused
    cases refused
    simp only [exceeded]

/-- In every reachable dictionary the bytes in use are exactly the footprints of all records,
reserved IRIs included, and within the capacity. Interning a new term whose kind has a value
and room left, with room granted by the allocator, is refused exactly when its bytes would pass
the capacity or the largest 64-bit number; and whatever the allocator answers, a refusal is the
budget's, with the bytes of the normalized view, the bytes in use and the capacity (the largest
64-bit number when there is none), exactly when those bytes would pass it. -/
theorem budget_is_exact
    {store : Store}
    (reachable : store.Reachable) :
    store.stats.bytes = store.recordBytes ∧
    (∀ capacity, store.budget.capacity = some capacity → store.budget.used ≤ capacity) ∧
    ∀ kind view, store.find? kind view = none → (store.table kind).next < 2 ^ 48 →
      (store.table kind).size < KindTable.maxRecords →
      ((∃ error, (store.intern kind view .granted).1 = .error error) ↔
          (∃ capacity, store.budget.capacity = some capacity ∧
              capacity < store.budget.used + kind.viewFootprint (kind.normalize view)) ∨
            Budget.wordMax < store.budget.used + kind.viewFootprint (kind.normalize view)) ∧
      ∀ allocation error, (store.intern kind view allocation).1 = .error error →
        (error = .regionExhausted kind (kind.viewFootprint (kind.normalize view))
            store.budget.used (store.budget.capacity.getD Budget.wordMax) ↔
          (∃ capacity, store.budget.capacity = some capacity ∧
              capacity < store.budget.used + kind.viewFootprint (kind.normalize view)) ∨
            Budget.wordMax < store.budget.used + kind.viewFootprint (kind.normalize view)) := by
  have accounted := reachable.accounted
  refine ⟨accounted.used_eq, accounted.used_le, ?_⟩
  intro kind view missing fits room
  -- The claim is measured on the normalized view; the record stored is built from it.
  have bytes : kind.viewFootprint (kind.normalize view) = kind.footprint (kind.toRecord view) := by
    rw [TermKind.viewFootprint_eq_footprint, TermKind.toRecord_normalize]
  simp only [intern_of_find?_eq_none missing]
  rw [bytes, ← Budget.limit_lt_iff]
  constructor
  · constructor
    · rintro ⟨error, refused⟩
      exact ((insert_granted_eq_error_iff fits room).mp refused).1
    · intro exceeded
      exact ⟨_, (insert_granted_eq_error_iff fits room).mpr ⟨exceeded, rfl⟩⟩
  · intro allocation error refused
    exact insert_refusal_eq_regionExhausted_iff fits room refused

/-- The standard dictionary built with a capacity of 1200 bytes is accounted for exactly. -/
theorem budget_is_exact_at_capacity :
    (preloaded { capacity := some 1200 }).Reachable ∧
    ((preloaded { capacity := some 1200 }).stats.bytes =
        (preloaded { capacity := some 1200 }).recordBytes ∧
      (∀ capacity, (preloaded { capacity := some 1200 }).budget.capacity = some capacity →
        (preloaded { capacity := some 1200 }).budget.used ≤ capacity) ∧
      ∀ kind view, (preloaded { capacity := some 1200 }).find? kind view = none →
        ((preloaded { capacity := some 1200 }).table kind).next < 2 ^ 48 →
        ((preloaded { capacity := some 1200 }).table kind).size < KindTable.maxRecords →
        ((∃ error, ((preloaded { capacity := some 1200 }).intern kind view .granted).1 =
              .error error) ↔
            (∃ capacity, (preloaded { capacity := some 1200 }).budget.capacity = some capacity ∧
                capacity < (preloaded { capacity := some 1200 }).budget.used +
                  kind.viewFootprint (kind.normalize view)) ∨
              Budget.wordMax < (preloaded { capacity := some 1200 }).budget.used +
                kind.viewFootprint (kind.normalize view)) ∧
        ∀ allocation error,
          ((preloaded { capacity := some 1200 }).intern kind view allocation).1 = .error error →
          (error = .regionExhausted kind (kind.viewFootprint (kind.normalize view))
              (preloaded { capacity := some 1200 }).budget.used
              ((preloaded { capacity := some 1200 }).budget.capacity.getD Budget.wordMax) ↔
            (∃ capacity, (preloaded { capacity := some 1200 }).budget.capacity = some capacity ∧
                capacity < (preloaded { capacity := some 1200 }).budget.used +
                  kind.viewFootprint (kind.normalize view)) ∨
              Budget.wordMax < (preloaded { capacity := some 1200 }).budget.used +
                kind.viewFootprint (kind.normalize view))) := by
  -- The standard reserved IRIs take 1166 bytes.
  have reachable : (preloaded { capacity := some 1200 }).Reachable := by
    refine reachable_preloaded fun capacity limited => ?_
    cases limited
    decide
  exact ⟨reachable, budget_is_exact reachable⟩

end Store

end TermDictionary
