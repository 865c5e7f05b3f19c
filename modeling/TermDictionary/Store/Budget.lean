import TermDictionary.Store.Error

/-!
# The byte budget

All tables of a dictionary draw on one budget of bytes. The budget counts the bytes in use
and may have a capacity. Claiming bytes for a record succeeds when the new total is within the
capacity and within the largest 64-bit number; the bytes are then in use at once, and the claim
is pending. A pending claim that is dropped without being committed gives its bytes back, so an
insertion that fails after its claim leaves the budget as it found it. A failed claim changes
nothing and reports the bytes in use. Reserved IRIs are charged without a claim when a
dictionary is built, and the total is checked once afterwards.
-/

namespace TermDictionary

/-- Bytes in use and the capacity, if there is one. -/
structure Budget where
  /-- Bytes in use. -/
  used : Nat
  /-- The most bytes that may be in use, or `none` for no limit. -/
  capacity : Option Nat
deriving DecidableEq

/-- Bytes claimed from a budget for one record, pending until committed. -/
structure BudgetClaim where
  /-- The bytes claimed. -/
  bytes : Nat
  /-- Whether the claim was committed and keeps its bytes in use. -/
  committed : Bool
deriving DecidableEq

namespace Budget

/-- The largest number of bytes a budget counts: the largest 64-bit number. -/
def wordMax : Nat := 2 ^ 64 - 1

/-- A budget with nothing in use. -/
def fresh (capacity : Option Nat) : Budget := ⟨0, capacity⟩

/-- The most bytes a claim may bring the total to. -/
def limit (budget : Budget) : Nat :=
  match budget.capacity with
  | some capacity => min capacity wordMax
  | none => wordMax

/-- The capacity as errors report it: the largest 64-bit number when there is no limit. -/
def reportedCapacity (budget : Budget) : Nat :=
  budget.capacity.getD wordMax

/-- The budget with `bytes` more in use, whatever the limit. -/
def charge (budget : Budget) (bytes : Nat) : Budget :=
  ⟨budget.used + bytes, budget.capacity⟩

/-- Claims the bytes of a record of a kind: the budget with them in use and the pending claim,
or, when the new total would pass the limit, the error that reports the bytes in use. -/
def claim (budget : Budget) (kind : TermKind) (bytes : Nat) :
    Except StoreError (Budget × BudgetClaim) :=
  if budget.used + bytes ≤ budget.limit then .ok (budget.charge bytes, ⟨bytes, false⟩)
  else .error (.regionExhausted kind bytes budget.used budget.reportedCapacity)

@[simp] theorem used_charge (budget : Budget) (bytes : Nat) :
    (budget.charge bytes).used = budget.used + bytes := rfl

@[simp] theorem capacity_charge (budget : Budget) (bytes : Nat) :
    (budget.charge bytes).capacity = budget.capacity := rfl

end Budget

namespace BudgetClaim

/-- The claim, committed: its bytes stay in use when it is dropped. -/
def commit (claim : BudgetClaim) : BudgetClaim :=
  { claim with committed := true }

/-- The budget after a claim is dropped: a claim not committed gives its bytes back. -/
def drop (claim : BudgetClaim) (budget : Budget) : Budget :=
  if claim.committed then budget else ⟨budget.used - claim.bytes, budget.capacity⟩

/-- A committed claim leaves the budget as it is when dropped. -/
@[simp] theorem drop_commit (claim : BudgetClaim) (budget : Budget) :
    claim.commit.drop budget = budget := by
  simp [drop, commit]

end BudgetClaim

namespace Budget

/-- A claim succeeds exactly when the new total is within the limit; the bytes are then in use
and the claim is pending. -/
theorem claim_eq_ok_iff {budget claimed : Budget} {kind : TermKind} {bytes : Nat}
    {pending : BudgetClaim} :
    budget.claim kind bytes = .ok (claimed, pending) ↔
      budget.used + bytes ≤ budget.limit ∧ claimed = budget.charge bytes ∧
        pending = ⟨bytes, false⟩ := by
  unfold claim
  split
  · rename_i within
    simp only [Except.ok.injEq, Prod.mk.injEq]
    constructor
    · rintro ⟨rfl, rfl⟩
      exact ⟨within, rfl, rfl⟩
    · rintro ⟨-, rfl, rfl⟩
      exact ⟨rfl, rfl⟩
  · rename_i beyond
    simp only [reduceCtorEq, false_iff, not_and]
    intro within
    exact absurd within beyond

/-- A claim fails exactly when the new total would pass the limit, and the error reports the
kind, the bytes asked for, the bytes in use and the capacity. -/
theorem claim_eq_error_iff {budget : Budget} {kind : TermKind} {bytes : Nat}
    {error : StoreError} :
    budget.claim kind bytes = .error error ↔
      budget.limit < budget.used + bytes ∧
        error = .regionExhausted kind bytes budget.used budget.reportedCapacity := by
  unfold claim
  split
  · rename_i within
    simp only [reduceCtorEq, false_iff, not_and]
    intro beyond
    omega
  · rename_i beyond
    simp only [Except.error.injEq]
    constructor
    · rintro rfl
      exact ⟨by omega, rfl⟩
    · rintro ⟨-, rfl⟩
      rfl

/-- Dropping a claim that was never committed takes back exactly the bytes it claimed. -/
theorem drop_of_claim_eq_ok {budget claimed : Budget} {kind : TermKind} {bytes : Nat}
    {pending : BudgetClaim} (claimedOk : budget.claim kind bytes = .ok (claimed, pending)) :
    pending.drop claimed = budget := by
  obtain ⟨-, rfl, rfl⟩ := claim_eq_ok_iff.mp claimedOk
  simp [BudgetClaim.drop, charge]

end Budget

end TermDictionary
