import Mathlib.Algebra.Order.Ring.Rat
import Mathlib.Order.Lattice
import Mathlib.Order.Basic
import Mathlib.Tactic.NormNum

/-! Identifiers, instants, runtime settings and failures shared by every service.
The model is of one tenant: every query of the source is scoped to a tenant. Instants
are whole microseconds and floating-point scores are rational numbers.
-/
set_option autoImplicit false

namespace Abacus

abbrev Uuid := ℕ
abbrev Epc := String
abbrev EventId := String
abbrev Time := ℤ

def seconds (count : ℤ) : Time := count * 1000000

abbrev Confidence := {value : ℚ // 0 ≤ value ∧ value ≤ 1}

instance minEqOrRat : Std.MinEqOr ℚ := inferInstance

namespace Confidence

def clamp (value : ℚ) : Confidence :=
  ⟨max 0 (min 1 value),le_max_left _ _,max_le zero_le_one (min_le_left _ _)⟩

/-- The score an item falls to when its evidence conflicts. -/
def conflicting : Confidence := ⟨49 / 100,by norm_num,by norm_num⟩

end Confidence

/-- The validated fields of `Settings` that the modelled services read. -/
structure Settings where
  workerMaxAttempts : ℕ := 5
  workerLeaseSeconds : ℕ := 30
  accessTokenMinutes : ℕ := 15
  refreshTokenDays : ℕ := 7
  rfidMoveConfirmationReads : ℕ := 3
  rfidMoveConfirmationWindowSeconds : ℕ := 10
  rfidUnobservedAfterSeconds : ℕ := 1800
  rfidLastSeenFlushSeconds : ℕ := 30
  rfidConfidenceHalfLifeSeconds : ℕ := 1800
  connectivityLiveWindowSeconds : ℕ := 120
  connectivityStaleWindowSeconds : ℕ := 600
  replenishmentMinimumConfidence : ℚ := 7 / 10
  replenishmentVerificationWindowSeconds : ℕ := 900
  rfidMaxFutureSkewSeconds : ℕ := 300
  maxAttemptsInRange : 1 ≤ workerMaxAttempts ∧ workerMaxAttempts ≤ 100 := by decide
  leaseInRange : 5 ≤ workerLeaseSeconds ∧ workerLeaseSeconds ≤ 3600 := by decide
  accessTokenInRange : 1 ≤ accessTokenMinutes ∧ accessTokenMinutes ≤ 1440 := by decide
  refreshTokenInRange : 1 ≤ refreshTokenDays ∧ refreshTokenDays ≤ 90 := by decide
  confirmationReadsInRange :
    1 ≤ rfidMoveConfirmationReads ∧ rfidMoveConfirmationReads ≤ 10 := by decide
  confirmationWindowInRange :
    1 ≤ rfidMoveConfirmationWindowSeconds ∧ rfidMoveConfirmationWindowSeconds ≤ 300 := by decide
  unobservedInRange :
    60 ≤ rfidUnobservedAfterSeconds ∧ rfidUnobservedAfterSeconds ≤ 604800 := by decide
  lastSeenFlushInRange :
    1 ≤ rfidLastSeenFlushSeconds ∧ rfidLastSeenFlushSeconds ≤ 3600 := by decide
  halfLifeInRange :
    60 ≤ rfidConfidenceHalfLifeSeconds ∧ rfidConfidenceHalfLifeSeconds ≤ 604800 := by decide
  liveWindowInRange :
    10 ≤ connectivityLiveWindowSeconds ∧ connectivityLiveWindowSeconds ≤ 3600 := by decide
  staleWindowInRange :
    30 ≤ connectivityStaleWindowSeconds ∧ connectivityStaleWindowSeconds ≤ 86400 := by decide
  minimumConfidenceInRange :
    0 ≤ replenishmentMinimumConfidence ∧ replenishmentMinimumConfidence ≤ 1 := by norm_num
  verificationWindowInRange :
    60 ≤ replenishmentVerificationWindowSeconds ∧
      replenishmentVerificationWindowSeconds ≤ 86400 := by decide
  futureSkewInRange : rfidMaxFutureSkewSeconds ≤ 86400 := by decide
  staleExceedsLive : connectivityLiveWindowSeconds < connectivityStaleWindowSeconds := by decide
  unobservedExceedsFlush : rfidLastSeenFlushSeconds < rfidUnobservedAfterSeconds := by decide

inductive Failure where
  | apiError (status : ℕ) (title detail : String) (code : Option String)
  | valueError (message : String)
  | runtimeError (message : String)
  | validationError (message : String)
  | integrityError (constraint : String)
deriving DecidableEq, Repr

abbrev Attempt (α : Type) := Except Failure α

/-- Insert under a constraint, or fail as the database does. -/
def orIntegrityError {α : Type} (constraint : String) : Option α → Attempt α
  | some value => .ok value
  | none => .error (.integrityError constraint)

theorem orIntegrityError_eq_ok {α : Type} {constraint : String} {found : Option α} {value : α} :
    orIntegrityError constraint found = .ok value ↔ found = some value := by
  cases found <;> simp [orIntegrityError]

theorem exists_of_any {ε α : Type} {called : Except ε α} {p : α → Bool}
    (holds : called.toOption.any p = true) : ∃ result, called = .ok result ∧ p result = true := by
  cases called with
  | error failure => cases holds
  | ok result => exact ⟨result,rfl,holds⟩

/-- Inversion of a sequenced transaction: both parts succeeded. -/
theorem bind_eq_ok {α β : Type} {first : Attempt α} {second : α → Attempt β} {value : β} :
    (first >>= second) = .ok value ↔ ∃ middle, first = .ok middle ∧ second middle = .ok value := by
  cases first with
  | error failure => simp [bind,Except.bind]
  | ok middle => simp [bind,Except.bind]

theorem bind_eq_error {α β : Type} {attempt : Attempt α} {next : α → Attempt β}
    {failure : Failure} :
    (attempt >>= next) = .error failure ↔
      attempt = .error failure ∨ ∃ value, attempt = .ok value ∧ next value = .error failure := by
  cases attempt with
  | error other =>
      constructor
      · intro failed
        cases failed
        exact .inl rfl
      · rintro (failed | ⟨value,accepted,-⟩)
        · cases failed
          rfl
        · cases accepted
  | ok value =>
      constructor
      · exact fun failed => .inr ⟨value,rfl,failed⟩
      · rintro (failed | ⟨other,accepted,failed⟩)
        · cases failed
        · cases accepted
          exact failed

/-- A loop over a list succeeds when each of its steps does. -/
theorem mapM_eq_ok {α β : Type} {step : α → Attempt β} {elements : List α} {values : List β} :
    elements.mapM step = .ok values ↔
      List.Forall₂ (fun element value => step element = .ok value) elements values := by
  induction elements generalizing values with
  | nil =>
      constructor
      · intro done
        cases done
        exact .nil
      · intro done
        cases done
        rfl
  | cons element elements ih =>
      rw [List.mapM_cons,bind_eq_ok]
      constructor
      · rintro ⟨value,head,rest⟩
        obtain ⟨others,tail,result⟩ := bind_eq_ok.mp rest
        cases result
        exact .cons head (ih.mp tail)
      · rintro (_ | ⟨head,tail⟩)
        exact ⟨_,head,bind_eq_ok.mpr ⟨_,ih.mpr tail,rfl⟩⟩

theorem mapM_error {α β : Type} {step : α → Attempt β} {elements : List α} {failure : Failure}
    (failed : elements.mapM step = .error failure) :
    ∃ element ∈ elements, step element = .error failure := by
  induction elements with
  | nil => cases failed
  | cons element elements ih =>
      rw [List.mapM_cons] at failed
      rcases bind_eq_error.mp failed with head | ⟨value,-,rest⟩
      · exact ⟨element,List.mem_cons_self ..,head⟩
      · rcases bind_eq_error.mp rest with tail | ⟨values,-,nothing⟩
        · obtain ⟨other,member,refused⟩ := ih tail
          exact ⟨other,List.mem_cons_of_mem _ member,refused⟩
        · cases nothing

end Abacus
