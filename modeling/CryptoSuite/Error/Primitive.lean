import CryptoSuite.Error.Basic

/-!
# Errors of the primitives

`PrimitiveError` is what the primitives report. `PrimitiveError.toError` is its reading as an error
of the suite. `PrimitiveError.forward` moves a whole result across, and `PrimitiveError.lift` does
so in a given context. The checks `require`, `requireAtMost` and `requireSupported` are the three
tests the primitives make on their inputs.
-/

namespace CryptoSuite

/-- Why a primitive failed. -/
inductive PrimitiveError where
  /-- A parameter was refused. -/
  | parameter (name reason : String)
  /-- A length is out of bounds. -/
  | length (context : String) (expected actual : Nat)
  /-- A feature that is recognised but not provided. -/
  | notImplemented (feature : String)
  /-- A parameter that is needed was not given. -/
  | moreInfo (context parameter : String)
  /-- The operation itself went wrong. -/
  | processing (operation details : String)
  deriving DecidableEq

namespace PrimitiveError

/-- The text of a primitive's error. -/
def message : PrimitiveError → String
  | parameter name reason => s!"Invalid parameter '{name}': {reason}"
  | length context expected actual =>
    s!"Invalid length for {context}: expected {expected}, got {actual}"
  | notImplemented feature => s!"Feature not implemented: {feature}"
  | moreInfo context needed => s!"{context} requires parameter '{needed}'"
  | processing operation details => s!"Processing error in {operation}: {details}"

/-- The same cause as an error of the suite. -/
def toError : PrimitiveError → Error
  | parameter name reason => .invalidParameter name reason
  | length context expected actual => .invalidLength context expected actual
  | notImplemented feature => .notImplemented feature
  | moreInfo context needed => .moreInfo context needed
  | processing operation details => .other operation details

/-- A primitive's result as a result of the suite. -/
def forward {α : Type} (result : Except PrimitiveError α) : Except Error α :=
  result.mapError toError

/-- A primitive's result as a result of the suite, its error put in `context`. -/
def lift {α : Type} (result : Except PrimitiveError α) (context : String) : Except Error α :=
  result.mapError fun e => e.toError.withContext context

@[simp]
theorem forward_ok {α : Type} (a : α) : forward (.ok a) = .ok a := rfl

@[simp]
theorem forward_error {α : Type} (e : PrimitiveError) :
    forward (.error e : Except PrimitiveError α) = .error e.toError := rfl

theorem forward_eq_error_iff {α : Type} {result : Except PrimitiveError α} {e : Error} :
    forward result = .error e ↔ ∃ cause, result = .error cause ∧ cause.toError = e := by
  cases result <;> simp

theorem forward_eq_ok_iff {α : Type} {result : Except PrimitiveError α} {a : α} :
    forward result = .ok a ↔ result = .ok a := by
  cases result <;> simp

/-! ## Checks -/

/-- Refuse the parameter `name` unless `condition` holds. -/
def require (condition : Bool) (name reason : String) : Except PrimitiveError Unit :=
  if condition then .ok () else .error (.parameter name reason)

/-- Refuse a length above `max`. -/
def requireAtMost (context : String) (actual max : Nat) : Except PrimitiveError Unit :=
  if actual > max then .error (.length context max actual) else .ok ()

/-- Refuse a feature unless `condition` holds. -/
def requireSupported (condition : Bool) (feature : String) : Except PrimitiveError Unit :=
  if condition then .ok () else .error (.notImplemented feature)

theorem require_eq_ok_iff {condition : Bool} {name reason : String} {u : Unit} :
    require condition name reason = .ok u ↔ condition = true := by
  cases condition <;> simp [require]

theorem requireAtMost_eq_ok_iff {context : String} {actual max : Nat} {u : Unit} :
    requireAtMost context actual max = .ok u ↔ actual ≤ max := by
  by_cases h : actual > max
  · simp [requireAtMost, h]
  · simp [requireAtMost, Nat.le_of_not_gt h]

end PrimitiveError

end CryptoSuite
