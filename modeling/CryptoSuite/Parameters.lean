import CryptoSuite.Hash.Basic
import CryptoSuite.Number.Basic

/-!
# Construction parameters

A list of named values handed to the constructors of algorithms: a number that gives the
representation to compute in, or a hash function to build on. Of several values with one name the
last counts.
-/

namespace CryptoSuite

/-- A value handed to a constructor. -/
inductive ParameterValue (F σ : Type) where
  /-- A number, for its representation. -/
  | number (value : Number F)
  /-- A hash function. -/
  | hash (value : HashFunction σ)

/-- Named values, in the order they were given. -/
structure Parameters (F σ : Type) where
  /-- The names and values. -/
  values : List (String × ParameterValue F σ)

namespace Parameters

variable {F σ : Type}

/-- No parameters. -/
def empty : Parameters F σ := ⟨[]⟩

/-- Add a value. -/
def push (parameters : Parameters F σ) (name : String) (value : ParameterValue F σ) :
    Parameters F σ :=
  ⟨parameters.values ++ [(name, value)]⟩

/-- The number of values. -/
def size (parameters : Parameters F σ) : Nat :=
  parameters.values.length

/-- Whether there are no values. -/
def isEmpty (parameters : Parameters F σ) : Bool :=
  parameters.values.isEmpty

/-- The last value with a given name. -/
def get? (parameters : Parameters F σ) (name : String) : Option (ParameterValue F σ) :=
  (parameters.values.reverse.find? fun entry => entry.1 == name).map Prod.snd

/-- The number called `name`, for the operation `context`. -/
def requireNumber (parameters : Parameters F σ) (context name : String) :
    Except Error (Number F) :=
  match parameters.get? name with
  | some (.number value) => .ok value
  | some (.hash _) => .error (.invalidParameter context s!"parameter '{name}' is not a bignum")
  | none => .error (.moreInfo context name)

/-- The hash function called `name`, for the operation `context`. -/
def requireHash (parameters : Parameters F σ) (context name : String) :
    Except Error (HashFunction σ) :=
  match parameters.get? name with
  | some (.hash value) => .ok value
  | some (.number _) =>
    .error (.invalidParameter context s!"parameter '{name}' is not a hash algorithm")
  | none => .error (.moreInfo context name)

@[simp]
theorem get?_empty (name : String) : (empty : Parameters F σ).get? name = none := rfl

theorem get?_push (parameters : Parameters F σ) (name other : String)
    (value : ParameterValue F σ) :
    (parameters.push name value).get? other =
      if name = other then some value else parameters.get? other := by
  by_cases h : name = other <;> simp [get?, push, h]

end Parameters

end CryptoSuite
