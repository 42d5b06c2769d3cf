/-!
# Errors of the suite

`Error` is the error every capability reports: a cause, with the place it occurred and what it
concerns. `Error.kind` is the coarse class callers branch on, `Error.message` the text they
show, and `Error.withContext` names another place as the one the error occurred in.

A `Change` is a sequence of steps on a state, any of which can fail. What was done before a
failure stays: the outcome is a result together with the state that is left (`changing`).

`Outcome good failure` says of a computation that what it answers is good, or that it fails in one
of the expected ways. Two computations are in step if both answer, with related answers, or both
fail, with related errors. Steps that are in step one after the other are in step together
(`InStep.bind`), so a relation between the states of two runs is carried through whole
computations.
-/

namespace CryptoSuite

/-- Why an operation failed. -/
inductive Error where
  /-- A value was refused: bad encoding, unknown field, wrong representation. -/
  | invalidParameter (context message : String)
  /-- A byte string has a length that does not fit. -/
  | invalidLength (context : String) (expected actual : Nat)
  /-- A feature that is recognised but not provided. -/
  | notImplemented (feature : String)
  /-- A constructor lacks a parameter it needs. -/
  | moreInfo (context parameter : String)
  /-- Nothing is known under the name that was looked up. -/
  | notFound (context name : String)
  /-- A unit could not report its implementations. -/
  | enumeration (unit message : String)
  /-- An object was located but has no entry point. -/
  | resolution (unit : String)
  /-- A unit failed to hand out the operations of an implementation. -/
  | function (unit message : String)
  /-- Any other failure. -/
  | other (context message : String)
  deriving DecidableEq

namespace Error

/-- Coarse class of an error. -/
inductive Kind where
  | invalid
  | notImplemented
  | moreInfo
  | notFound
  | enumeration
  | resolution
  | function
  | other
  deriving DecidableEq

/-- The class of an error: a refused value and a refused length are both `invalid`. -/
def kind : Error → Kind
  | invalidParameter .. => .invalid
  | invalidLength .. => .invalid
  | notImplemented _ => .notImplemented
  | moreInfo .. => .moreInfo
  | notFound .. => .notFound
  | enumeration .. => .enumeration
  | resolution _ => .resolution
  | function .. => .function
  | other .. => .other

/-- The text of an error. -/
def message : Error → String
  | invalidParameter context message => s!"{context}: {message}"
  | invalidLength context expected actual =>
    s!"{context}: invalid length (expected {expected}, got {actual})"
  | notImplemented feature => s!"{feature} is not implemented"
  | moreInfo context parameter => s!"{context}: missing required parameter '{parameter}'"
  | notFound context name => s!"{context}: '{name}' not found"
  | enumeration unit message => s!"unit '{unit}' could not be enumerated: {message}"
  | resolution unit => s!"unit '{unit}' exports no plugin entry point"
  | function unit message => s!"unit '{unit}' failed to provide a function table: {message}"
  | other context message => s!"{context}: {message}"

/-- Put an error in another context. Errors that concern a feature or a unit have no context
and stay as they are. -/
def withContext (context : String) : Error → Error
  | invalidParameter _ message => .invalidParameter context message
  | invalidLength _ expected actual => .invalidLength context expected actual
  | moreInfo _ parameter => .moreInfo context parameter
  | notFound _ name => .notFound context name
  | other _ message => .other context message
  | e => e

/-! ## Laws of the context -/

@[simp]
theorem kind_withContext (context : String) (e : Error) :
    (e.withContext context).kind = e.kind := by
  cases e <;> rfl

/-- Of several contexts the last one given stays. -/
@[simp]
theorem withContext_withContext (first second : String) (e : Error) :
    (e.withContext first).withContext second = e.withContext second := by
  cases e <;> rfl

end Error

/-! ## Results -/

/-- Two steps, one after the other, succeed if both do. -/
theorem bind_eq_ok_iff {ε α β : Type} {x : Except ε α} {f : α → Except ε β} {b : β} :
    x >>= f = .ok b ↔ ∃ a, x = .ok a ∧ f a = .ok b := by
  cases x with
  | error e => exact ⟨nofun, fun ⟨_, h, _⟩ => nomatch h⟩
  | ok a => exact ⟨fun h => ⟨a, rfl, h⟩, fun ⟨_, hx, h⟩ => Except.ok.inj hx ▸ h⟩

/-! ## Changes of a state -/

/-- Steps on a state, any of which can fail. -/
abbrev Change (S α : Type) := ExceptT Error (StateM S) α

/-- What a change makes of a state: its result, and the state that is left, after a failure too. -/
def changing {S α : Type} (state : S) (change : Change S α) : Except Error α × S :=
  (ExceptT.run change).run state

/-- The state that a change left, if the change succeeded. -/
def accepted {S : Type} (outcome : Except Error Unit × S) : Except Error S := do
  outcome.1
  return outcome.2

theorem accepted_eq_ok_iff {S : Type} {outcome : Except Error Unit × S} {state : S} :
    accepted outcome = .ok state ↔ outcome = (.ok (), state) := by
  obtain ⟨_ | _, left⟩ := outcome
  · exact iff_of_false (fun h => nomatch h) (fun h => nomatch h)
  · simp [accepted, pure, Except.pure, bind, Except.bind]

section Changing

variable {S α β : Type} (state : S)

@[simp]
theorem changing_pure (a : α) : changing state (pure a : Change S α) = (.ok a, state) := rfl

@[simp]
theorem changing_throw (e : Error) :
    changing state (throw e : Change S α) = (.error e, state) := rfl

@[simp]
theorem changing_get_bind (f : S → Change S α) :
    changing state (get >>= f) = changing state (f state) := rfl

@[simp]
theorem changing_modify (g : S → S) :
    changing state (modify g : Change S Unit) = (.ok (), g state) := rfl

@[simp]
theorem changing_modify_bind (g : S → S) (f : Unit → Change S α) :
    changing state (modify g >>= f) = changing (g state) (f ()) := rfl

/-- A step that only computes leaves the state to the steps behind it, or fails and leaves it. -/
@[simp]
theorem changing_lift_bind (x : Except Error α) (f : α → Change S β) :
    changing state ((liftM x : Change S α) >>= f) =
      match x with
      | .ok a => changing state (f a)
      | .error e => (.error e, state) := by
  cases x <;> rfl

end Changing

/-! ## Outcomes -/

/-- A computation answers something good, or fails as expected. -/
def Outcome {α : Type} (good : α → Prop) (failure : Error → Prop) : Except Error α → Prop
  | .ok a => good a
  | .error e => failure e

section

variable {α β : Type} {good : α → Prop} {good' : β → Prop} {failure : Error → Prop}
  {x : Except Error α}

theorem Outcome.bind {f : α → Except Error β} (hx : Outcome good failure x)
    (hf : ∀ a, good a → Outcome good' failure (f a)) : Outcome good' failure (x >>= f) := by
  cases x with
  | error e => exact hx
  | ok a => exact hf a hx

/-- Only good answers reach the second step. -/
theorem Outcome.bind_congr {f g : α → Except Error β} (hx : Outcome good failure x)
    (hfg : ∀ a, good a → f a = g a) : x >>= f = x >>= g := by
  cases x with
  | error e => rfl
  | ok a => exact hfg a hx

theorem Outcome.of_eq_ok {a : α} (h : Outcome good failure x) (hx : x = .ok a) : good a := by
  subst hx
  exact h

/-- If every failure is expected, only the answers count. -/
theorem Outcome.of_forall (h : ∀ a, x = .ok a → good a) : Outcome good (fun _ => True) x := by
  cases x with
  | error e => trivial
  | ok a => exact h a rfl

theorem Outcome.any (x : Except Error α) : Outcome (fun _ => True) (fun _ => True) x :=
  .of_forall fun _ _ => trivial

theorem Outcome.of_eq_error {e : Error} (h : Outcome good failure x) (hx : x = .error e) :
    failure e := by
  subst hx
  exact h

end

/-! ## Computations in step -/

/-- Both computations answer, with answers that `r` relates, or both fail, with errors that
`failure` relates. -/
inductive InStep {α β : Type} (failure : Error → Error → Prop) (r : α → β → Prop) :
    Except Error α → Except Error β → Prop
  | ok {a : α} {b : β} (h : r a b) : InStep failure r (.ok a) (.ok b)
  | error {e e' : Error} (h : failure e e') : InStep failure r (.error e) (.error e')

namespace InStep

variable {α β γ δ : Type} {failure : Error → Error → Prop} {r : α → β → Prop} {s : γ → δ → Prop}

/-- A computation is in step with itself. -/
theorem refl {r : α → α → Prop} (hfailure : ∀ e, failure e e) (hr : ∀ a, r a a)
    (x : Except Error α) : InStep failure r x x := by
  cases x with
  | ok a => exact .ok (hr a)
  | error e => exact .error (hfailure e)

theorem bind {x : Except Error α} {y : Except Error β} {f : α → Except Error γ}
    {g : β → Except Error δ} (h : InStep failure r x y)
    (hfg : ∀ a b, r a b → InStep failure s (f a) (g b)) :
    InStep failure s (x >>= f) (y >>= g) := by
  cases h with
  | ok h => exact hfg _ _ h
  | error h => exact .error h

/-- One and the same step before both changes nothing. -/
theorem after {f : α → Except Error γ} {g : α → Except Error δ} (hfailure : ∀ e, failure e e)
    (x : Except Error α) (hfg : ∀ a, InStep failure s (f a) (g a)) :
    InStep failure s (x >>= f) (x >>= g) :=
  (refl hfailure (fun _ => rfl) x).bind fun a _ h => h ▸ hfg a

end InStep

/-- Errors of one class. -/
def SameKind (e e' : Error) : Prop :=
  e.kind = e'.kind

end CryptoSuite
