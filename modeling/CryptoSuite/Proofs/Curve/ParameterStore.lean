import CryptoSuite.Proofs.Curve.CanonicalEncoding
import CryptoSuite.Proofs.Curve.History
import CryptoSuite.Proofs.Number.Implementations

/-!
# Curves as parameter stores

A curve holds a number in each slot, a flag and a name (`ParameterStore`). What a
call is to put there is said apart from the setters (`Curve.Call.assignment?`) :
some of the slots get a number, the others keep theirs, and the name is that of a
load or none. A call without an assignment is refused, for a reason that is said
apart again (`Curve.Call.Refused`, `Curve.Call.assignment?_eq_none_iff`).
Representations of numbers are told apart by the name of their implementation, and
that of a curve is the one its prime has when the call is made.

A curve does as its store does, in one call (`Curve.attempt_follows`) and in every
history of calls (`Curve.run_eq`) : a refused call leaves it as it was, and a slot
holds what was written to it last (`ParameterStore.slot_run`). Main statement :
`Curve.stores_parameters`.
-/

namespace CryptoSuite

/-- What a curve holds. -/
structure ParameterStore (F : Type) where
  /-- Name of the named curve that was loaded last, if nothing was written since. -/
  name : Option String
  /-- Whether the base point is the point at infinity. -/
  baseAtInfinity : Bool
  /-- The numbers. -/
  slot : Curve.Slot → Number F

/-- What a call puts into a store. Slots without a value keep theirs, and the name is replaced in
any case. -/
structure Assignment (F : Type) where
  name : Option String := none
  baseAtInfinity : Option Bool := none
  slot : Curve.Slot → Option (Number F) := fun _ => none

variable {F : Type}

/-- The whole point, and not one of its coordinates. -/
def Coordinate.IsWhole (part : Coordinate) : Prop :=
  part = .sec ∨ part = .secCompressed

/-- The slot of a parameter that is a single number. -/
def Curve.Scalar.slot : Curve.Scalar → Curve.Slot
  | .p => .p
  | .a => .a
  | .b => .b
  | .n => .n
  | .h => .h

namespace ParameterStore

/-- The store after an assignment. -/
def assign (store : ParameterStore F) (assignment : Assignment F) : ParameterStore F where
  name := assignment.name
  baseAtInfinity := assignment.baseAtInfinity.getD store.baseAtInfinity
  slot s := (assignment.slot s).getD (store.slot s)

/-- The curve that holds what the store does. -/
def onCurve (store : ParameterStore F) : Curve F where
  name := store.name
  p := store.slot .p
  a := store.slot .a
  b := store.slot .b
  n := store.slot .n
  h := store.slot .h
  baseAtInfinity := store.baseAtInfinity
  gx := store.slot .gx
  gy := store.slot .gy

end ParameterStore

/-- What a curve holds, as a store. -/
def Curve.store (curve : Curve F) : ParameterStore F where
  name := curve.name
  baseAtInfinity := curve.baseAtInfinity
  slot := curve.slot

theorem ParameterStore.store_onCurve (store : ParameterStore F) : store.onCurve.store = store := by
  obtain ⟨name, infinity, slot⟩ := store
  refine congrArg (ParameterStore.mk name infinity) (funext fun s => ?_)
  cases s <;> rfl

variable [Representation F]

/-! ## What calls assign -/

/-- The implementation whose numbers are taken : that of the prime. -/
def ParameterStore.algorithm (store : ParameterStore F) : String :=
  (store.slot .p).algorithm

namespace Assignment

/-- One slot. -/
def single (s : Curve.Slot) (value : Number F) : Curve.Slot → Option (Number F) :=
  Function.update (fun _ => none) s (some value)

/-- One parameter, or one coordinate of the base point, which makes that finite. The number may
depend on the slot that it is for. -/
def one? (value : Curve.Slot → Number F) (part : Coordinate) :
    Curve.Field → Option (Assignment F)
  | .scalar s => some { slot := single s.slot (value s.slot) }
  | .base =>
    match part with
    | .x => some { baseAtInfinity := some false, slot := single .gx (value .gx) }
    | .y => some { baseAtInfinity := some false, slot := single .gy (value .gy) }
    | _ => none

/-- A decoded base point. At infinity only the flag is set. -/
def decoded (store : ParameterStore F) : Sec.Decoded → Assignment F
  | .infinity => { baseAtInfinity := some true }
  | .affine x y =>
    { baseAtInfinity := some false
      slot
        | .gx => some ((store.slot .gx).withBytes x)
        | .gy => some ((store.slot .gy).withBytes y)
        | _ => none }

/-- A parameter set from octets, which are read as a number like the one in the slot. -/
def ofOctets? (store : ParameterStore F) (octets : Bytes) (part : Coordinate) :
    Curve.Field → Option (Assignment F)
  | .scalar s => one? (fun slot => (store.slot slot).withBytes octets) part (.scalar s)
  | .base =>
    match part with
    | .sec => (Sec.decode octets).toOption.map (decoded store)
    | .secCompressed => (Sec.decode octets).toOption.map (decoded store)
    | part => one? (fun slot => (store.slot slot).withBytes octets) part .base

/-- All slots, as an entry of the table has them, in numbers like the prime. -/
def named (store : ParameterStore F) (named : NamedCurve) : Assignment F where
  name := some named.name
  baseAtInfinity := some false
  slot s := some ((store.slot .p).withBytes (named.octets s))

end Assignment

namespace Curve

/-- The name of a parameter. -/
def Field.name : Field → String
  | .scalar .p => "p"
  | .scalar .a => "a"
  | .scalar .b => "b"
  | .scalar .n => "n"
  | .scalar .h => "h"
  | .base => "g"

theorem Field.ofName?_eq_some_iff {name : String} {field : Field} :
    Field.ofName? name = some field ↔ name = field.name := by
  constructor
  · intro h
    unfold Field.ofName? at h
    split at h <;> cases h <;> rfl
  · rintro rfl
    cases field with
    | base => rfl
    | scalar s => cases s <;> rfl

theorem Field.ofName?_eq_none_iff {name : String} :
    Field.ofName? name = none ↔ ∀ known : Field, name ≠ known.name := by
  simp only [Option.eq_none_iff_forall_ne_some, ne_eq, Field.ofName?_eq_some_iff]

theorem Field.name_injective : Function.Injective Field.name := by
  intro field field' h
  have hfield := Field.ofName?_eq_some_iff.2 h
  rw [Field.ofName?_eq_some_iff.2 rfl] at hfield
  exact Option.some.inj hfield

/-- The name of the base point is that of no other parameter. -/
theorem Field.name_eq_base_iff {field : Field} : field.name = "g" ↔ field = .base :=
  Field.name_injective.eq_iff' rfl

theorem Field.ofName_name (field : Field) : Field.ofName field.name = .ok field := by
  rw [Field.ofName, Field.ofName?_eq_some_iff.2 rfl]

namespace Call

/-- What a call is to assign, if it is to be accepted. -/
def assignment? (store : ParameterStore F) : Call F → Option (Assignment F)
  | .load name => (NamedCurve.find? name).map (.named store)
  | .setBytes field octets part =>
    (Field.ofName? field).bind (Assignment.ofOctets? store octets part)
  | .setNumber field value part =>
    if value.algorithm = store.algorithm then
      (Field.ofName? field).bind (Assignment.one? (fun _ => value) part)
    else none
  | .setBase point =>
    if point.x.algorithm = store.algorithm then
      some {
        baseAtInfinity := some point.infinity
        slot
          | .gx => some point.x
          | .gy => some point.y
          | _ => none }
    else none

/-- The calls to refuse : a load of an unknown name, a write to an unknown parameter, octets for the
base point that do not decode, a number for the whole base point, and numbers or points of another
representation. -/
def Refused (store : ParameterStore F) : Call F → Prop
  | .load name => ∀ named ∈ NamedCurve.all, named.name ≠ name
  | .setBytes field octets part =>
    (∀ known : Field, field ≠ known.name) ∨ field = "g" ∧ part.IsWhole ∧ ¬Sec.Readable octets
  | .setNumber field value part =>
    (∀ known : Field, field ≠ known.name) ∨ value.algorithm ≠ store.algorithm ∨
      field = "g" ∧ part.IsWhole
  | .setBase point => point.x.algorithm ≠ store.algorithm ∨ point.y.algorithm ≠ store.algorithm

/-- If the call brings a point, its coordinates have one representation. -/
def Uniform : Call F → Prop
  | .setBase point => point.x.algorithm = point.y.algorithm
  | _ => True

/-! ## Which calls are refused -/

omit [Representation F] in
theorem one?_eq_none_iff {value : Slot → Number F} {part : Coordinate} {field : Field} :
    Assignment.one? value part field = none ↔ field = .base ∧ part.IsWhole := by
  cases field with
  | scalar s => simp [Assignment.one?]
  | base => cases part <;> simp [Assignment.one?, Coordinate.IsWhole]

theorem ofOctets?_eq_none_iff {store : ParameterStore F} {octets : Bytes} {part : Coordinate}
    {field : Field} : Assignment.ofOctets? store octets part field = none ↔
      field = .base ∧ part.IsWhole ∧ ¬Sec.Readable octets := by
  have hdecode : (Sec.decode octets).toOption.map (Assignment.decoded store) = none ↔
      ¬Sec.Readable octets := by
    rw [← Sec.exists_decode_iff]
    cases Sec.decode octets <;> simp [Except.toOption]
  cases field with
  | scalar s => simp [Assignment.ofOctets?, one?_eq_none_iff]
  | base =>
    cases part <;>
      simp [Assignment.ofOctets?, one?_eq_none_iff, Coordinate.IsWhole, hdecode]

/-- A call has no assignment exactly if there is a reason to refuse it. -/
theorem assignment?_eq_none_iff {store : ParameterStore F} {call : Call F} (hcall : call.Uniform) :
    call.assignment? store = none ↔ call.Refused store := by
  cases call with
  | load name => simp [assignment?, Refused, NamedCurve.find?]
  | setBytes field octets part =>
    rw [assignment?, Refused, ← Field.ofName?_eq_none_iff]
    cases hfield : Field.ofName? field with
    | none => simp
    | some known =>
      obtain rfl := Field.ofName?_eq_some_iff.1 hfield
      simp [ofOctets?_eq_none_iff, Field.name_eq_base_iff]
  | setNumber field value part =>
    rw [assignment?, Refused, ← Field.ofName?_eq_none_iff]
    cases hfield : Field.ofName? field with
    | none => simp
    | some known =>
      obtain rfl := Field.ofName?_eq_some_iff.1 hfield
      by_cases hsame : value.algorithm = store.algorithm <;>
        simp [hsame, one?_eq_none_iff, Field.name_eq_base_iff]
  | setBase point =>
    have hy : point.y.algorithm = point.x.algorithm := hcall.symm
    simp [assignment?, Refused, hy]

end Call

end Curve

/-! ## What calls bring -/

/-- The numbers that a call brings along. -/
def Curve.Call.Brings (value : Number F) : Curve.Call F → Prop
  | .setNumber _ given _ => value = given
  | .setBase point => value = point.x ∨ value = point.y
  | _ => False

namespace Assignment

variable {store : ParameterStore F} {assignment : Assignment F} {s : Curve.Slot} {value : Number F}

omit [Representation F] in
theorem eq_of_single {t : Curve.Slot} {given : Number F} (h : single t given s = some value) :
    s = t ∧ value = given := by
  rw [single, Function.update_apply] at h
  split at h
  · exact ⟨‹_›, (Option.some.inj h).symm⟩
  · cases h

omit [Representation F] in
theorem of_one? {given : Curve.Slot → Number F} {part : Coordinate} {field : Curve.Field}
    (h : one? given part field = some assignment) :
    assignment.name = none ∧ ∀ s value, assignment.slot s = some value → value = given s := by
  have hsingle (t s : Curve.Slot) (value : Number F) (hs : single t (given t) s = some value) :
      value = given s := by
    obtain ⟨rfl, rfl⟩ := eq_of_single hs
    rfl
  cases field with
  | scalar t => cases h; exact ⟨rfl, hsingle t.slot⟩
  | base =>
    cases part with
    | x => cases h; exact ⟨rfl, hsingle .gx⟩
    | y => cases h; exact ⟨rfl, hsingle .gy⟩
    | sec => cases h
    | secCompressed => cases h

theorem of_decoded {octets : Bytes}
    (h : (Sec.decode octets).toOption.map (decoded store) = some assignment) :
    assignment.name = none ∧ ∀ s value, assignment.slot s = some value →
      ∃ part, value = (store.slot s).withBytes part := by
  obtain ⟨_ | ⟨x, y⟩, -, rfl⟩ := Option.map_eq_some_iff.1 h
  · exact ⟨rfl, nofun⟩
  · refine ⟨rfl, fun s value hs => ?_⟩
    cases s <;> cases hs
    exacts [⟨x, rfl⟩, ⟨y, rfl⟩]

theorem of_ofOctets? {octets : Bytes} {part : Coordinate} {field : Curve.Field}
    (h : ofOctets? store octets part field = some assignment) :
    assignment.name = none ∧ ∀ s value, assignment.slot s = some value →
      ∃ part, value = (store.slot s).withBytes part := by
  have hone (h : one? (fun slot => (store.slot slot).withBytes octets) part field =
      some assignment) : assignment.name = none ∧
        ∀ s value, assignment.slot s = some value →
          ∃ part, value = (store.slot s).withBytes part :=
    ⟨(of_one? h).1, fun s value hs => ⟨octets, (of_one? h).2 s value hs⟩⟩
  cases field with
  | scalar t => exact hone h
  | base =>
    cases part with
    | x => exact hone h
    | y => exact hone h
    | sec => exact of_decoded h
    | secCompressed => exact of_decoded h

/-- An assigned number is read from octets, like the number in the slot or like the prime, or the
call brought it. Then it goes by the name of the prime, unless it is the second coordinate of a
point, which is not asked for its name. -/
theorem slot_cases {call : Curve.Call F} (h : call.assignment? store = some assignment)
    (hs : assignment.slot s = some value) :
    (∃ t octets, (t = s ∨ t = .p) ∧ value = (store.slot t).withBytes octets) ∨
      call.Brings value ∧ (s = .p ∨ call.Uniform → value.algorithm = store.algorithm) := by
  cases call with
  | load name =>
    obtain ⟨named, -, rfl⟩ := Option.map_eq_some_iff.1 h
    exact .inl ⟨.p, _, .inr rfl, (Option.some.inj hs).symm⟩
  | setBytes field octets part =>
    obtain ⟨known, -, h⟩ := Option.bind_eq_some_iff.1 h
    obtain ⟨part, hpart⟩ := (of_ofOctets? h).2 s value hs
    exact .inl ⟨s, part, .inl rfl, hpart⟩
  | setNumber field given part =>
    rw [Curve.Call.assignment?] at h
    split at h
    next hsame =>
      obtain ⟨known, -, h⟩ := Option.bind_eq_some_iff.1 h
      obtain rfl := (of_one? h).2 s value hs
      exact .inr ⟨rfl, fun _ => hsame⟩
    · cases h
  | setBase point =>
    rw [Curve.Call.assignment?] at h
    split at h
    next hsame =>
      cases h
      cases s <;> cases hs
      · exact .inr ⟨.inl rfl, fun _ => hsame⟩
      · exact .inr ⟨.inr rfl, fun hgy => (hgy.resolve_left nofun).symm.trans hsame⟩
    · cases h

/-- Only loads give a name. -/
theorem name_cases {call : Curve.Call F} (h : call.assignment? store = some assignment) :
    assignment.name = none ∨ ∃ entry, NamedCurve.find? entry.name = some entry ∧
      assignment = named store entry := by
  cases call with
  | load name =>
    obtain ⟨entry, hfind, rfl⟩ := Option.map_eq_some_iff.1 h
    exact .inr ⟨entry, (NamedCurve.mem_of_find? hfind).2.symm ▸ hfind, rfl⟩
  | setBytes field octets part =>
    obtain ⟨known, -, h⟩ := Option.bind_eq_some_iff.1 h
    exact .inl (of_ofOctets? h).1
  | setNumber field value part =>
    rw [Curve.Call.assignment?] at h
    split at h
    · obtain ⟨known, -, h⟩ := Option.bind_eq_some_iff.1 h
      exact .inl (of_one? h).1
    · cases h
  | setBase point =>
    rw [Curve.Call.assignment?] at h
    split at h
    · cases h
      exact .inl rfl
    · cases h

end Assignment

/-! ## The store after calls -/

namespace ParameterStore

/-- The store after a call. A call that is refused leaves it as it was. -/
def perform (store : ParameterStore F) (call : Curve.Call F) : ParameterStore F :=
  (call.assignment? store).elim store store.assign

/-- The store after a history of calls. -/
def run (store : ParameterStore F) (calls : List (Curve.Call F)) : ParameterStore F :=
  calls.foldl perform store

/-- The numbers that the calls of a history put into a slot, in turn. -/
def writes (s : Curve.Slot) : ParameterStore F → List (Curve.Call F) → List (Number F)
  | _, [] => []
  | store, call :: calls =>
    ((call.assignment? store).bind (·.slot s)).toList ++ writes s (store.perform call) calls

/-- What was written to a slot last, or what it held before if nothing was. -/
def lastWritten (store : ParameterStore F) (calls : List (Curve.Call F)) (s : Curve.Slot) :
    Number F :=
  (store.writes s calls).getLastD (store.slot s)

theorem slot_perform (store : ParameterStore F) (call : Curve.Call F) (s : Curve.Slot) :
    (store.perform call).slot s =
      ((call.assignment? store).bind (·.slot s)).getD (store.slot s) := by
  rw [perform]
  cases call.assignment? store <;> rfl

/-- A slot holds what was written to it last. -/
theorem slot_run (store : ParameterStore F) (calls : List (Curve.Call F)) (s : Curve.Slot) :
    (store.run calls).slot s = store.lastWritten calls s := by
  induction calls generalizing store with
  | nil => rfl
  | cons call calls ih =>
    have hslot := slot_perform store call s
    show ((store.perform call).run calls).slot s = _
    rw [ih, lastWritten, lastWritten, writes]
    cases hwritten : (call.assignment? store).bind (·.slot s) <;> rw [hwritten] at hslot
    · rw [hslot]
      rfl
    · rw [hslot, Option.toList_some, List.singleton_append, List.getLastD_cons]
      rfl

/-! ### Families of numbers -/

variable {family : String} {good : Number F → Prop} {store : ParameterStore F}
  {call : Curve.Call F}

/-- The prime stays in a family of numbers if what a call brings under the name of the family is
from it. -/
theorem p_perform (hgood : Number.Family family good)
    (hbrings : ∀ value, call.Brings value → value.algorithm = family → good value)
    (h : good (store.slot .p)) : good ((store.perform call).slot .p) := by
  rw [slot_perform]
  cases hp : (call.assignment? store).bind (·.slot .p) with
  | none => exact h
  | some value =>
    obtain ⟨assignment, hassignment, hslot⟩ := Option.bind_eq_some_iff.1 hp
    rcases Assignment.slot_cases hassignment hslot with ⟨t, octets, ht, rfl⟩ | ⟨hcall, hname⟩
    · obtain rfl := or_self_iff.1 ht
      exact hgood.withBytes h octets
    · exact hbrings value hcall ((hname (.inl rfl)).trans (hgood.algorithm h))

theorem p_run (hgood : Number.Family family good) {calls : List (Curve.Call F)}
    (hbrings : ∀ call ∈ calls, ∀ value, call.Brings value → value.algorithm = family → good value)
    (h : good (store.slot .p)) : good ((store.run calls).slot .p) := by
  induction calls generalizing store with
  | nil => exact h
  | cons call calls ih =>
    rw [List.forall_mem_cons] at hbrings
    exact ih hbrings.2 (p_perform hgood hbrings.1 h)

/-- Every number stays in a family if what a call brings under the name of the family is from
it. -/
theorem slots_perform (hgood : Number.Family family good) (hcall : call.Uniform)
    (hbrings : ∀ value, call.Brings value → value.algorithm = family → good value)
    (h : ∀ s, good (store.slot s)) (s : Curve.Slot) : good ((store.perform call).slot s) := by
  rw [slot_perform]
  cases hs : (call.assignment? store).bind (·.slot s) with
  | none => exact h s
  | some value =>
    obtain ⟨assignment, hassignment, hslot⟩ := Option.bind_eq_some_iff.1 hs
    rcases Assignment.slot_cases hassignment hslot with ⟨t, octets, -, rfl⟩ | ⟨hvalue, hname⟩
    · exact hgood.withBytes (h t) octets
    · exact hbrings value hvalue ((hname (.inr hcall)).trans (hgood.algorithm (h .p)))

/-- The implementation that the numbers come from stays the same under the law of the names. -/
theorem algorithm_run (hF : Number.KeepsName F) (store : ParameterStore F)
    (calls : List (Curve.Call F)) : (store.run calls).algorithm = store.algorithm :=
  p_run (hF.family store.algorithm) (fun _ _ _ _ hname => hname) rfl

end ParameterStore

/-! ## A curve does as its store does -/

namespace Curve

variable {curve : Curve F}

/-- Without an assignment a call fails and leaves the curve, and otherwise it succeeds and leaves
the curve with what is assigned. -/
def Follows (curve : Curve F) (outcome : Except Error Unit × Curve F) :
    Option (Assignment F) → Prop
  | none => ∃ e, outcome = (.error e, curve)
  | some assignment => outcome = (.ok (), (curve.store.assign assignment).onCurve)

omit [Representation F] in
theorem follows_allOrNothing {written : Except Error (Curve F)}
    {assignment? : Option (Assignment F)}
    (h : written.toOption =
      assignment?.map fun assignment => (curve.store.assign assignment).onCurve) :
    curve.Follows (allOrNothing curve written) assignment? := by
  cases written <;> cases assignment?
  case error.none e => exact ⟨e, rfl⟩
  case ok.some => exact congrArg _ (Option.some.inj h)
  case error.some => cases h
  case ok.none => cases h

theorem load_follows (curve : Curve F) (name : String) :
    curve.Follows (curve.load name) ((Call.load name).assignment? curve.store) := by
  rw [load_eq, Call.assignment?]
  cases NamedCurve.find? name with
  | none => exact ⟨_, rfl⟩
  | some named => rfl

theorem setBytes_follows (curve : Curve F) (field : String) (octets : Bytes) (part : Coordinate) :
    curve.Follows (curve.setBytes field octets part)
      ((Call.setBytes field octets part).assignment? curve.store) := by
  rw [setBytes_eq]
  refine follows_allOrNothing ?_
  rw [Call.assignment?, Field.ofName]
  cases Field.ofName? field with
  | none => rfl
  | some field =>
    cases field with
    | scalar s => cases s <;> rfl
    | base =>
      cases part with
      | x => rfl
      | y => rfl
      | sec | secCompressed =>
        show Except.toOption (PrimitiveError.forward (Sec.decode octets) >>= _) =
          ((Sec.decode octets).toOption.map _).map _
        rcases Sec.decode octets with e | (_ | ⟨x, y⟩) <;> rfl

theorem setNumber_follows (curve : Curve F) (field : String) (value : Number F)
    (part : Coordinate) : curve.Follows (curve.setNumber field value part)
      ((Call.setNumber field value part).assignment? curve.store) := by
  rw [setNumber_eq]
  refine follows_allOrNothing ?_
  rw [Call.assignment?, Field.ofName]
  have hp : curve.store.algorithm = curve.p.algorithm := rfl
  by_cases hsame : value.algorithm = curve.p.algorithm
  · simp only [hp, hsame, ne_eq, not_true_eq_false, if_true, if_false]
    rcases Field.ofName? field with _ | (s | _)
    · rfl
    · cases s <;> rfl
    · cases part <;> rfl
  · simp only [hp, hsame, ne_eq, not_false_eq_true, if_true, if_false]
    cases Field.ofName? field <;> rfl

theorem setBase_follows (curve : Curve F) (point : Point F) :
    curve.Follows (curve.setBase point) ((Call.setBase point).assignment? curve.store) := by
  rw [setBase_eq]
  refine follows_allOrNothing ?_
  have hp : curve.store.algorithm = curve.p.algorithm := rfl
  rw [Call.assignment?, hp]
  by_cases hsame : point.x.algorithm = curve.p.algorithm
  · rw [if_neg (not_not.2 hsame), if_pos hsame]
    rfl
  · rw [if_pos hsame, if_neg hsame]
    rfl

/-- A curve does in one call as its store does. -/
theorem attempt_follows (curve : Curve F) (call : Call F) :
    curve.Follows (curve.attempt call) (call.assignment? curve.store) := by
  cases call with
  | load name => exact load_follows curve name
  | setBytes field octets part => exact setBytes_follows curve field octets part
  | setNumber field value part => exact setNumber_follows curve field value part
  | setBase point => exact setBase_follows curve point

theorem perform_eq (curve : Curve F) (call : Call F) :
    curve.perform call = (curve.store.perform call).onCurve := by
  have h := attempt_follows curve call
  rw [perform, ParameterStore.perform]
  cases ha : call.assignment? curve.store <;> rw [ha] at h
  case none =>
    obtain ⟨e, he⟩ := h
    rw [he]
    rfl
  case some assignment =>
    rw [show curve.attempt call = _ from h]
    rfl

/-- A curve does in a history of calls as its store does. -/
theorem run_eq (curve : Curve F) (calls : List (Call F)) :
    curve.run calls = (curve.store.run calls).onCurve := by
  induction calls generalizing curve with
  | nil => rfl
  | cons call calls ih =>
    show (curve.perform call).run calls = _
    rw [ih, perform_eq, ParameterStore.store_onCurve]
    rfl

/-! ## Refusals and readings -/

/-- A call fails exactly if it is to be refused, and then it leaves the curve as it was. -/
theorem attempt_eq_error_iff {call : Call F} (hcall : call.Uniform) :
    ((∃ e, (curve.attempt call).1 = .error e) ↔ call.Refused curve.store) ∧
      (call.Refused curve.store → curve.perform call = curve) := by
  have h := attempt_follows curve call
  rw [perform, ← Call.assignment?_eq_none_iff hcall]
  cases ha : call.assignment? curve.store <;> rw [ha] at h
  case none =>
    obtain ⟨e, he⟩ := h
    simp [he]
  case some assignment => simp [show curve.attempt call = _ from h]

omit [Representation F] in
theorem number_name (curve : Curve F) (s : Scalar) (part : Coordinate) :
    curve.number (Field.scalar s).name part = .ok (curve.slot s.slot) := by
  rw [number, Field.ofName_name]
  cases s <;> rfl

theorem bytes_name (curve : Curve F) (s : Scalar) (part : Coordinate) :
    curve.bytes (Field.scalar s).name part = .ok (curve.slot s.slot).toBytes := by
  rw [bytes, Field.ofName_name]
  cases s <;> rfl

/-- A history of loads and writes makes of a curve what the assignments of its calls make of a
store. A call is refused exactly for one of the stated reasons, wherever in a history it comes, and
a refused call changes nothing. The representation it is held against is that of the prime, which
stays the same under the law of the names. A parameter, and a coordinate of the base point, reads as
the number that was written to it last, and as the octets of this number. -/
theorem stores_parameters (curve : Curve F) (calls : List (Call F)) :
    let written := curve.run calls
    let store := curve.store.run calls
    written = store.onCurve ∧
    (∀ call : Call F, call.Uniform →
      ((∃ e, (written.attempt call).1 = .error e) ↔ call.Refused store) ∧
      (call.Refused store → (written.attempt call).2 = written)) ∧
    (Number.KeepsName F → store.algorithm = curve.p.algorithm) ∧
    (∀ (s : Scalar) (part : Coordinate),
      written.number (Field.scalar s).name part = .ok (curve.store.lastWritten calls s.slot) ∧
      written.bytes (Field.scalar s).name part =
        .ok (curve.store.lastWritten calls s.slot).toBytes) ∧
    written.number "g" .x = .ok (curve.store.lastWritten calls .gx) ∧
    written.number "g" .y = .ok (curve.store.lastWritten calls .gy) := by
  intro written store
  have hrun : written = store.onCurve := run_eq curve calls
  have hstore : written.store = store := hrun ▸ store.store_onCurve
  have hslot (s : Slot) : written.slot s = curve.store.lastWritten calls s := by
    rw [← ParameterStore.slot_run]
    exact congrArg (·.slot s) hstore
  refine ⟨hrun, fun call hcall => ?_, fun hF => ParameterStore.algorithm_run hF _ _,
    fun s part => ?_, ?_, ?_⟩
  · exact hstore ▸ attempt_eq_error_iff hcall
  · rw [number_name, bytes_name, hslot]
    exact ⟨rfl, rfl⟩
  · exact congrArg Except.ok (hslot .gx)
  · exact congrArg Except.ok (hslot .gy)

/-- Accepted and refused writes to a named curve in turn. A zero with a name of its own is refused,
one under the name of the integers passes, and so does a point at infinity, with the coordinates it
remembers. -/
theorem stores_parameters_mixed :
    let curve : Curve Number.Constant := ⟨some "secp256r1", .integer 5, .integer 5, .integer 5,
      .integer 5, .integer 5, true, .integer 1, .integer 2⟩
    let point : Point Number.Constant := ⟨true, .integer 7, .integer (-8), new (.integer 0)⟩
    let calls : List (Call Number.Constant) := [.setBytes "g" [4, 1, 2] .sec,
      .setNumber "p" (.integer (-300)) .sec, .setNumber "a" (.foreign ⟨"foreign"⟩) .x,
      .setNumber "b" (.foreign ⟨"Bignum"⟩) .x, .setBase point, .setBytes "g" [4, 1] .sec,
      .setBytes "q" [9] .x, .load "secp257r1"]
    let written := curve.run calls
    written = ⟨none, .integer (-300), .integer 5, .foreign ⟨"Bignum"⟩, .integer 5, .integer 5, true,
        .integer 7, .integer (-8)⟩ ∧
      (Call.setBase point).Uniform ∧
      (∃ e, (written.attempt (.setNumber "g" (.integer 1) .sec)).1 = .error e) ∧
      (written.attempt (.setNumber "g" (.integer 1) .sec)).2 = written ∧
      Number.KeepsName Number.Constant ∧ (curve.store.run calls).algorithm = "Bignum" ∧
      written.number "p" .y = .ok (.integer (-300)) ∧ written.bytes "p" .y = .ok [1, 44] := by
  intro curve point calls written
  obtain ⟨hrun, hrefused, hname, hread, -⟩ := stores_parameters curve calls
  have hwhole : (Call.setNumber "g" (.integer 1) .sec).Refused (curve.store.run calls) :=
    .inr (.inr ⟨rfl, .inl rfl⟩)
  obtain ⟨hfails, hstays⟩ := hrefused (.setNumber "g" (.integer 1) .sec) trivial
  have hstore : (curve.store.run calls).onCurve = ⟨none, .integer (-300), .integer 5,
      .foreign ⟨"Bignum"⟩, .integer 5, .integer 5, true, .integer 7, .integer (-8)⟩ := by
    decide +kernel
  have hlast : curve.store.lastWritten calls Scalar.p.slot = .integer (-300) := by decide +kernel
  have hoctets : (Number.integer (-300) : Number Number.Constant).toBytes = [1, 44] := by
    decide +kernel
  obtain ⟨hnumber, hbytes⟩ := hread .p .y
  rw [hlast] at hnumber hbytes
  exact ⟨hrun.trans hstore, rfl, hfails.2 hwhole, hstays hwhole, Number.keepsName_constant,
    hname Number.keepsName_constant, hnumber, hbytes.trans (congrArg Except.ok hoctets)⟩

end Curve

end CryptoSuite
