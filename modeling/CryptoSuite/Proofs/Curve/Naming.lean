import CryptoSuite.Proofs.Curve.ParameterStore

/-!
# Names of curves

A curve that has a name is as the last load left it (`Curve.asLoaded_run`) : every
write that succeeds forgets the name, and a call that fails changes nothing. A load
reads the table in numbers like the prime, so over the integers a name stands for
the numbers of the table, in a curve and in all points made on it, and what a load
installs does not depend on what was there before.

The prime of a curve that was made over the integers is an integer for good, unless
a call brings a number of another representation under their name
(`Curve.overIntegers_run`). Main statement : `Curve.name_tells_parameters`.
-/

namespace CryptoSuite

variable {F : Type} [Representation F]

namespace Curve

variable {curve : Curve F}

/-! ## Named curves -/

/-- If the curve has a name, it is as a load of the entry of this name left it. -/
def AsLoaded (curve : Curve F) : Prop :=
  ∀ s, curve.name = some s → ∃ (named : NamedCurve) (earlier : Curve F),
    NamedCurve.find? s = some named ∧ curve = earlier.withNamed named.name named.values

theorem AsLoaded.perform (h : curve.AsLoaded) (call : Call F) : (curve.perform call).AsLoaded := by
  rw [perform_eq, ParameterStore.perform]
  cases ha : call.assignment? curve.store with
  | none => exact h
  | some assignment =>
    intro s hs
    rcases Assignment.name_cases ha with hnone | ⟨named, hfind, rfl⟩
    · cases hnone.symm.trans hs
    · obtain rfl : named.name = s := Option.some.inj hs
      exact ⟨named, curve, hfind, rfl⟩

theorem asLoaded_run (prototype : Number F) (calls : List (Call F)) :
    ((new prototype).run calls).AsLoaded :=
  List.foldlRecOn calls perform (fun _ h => nomatch h) fun _ h call _ => h.perform call

/-- The field prime is an integer of the suite. -/
def OverIntegers (curve : Curve F) : Prop :=
  ∃ m, curve.p = .integer m

/-- The call brings a number of another representation under the name of the integers. -/
def Call.BringsImpostor (call : Call F) : Prop :=
  ∃ value, call.Brings value ∧ value.IsImpostor

/-- The prime of a curve over the integers stays an integer, unless a call brings an impostor. -/
theorem OverIntegers.run (h : curve.OverIntegers) {calls : List (Call F)}
    (hcalls : ∀ call ∈ calls, ¬call.BringsImpostor) : (curve.run calls).OverIntegers := by
  rw [run_eq]
  refine ParameterStore.p_run Number.family_integers (fun call hcall value hvalue hname => ?_) h
  exact Number.exists_integer hname fun himpostor => hcalls call hcall ⟨value, hvalue, himpostor⟩

theorem overIntegers_run (m : Int) (calls : List (Call F)) :
    ((new (.integer m)).run calls : Curve F).OverIntegers ∨
      ∃ call ∈ calls, call.BringsImpostor := by
  by_cases h : ∃ call ∈ calls, call.BringsImpostor
  · exact .inr h
  · refine .inl (OverIntegers.run ⟨0, rfl⟩ fun call hcall himpostor => h ⟨call, hcall, himpostor⟩)

/-! ## What a name tells -/

/-- The curve is the one of the table that has the given name. -/
def IsTabled (curve : Curve F) (s : String) : Prop :=
  ∃ named, NamedCurve.find? s = some named ∧ curve = named.onIntegers

theorem AsLoaded.isTabled (hloaded : curve.AsLoaded) (hcurve : curve.OverIntegers) {s : String}
    (hs : curve.name = some s) : curve.IsTabled s := by
  obtain ⟨named, earlier, hfind, rfl⟩ := hloaded s hs
  obtain ⟨m, hm⟩ := Number.exists_withBytes_integer.mp hcurve
  exact ⟨named, hfind, withNamed_eq hm named⟩

/-- A load installs the numbers of the table in whatever curve over the integers. -/
theorem OverIntegers.load_eq (hcurve : curve.OverIntegers) {s : String} {named : NamedCurve}
    (h : NamedCurve.find? s = some named) : curve.load s = (.ok (), named.onIntegers) := by
  obtain ⟨m, hm⟩ := hcurve
  exact load_eq_ok_iff.mpr ⟨named, h, (withNamed_eq hm named).symm⟩

/-- After any history of calls that starts from a new curve over the integers, the prime is an
integer, or a call brought a number of another representation under their name. If it is one, a
curve that has a name is the one of the table, and so are the parameters of each point made on it.
Exactly the names of the table load, and a load gives the curve of the table that it was asked for,
once or again and after whatever other history with an integer prime. -/
theorem name_tells_parameters (m : Int) (calls : List (Call F)) :
    let curve : Curve F := (new (.integer m)).run calls
    (curve.OverIntegers ∨ ∃ call ∈ calls, call.BringsImpostor) ∧
    (∀ s, (∃ loaded, curve.load s = (.ok (), loaded)) ↔ ∃ named ∈ NamedCurve.all, named.name = s) ∧
    (curve.OverIntegers →
      (∀ s, curve.name = some s → curve.IsTabled s) ∧
      (∀ P s, Point.MadeOn curve P → P.curve.name = some s → P.curve.IsTabled s) ∧
      ∀ s loaded, curve.load s = (.ok (), loaded) →
        loaded.name = some s ∧ loaded.IsTabled s ∧ loaded.load s = (.ok (), loaded) ∧
        ∀ m' calls', ((new (.integer m')).run calls').OverIntegers →
          ((new (.integer m')).run calls').load s = (.ok (), loaded)) := by
  intro curve
  refine ⟨overIntegers_run m calls, fun s => exists_load_iff, fun hcurve => ?_⟩
  have hname (s : String) (hs : curve.name = some s) : curve.IsTabled s :=
    (asLoaded_run (.integer m) calls).isTabled hcurve hs
  refine ⟨hname, fun P s hP hs => ?_, fun s loaded h => ?_⟩
  · rw [hP.curve_eq] at hs ⊢
    exact hname s hs
  · obtain ⟨named, hfind, -⟩ := load_eq_ok_iff.mp h
    obtain rfl : named.onIntegers = loaded :=
      congrArg Prod.snd ((hcurve.load_eq hfind).symm.trans h)
    have hloaded : (named.onIntegers : Curve F).OverIntegers := ⟨named.number .p, rfl⟩
    exact ⟨congrArg some (NamedCurve.mem_of_find? hfind).2, ⟨named, hfind, rfl⟩,
      hloaded.load_eq hfind, fun m' calls' hother => hother.load_eq hfind⟩

/-- A load over a base point that was half set keeps its name through calls that are refused, and
a reload after a write is the same curve. -/
theorem name_tells_parameters_secp256r1 :
    let loads : List (Call Number.Constant) := [.setBytes "g" [5] .x, .load "secp256r1",
      .setNumber "p" (.foreign ⟨"foreign"⟩) .x, .setBytes "g" [2] .sec, .load "secp257r1"]
    let curve := (new (.integer 7)).run loads
    curve.OverIntegers ∧
      curve.name = some "secp256r1" ∧ curve.IsTabled "secp256r1" ∧
      (∃ P, curve.decodePoint [0] = .ok P ∧ P.curve.IsTabled "secp256r1") ∧
      ∃ written loaded, curve.setBytes "g" [0] .sec = (.ok (), written) ∧ written.name = none ∧
        written.load "secp256r1" = (.ok (), loaded) ∧ loaded.IsTabled "secp256r1" ∧
        curve.load "secp256r1" = (.ok (), loaded) := by
  intro loads curve
  have hloads : ∀ call ∈ loads, ¬call.BringsImpostor := by
    simp [loads, Call.BringsImpostor, Call.Brings, Number.IsImpostor, Representation.algorithm,
      Number.integerAlgorithm]
  let write : Call Number.Constant := .setBytes "g" [0] .sec
  obtain ⟨-, -, hnamed⟩ := name_tells_parameters 7 loads
  have hcurve : curve.OverIntegers := OverIntegers.run ⟨0, rfl⟩ hloads
  obtain ⟨hname, hpoint, -⟩ := hnamed hcurve
  -- The same history with one more write, after which the curve is loaded again.
  obtain ⟨-, hloadable, hrest⟩ := name_tells_parameters 7 (loads ++ [write])
  have hwritten : ((new (.integer 7)).run (loads ++ [write])).OverIntegers := by
    rw [run_append]
    exact hcurve.run (by simp [write, Call.BringsImpostor, Call.Brings])
  obtain ⟨loaded, hload⟩ := (hloadable "secp256r1").2
    ⟨.secp256r1, by simp [NamedCurve.all], rfl⟩
  obtain ⟨-, htabled, -, hother⟩ := (hrest hwritten).2.2 "secp256r1" loaded hload
  have hsecp : curve.name = some "secp256r1" := by decide +kernel
  have hdecode (c : Curve Number.Constant) : c.decodePoint [0] = .ok c.pointAtInfinity ∧
      c.pointAtInfinity.curve = c := ⟨rfl, rfl⟩
  have hpoint := hpoint _ "secp256r1" (.decodePoint (hdecode curve).1)
    ((congrArg Curve.name (hdecode curve).2).trans hsecp)
  have hwrite (c : Curve Number.Constant) : c.setBytes "g" [0] .sec = (.ok (), c.perform write) ∧
      (c.perform write).name = none := ⟨rfl, rfl⟩
  rw [run_append] at hload
  exact ⟨hcurve, hsecp, hname _ hsecp, ⟨_, (hdecode curve).1, hpoint⟩,
    curve.perform write, loaded, (hwrite curve).1, (hwrite curve).2, hload, htabled,
    hother 7 loads hcurve⟩

end Curve

end CryptoSuite
