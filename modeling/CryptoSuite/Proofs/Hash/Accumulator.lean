import CryptoSuite.Hash.Basic

/-!
# Hash functions as accumulators

`HashFunction.Absorbed s m` says that the computation `s` has absorbed `m` since
it was created, reset or last finalized, whatever the parts `m` came in. A hash
function is an accumulator if each of its computations then digests `m`, to at
most the announced number of octets.

An engine computes a function if a state that was fed a message, in parts and with
copies on the way (`DigestEngine.Fed`), finishes with the value of the function at
the message (`DigestEngine.Digests`). In a hash function over an engine, what a
computation carries is what the state of the engine was fed
(`HashFunction.Carries.fed`), so that the hash function is an accumulator
(`HashFunction.isAccumulator_ofEngine`).
-/

namespace CryptoSuite

namespace DigestEngine

variable {δ : Type}

/-- What a state was fed, by itself and before it was copied. -/
inductive Fed (engine : DigestEngine δ) : δ → Bytes → Prop
  | new : Fed engine engine.new []
  | update {s : δ} {m : Bytes} (octets : Bytes) :
    Fed engine s m → Fed engine (engine.update s octets) (m ++ octets)
  | clone {s : δ} {m : Bytes} : Fed engine s m → Fed engine (engine.clone s) m

/-- The engine computes a given function, with values of a given length : a state that was fed in
parts finishes with the value at their concatenation. -/
structure Digests (engine : DigestEngine δ) (function : Bytes → Bytes) (size : Nat) : Prop where
  finalize_eq : ∀ {s : δ} {m : Bytes}, engine.Fed s m → engine.finalize s = function m
  length_eq : ∀ m : Bytes, (function m).length = size

end DigestEngine

namespace HashFunction

variable {σ : Type}

/-- What a running computation has absorbed since it last started over. -/
inductive Absorbed (hash : HashFunction σ) : σ → Bytes → Prop
  | start : Absorbed hash hash.start []
  | update {s : σ} {m : Bytes} (octets : Bytes) :
    Absorbed hash s m → Absorbed hash (hash.update s octets) (m ++ octets)
  | reset {s : σ} {m : Bytes} : Absorbed hash s m → Absorbed hash (hash.reset s) []
  | finalize {s : σ} {m : Bytes} : Absorbed hash s m → Absorbed hash (hash.finalize s).2 []

/-- What a running computation has absorbed since it last started over, by itself and before it
was copied. -/
inductive Carries (hash : HashFunction σ) : σ → Bytes → Prop
  | start : Carries hash hash.start []
  | update {s : σ} {m : Bytes} (octets : Bytes) :
    Carries hash s m → Carries hash (hash.update s octets) (m ++ octets)
  | reset {s : σ} {m : Bytes} : Carries hash s m → Carries hash (hash.reset s) []
  | finalize {s : σ} {m : Bytes} : Carries hash s m → Carries hash (hash.finalize s).2 []
  | clone {s : σ} {m : Bytes} : Carries hash s m → Carries hash (hash.clone s) m

theorem Absorbed.carries {hash : HashFunction σ} {s : σ} {m : Bytes} (h : hash.Absorbed s m) :
    hash.Carries s m := by
  induction h with
  | start => exact .start
  | update octets _ ih => exact ih.update octets
  | reset _ ih => exact ih.reset
  | finalize _ ih => exact ih.finalize

/-- Every computation produces the digest of what it has absorbed. -/
structure IsAccumulator (hash : HashFunction σ) : Prop where
  finalize_eq : ∀ {s : σ} {m : Bytes}, hash.Absorbed s m → (hash.finalize s).1 = hash.digest m
  length_digest_le : ∀ m : Bytes, (hash.digest m).length ≤ hash.digestSize

/-! ## Hash functions over engines -/

variable {engine : DigestEngine σ} {name : String} {digestSize blockSize : Nat}

/-- A computation that starts over takes a new state of the engine, and a copy takes a copy. -/
theorem Carries.fed {s : σ} {m : Bytes}
    (h : (ofEngine engine name digestSize blockSize).Carries s m) : engine.Fed s m := by
  induction h with
  | start => exact .new
  | update octets _ ih => exact ih.update octets
  | reset _ _ => exact .new
  | finalize _ _ => exact .new
  | clone _ ih => exact ih.clone

variable {function : Bytes → Bytes} {size : Nat}

/-- The digest in one go is the function of the engine too. -/
theorem digest_ofEngine (h : engine.Digests function size) (m : Bytes) :
    (ofEngine engine name digestSize blockSize).digest m = function m :=
  h.finalize_eq (DigestEngine.Fed.new.update m)

theorem isAccumulator_ofEngine (h : engine.Digests function size) (hsize : size ≤ digestSize) :
    (ofEngine engine name digestSize blockSize).IsAccumulator where
  finalize_eq habsorbed :=
    (h.finalize_eq habsorbed.carries.fed).trans (digest_ofEngine h _).symm
  length_digest_le m := by
    rw [digest_ofEngine h, h.length_eq]
    exact hsize

end HashFunction

end CryptoSuite
