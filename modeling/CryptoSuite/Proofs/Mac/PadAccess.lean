import CryptoSuite.Proofs.Mac.Runs

/-!
# Access to the pads by position

The pads can be made in place : a buffer holds one block of mask octets, and the key is put over
it octet by octet, each at its own position. Nothing but the length of the key keeps the positions
inside the buffer. `pad?` makes a pad in this way and answers nothing if a position is outside, so
it answers the pad exactly if the key fits in a block (`pad?_eq`). `new?`, `perform?` and `run?`
are a fresh computation, a call and a history of calls that make their pads so. Main statement :
for a hash function that is accepted, and keeps to the digest length it announces, no history of
calls leads outside a pad (`pads_in_range`).
-/

namespace CryptoSuite

namespace Hmac

/-! ## One pad -/

/-- Put a key over a buffer from a position on, octet by octet. There is no answer if a position is
outside the buffer. -/
def maskFrom? : (position : ℕ) → (key buffer : Bytes) → Option Bytes
  | _, [], buffer => some buffer
  | position, octet :: key, buffer => do
    let mask ← buffer[position]?
    maskFrom? (position + 1) key (buffer.set position (mask ^^^ octet))

/-- The pad of a key, made in place. -/
def pad? (mask : UInt8) (blockSize : ℕ) (key : Bytes) : Option Bytes :=
  maskFrom? 0 key (List.replicate blockSize mask)

theorem pad_nil (mask : UInt8) (blockSize : ℕ) :
    pad mask blockSize [] = List.replicate blockSize mask := by
  simp [pad]

theorem pad_cons (mask octet : UInt8) (blockSize : ℕ) (key : Bytes) :
    pad mask (blockSize + 1) (octet :: key) = (mask ^^^ octet) :: pad mask blockSize key := by
  simp [pad]

/-- What is left of the key goes over the masks that are left, if these are enough. -/
theorem maskFrom?_append_replicate (mask : UInt8) (key made : Bytes) (remaining : ℕ) :
    maskFrom? made.length key (made ++ List.replicate remaining mask) =
      if key.length ≤ remaining then some (made ++ pad mask remaining key) else none := by
  induction key generalizing made remaining with
  | nil => rw [maskFrom?, pad_nil, List.length_nil, if_pos (Nat.zero_le remaining)]
  | cons octet key ih =>
    cases remaining with
    | zero => simp [maskFrom?]
    | succ remaining =>
      have ih := ih (made ++ [mask ^^^ octet]) remaining
      rw [List.length_append, List.length_singleton, List.append_assoc, List.append_assoc,
        List.singleton_append, List.singleton_append, ← pad_cons] at ih
      simpa [maskFrom?, List.replicate_succ] using ih

/-- A pad can be made in place exactly for keys that fit in a block. -/
theorem pad?_eq (mask : UInt8) (blockSize : ℕ) (key : Bytes) : pad? mask blockSize key =
    if key.length ≤ blockSize then some (pad mask blockSize key) else none :=
  maskFrom?_append_replicate mask key [] blockSize

/-! ## Calls -/

variable {σ : Type}

/-- Start both computations over with the pads of the key, made in place. -/
def loadPads? (mac : Hmac σ) : Option (Hmac σ) := do
  let innerPad ← pad? innerMask mac.hash.blockSize mac.key
  let outerPad ← pad? outerMask mac.hash.blockSize mac.key
  return { mac with
    inner := mac.hash.update (mac.hash.reset mac.inner) innerPad
    outer := mac.hash.update (mac.hash.reset mac.outer) outerPad }

/-- A computation under the empty key, its pads made in place. -/
def new? (hash : HashFunction σ) : Except PrimitiveError (Option (Hmac σ)) := do
  requireHash hash
  return loadPads? ⟨hash, hash.start, hash.start, []⟩

/-- The tag of the message, and the computation of the next one, its pads made in place. -/
def finalize? (mac : Hmac σ) : Option (Bytes × Hmac σ) := do
  let inner := mac.hash.finalize mac.inner
  let outer := mac.hash.finalize (mac.hash.update mac.outer inner.1)
  return (outer.1, ← loadPads? { mac with inner := inner.2, outer := outer.2 })

/-- The computation after a call, its pads made in place. -/
def perform? (mac : Hmac σ) : Call → Option (Hmac σ)
  | .setKey key => loadPads? { mac with key := blockKey mac.hash key }
  | .update octets => some (mac.update octets)
  | .reset => mac.loadPads?
  | .finalize => mac.finalize?.map Prod.snd
  | .verify _ => mac.finalize?.map Prod.snd

/-- The computation after a history of calls, its pads made in place. -/
def run? (mac : Hmac σ) (calls : List Call) : Option (Hmac σ) :=
  calls.foldlM perform? mac

/-- The stored key decides whether the pads can be made. -/
theorem loadPads?_eq (mac : Hmac σ) : mac.loadPads? =
    if mac.key.length ≤ mac.hash.blockSize then some mac.loadPads else none := by
  rw [loadPads?, pad?_eq, pad?_eq]
  split <;> rfl

theorem loadPads?_of_le {mac : Hmac σ} (h : mac.key.length ≤ mac.hash.blockSize) :
    mac.loadPads? = some mac.loadPads :=
  (loadPads?_eq mac).trans (if_pos h)

theorem finalize?_eq {mac : Hmac σ} (h : mac.key.length ≤ mac.hash.blockSize) :
    mac.finalize? = some mac.finalize := by
  have hpads (inner outer : σ) : loadPads? { mac with inner, outer } =
      some (loadPads { mac with inner, outer }) := loadPads?_of_le h
  simp only [finalize?, hpads]
  rfl

/-- A call leads outside no pad, if the stored key and the one that the call brings fit. -/
theorem perform?_eq {mac : Hmac σ} (hkey : mac.key.length ≤ mac.hash.blockSize)
    (hkeys : ∀ key, (blockKey mac.hash key).length ≤ mac.hash.blockSize) (call : Call) :
    mac.perform? call = some (mac.perform call) := by
  cases call with
  | setKey key => exact loadPads?_of_le (hkeys key)
  | update octets => rfl
  | reset => exact loadPads?_of_le hkey
  | finalize => rw [perform?, finalize?_eq hkey]; rfl
  | verify tag => rw [perform?, finalize?_eq hkey]; rfl

/-! ## Histories -/

variable {hash : HashFunction σ} {mac : Hmac σ}

/-- The stored key fits in a block after every history of calls. -/
theorem length_key_run (hnew : Hmac.new hash = .ok mac)
    (hkeys : ∀ key, (blockKey hash key).length ≤ hash.blockSize) (calls : List Call) :
    (mac.run calls).key.length ≤ hash.blockSize := by
  rw [(tracks_run hnew calls).key_eq]
  exact hkeys _

theorem run?_eq (hnew : Hmac.new hash = .ok mac)
    (hkeys : ∀ key, (blockKey hash key).length ≤ hash.blockSize) (calls : List Call) :
    mac.run? calls = some (mac.run calls) := by
  induction calls using List.reverseRecOn with
  | nil => rfl
  | append_singleton calls call ih =>
    have hhash := (tracks_run hnew calls).hash_eq
    have hstep : (mac.run calls).perform? call = some ((mac.run calls).perform call) :=
      perform?_eq (hhash ▸ length_key_run hnew hkeys calls) (hhash ▸ hkeys) call
    rw [run?, List.foldlM_append, ← run?, ih, run_concat, ← hstep]
    exact bind_pure ((mac.run calls).perform? call)

theorem new?_eq (hnew : Hmac.new hash = .ok mac) : new? hash = .ok (some mac) := by
  obtain ⟨haccepted, rfl⟩ := new_eq_ok_iff.mp hnew
  have hpads : loadPads? ⟨hash, hash.start, hash.start, []⟩ =
      some (loadPads ⟨hash, hash.start, hash.start, []⟩) := loadPads?_of_le (Nat.zero_le _)
  rw [new?, requireHash_eq_ok_iff.mpr haccepted, hpads]
  rfl

/-- Accepted are the hash functions whose block has between 1 and 256 octets and whose digest,
as announced, fits in a block. If the digests keep to the announced length, the stored key then
fits in a block after every history of calls, so that all pads can be made in place : no octet of
a key is put outside a pad. -/
theorem pads_in_range (hash : HashFunction σ) :
    ((∃ mac, Hmac.new hash = .ok mac) ↔
      0 < hash.blockSize ∧ hash.blockSize ≤ 256 ∧ hash.digestSize ≤ hash.blockSize) ∧
    ((∀ m : Bytes, (hash.digest m).length ≤ hash.digestSize) →
      ∀ mac, Hmac.new hash = .ok mac → new? hash = .ok (some mac) ∧
        ∀ calls : List Call, (mac.run calls).key.length ≤ hash.blockSize ∧
          mac.run? calls = some (mac.run calls)) := by
  refine ⟨?_, fun hdigest mac hnew => ⟨new?_eq hnew, fun calls => ?_⟩⟩
  · simp only [new_eq_ok_iff, exists_and_left, exists_eq, and_true]
    rfl
  · have hkeys := length_blockKey_le hdigest (new_eq_ok_iff.mp hnew).1.2.2
    exact ⟨length_key_run hnew hkeys calls, run?_eq hnew hkeys calls⟩

/-- SHA-256 with blocks of 32 octets, no longer than its digests. -/
def tightHash : HashFunction Sha2.State :=
  { Sha2.sha256 with blockSize := 32 }

/-- Keys as long as a block of that hash function, and one octet longer. -/
theorem pads_in_range_tight : (∀ m : Bytes, (tightHash.digest m).length ≤ tightHash.digestSize) ∧
    ∃ mac, Hmac.new tightHash = .ok mac ∧ ∃ last,
      mac.run? [.setKey (List.replicate 32 1), .update [2], .verify [3],
        .setKey (List.replicate 33 4), .reset, .finalize] = some last ∧ last.key.length ≤ 32 := by
  have hacc : Sha2.sha256.IsAccumulator :=
    HashFunction.isAccumulator_ofEngine (Sha2.digests_engine Sha2.start256 le_rfl) le_rfl
  have hdigest : ∀ m : Bytes, (tightHash.digest m).length ≤ tightHash.digestSize :=
    hacc.length_digest_le
  obtain ⟨haccepted, hsafe⟩ := pads_in_range tightHash
  obtain ⟨mac, hnew⟩ := haccepted.mpr (by decide)
  obtain ⟨hlength, hrun⟩ := (hsafe hdigest mac hnew).2 [.setKey (List.replicate 32 1), .update [2],
    .verify [3], .setKey (List.replicate 33 4), .reset, .finalize]
  exact ⟨hdigest, mac, hnew, _, hrun, hlength⟩

end Hmac

end CryptoSuite
