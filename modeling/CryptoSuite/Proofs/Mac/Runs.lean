import CryptoSuite.Mac.Hmac
import CryptoSuite.Proofs.Hash.OneShot
import Mathlib.Data.List.DropRight

/-!
# Runs of HMAC against the standard

RFC 2104 has no state : the tag of a message under a key is
`H((K' xor opad) || H((K' xor ipad) || M))`, here `standardTag`. An `Hmac` has two running
computations and a stored key, and is asked for tags after any history of calls. `Tracks` is the
invariant : the inner computation has absorbed the inner pad and the message, the outer one the
outer pad alone. Each call keeps it for the key and the message that the history then determines
(`Tracks.perform`, `tracks_run`), and from it the tag is the standard one
(`Tracks.finalize_eq_standardTag`). A call through the interface of keyed computations does what
the direct one does, and none fails (`Tracks.serve_eq`). Main statement : `run_follows_standard`.
-/

namespace CryptoSuite

/-! ## The interface -/

namespace MacContext

/-- A call through the interface. -/
inductive Call where
  /-- Install a key. -/
  | setKey (key : Bytes)
  /-- Absorb a part of the message. -/
  | update (octets : Bytes)
  /-- Ask for the tag. -/
  | finalize
  /-- Ask whether the tag is the given one. -/
  | verify (tag : Bytes)

/-- What a call is answered with. -/
inductive Reply where
  | done
  | tag (octets : Bytes)
  | verdict (same : Bool)

/-- The answer to a call, and the computation after it. -/
def serve {κ : Type} (context : MacContext κ) (state : κ) : Call → Except Error Reply × κ
  | .setKey key => (context.setKey state key).map (·.map fun _ => .done) id
  | .update octets => (context.update state octets).map (·.map fun _ => .done) id
  | .finalize => (context.finalize state).map (·.map .tag) id
  | .verify tag => (context.verify state tag).map (·.map .verdict) id

end MacContext

namespace Hmac

variable {σ : Type}

/-! ## The standard -/

/-- The key filled up with zeros to the length of a block, a key longer than a block replaced by
its digest first. -/
def standardKey (hash : HashFunction σ) (key : Bytes) : Bytes :=
  let short := if key.length ≤ hash.blockSize then key else hash.digest key
  short ++ List.replicate (hash.blockSize - short.length) 0

/-- The key of a full block under a mask repeated to the length of a block. -/
def maskedKey (hash : HashFunction σ) (key : Bytes) (mask : UInt8) : Bytes :=
  List.zipWith (· ^^^ ·) (standardKey hash key) (List.replicate hash.blockSize mask)

/-- The tag of a message under a key. -/
def standardTag (hash : HashFunction σ) (key message : Bytes) : Bytes :=
  hash.digest (maskedKey hash key 0x5c ++ hash.digest (maskedKey hash key 0x36 ++ message))

/-- What a call is to be answered with under a key and after a message. -/
def standardReply (hash : HashFunction σ) (key message : Bytes) :
    MacContext.Call → MacContext.Reply
  | .setKey _ => .done
  | .update _ => .done
  | .finalize => .tag (standardTag hash key message)
  | .verify tag => .verdict (tag = standardTag hash key message)

/-- If digests fit in a block, so do keys as they are used. -/
theorem length_blockKey_le {hash : HashFunction σ}
    (hdigest : ∀ m : Bytes, (hash.digest m).length ≤ hash.digestSize)
    (hfit : hash.digestSize ≤ hash.blockSize) (key : Bytes) :
    (blockKey hash key).length ≤ hash.blockSize := by
  unfold blockKey
  split
  · exact (hdigest key).trans hfit
  · omega

theorem standardKey_eq (hash : HashFunction σ) (key : Bytes) : standardKey hash key =
    blockKey hash key ++ List.replicate (hash.blockSize - (blockKey hash key).length) 0 := by
  unfold standardKey blockKey
  by_cases h : key.length ≤ hash.blockSize
  · rw [if_pos h, if_neg (Nat.not_lt.mpr h)]
  · rw [if_neg h, if_pos (Nat.lt_of_not_le h)]

theorem length_standardKey {hash : HashFunction σ} (hacc : hash.IsAccumulator)
    (hfit : hash.digestSize ≤ hash.blockSize) (key : Bytes) :
    (standardKey hash key).length = hash.blockSize := by
  have h := length_blockKey_le hacc.length_digest_le hfit key
  rw [standardKey_eq, List.length_append, List.length_replicate]
  omega

theorem zipWith_xor_replicate (octets : Bytes) (mask : UInt8) :
    List.zipWith (· ^^^ ·) octets (List.replicate octets.length mask)
      = octets.map (mask ^^^ ·) := by
  induction octets with
  | nil => rfl
  | cons b octets ih =>
    rw [List.length_cons, List.replicate_succ, List.zipWith_cons_cons, ih, UInt8.xor_comm,
      List.map_cons]

/-- The pads the computations absorb are the masked keys of the standard. -/
theorem pad_blockKey {hash : HashFunction σ} (hacc : hash.IsAccumulator)
    (hfit : hash.digestSize ≤ hash.blockSize) (key : Bytes) (mask : UInt8) :
    pad mask hash.blockSize (blockKey hash key) = maskedKey hash key mask := by
  rw [pad, ← standardKey_eq, ← zipWith_xor_replicate, length_standardKey hacc hfit, maskedKey]

/-! ## Histories of calls -/

/-- A call to a keyed computation. -/
inductive Call where
  /-- Install a key. -/
  | setKey (key : Bytes)
  /-- Absorb a part of the message. -/
  | update (octets : Bytes)
  /-- Forget the message. -/
  | reset
  /-- Ask for the tag. -/
  | finalize
  /-- Ask whether the tag is the given one. -/
  | verify (tag : Bytes)

/-- The direct call that a call through the interface stands for. -/
def Call.ofContext : MacContext.Call → Call
  | .setKey key => setKey key
  | .update octets => update octets
  | .finalize => finalize
  | .verify tag => verify tag

/-- The key a call installs. -/
def Call.key? : Call → Option Bytes
  | setKey key => some key
  | _ => none

/-- The part of the message a call brings. -/
def Call.part? : Call → Option Bytes
  | update octets => some octets
  | _ => none

/-- The computation after a call. -/
def perform (mac : Hmac σ) : Call → Hmac σ
  | .setKey key => mac.setKey key
  | .update octets => mac.update octets
  | .reset => mac.reset
  | .finalize => mac.finalize.2
  | .verify tag => (mac.verify tag).2

/-- The computation after a history of calls. -/
def run (mac : Hmac σ) (calls : List Call) : Hmac σ :=
  calls.foldl perform mac

/-- The key installed last, at first the empty one. -/
def installedKey (calls : List Call) : Bytes :=
  (calls.filterMap Call.key?).getLastD []

/-- The parts brought since the last call that was no update. -/
def message (calls : List Call) : Bytes :=
  ((calls.rtakeWhile fun call => call.part?.isSome).filterMap Call.part?).flatten

theorem run_concat (mac : Hmac σ) (calls : List Call) (call : Call) :
    mac.run (calls ++ [call]) = (mac.run calls).perform call :=
  List.foldl_concat ..

theorem installedKey_concat (calls : List Call) (call : Call) :
    installedKey (calls ++ [call]) = call.key?.getD (installedKey calls) := by
  cases h : call.key? <;> simp [installedKey, List.filterMap_append, h]

theorem message_concat (calls : List Call) (call : Call) :
    message (calls ++ [call]) = call.part?.elim [] (message calls ++ ·) := by
  cases h : call.part? <;> simp [message, h]

/-! ## The invariant -/

/-- The computation has a key installed and has absorbed a message. -/
structure Tracks (hash : HashFunction σ) (key message : Bytes) (mac : Hmac σ) : Prop where
  hash_eq : mac.hash = hash
  key_eq : mac.key = blockKey hash key
  inner : hash.Absorbed mac.inner (pad innerMask hash.blockSize (blockKey hash key) ++ message)
  outer : hash.Absorbed mac.outer (pad outerMask hash.blockSize (blockKey hash key))

section

variable {hash : HashFunction σ} {mac : Hmac σ} {key message : Bytes}

/-- Whatever the two computations had absorbed, the pads start them over. -/
theorem tracks_loadPads (hhash : mac.hash = hash) (hkey : mac.key = blockKey hash key)
    {absorbed absorbed' : Bytes} (hinner : hash.Absorbed mac.inner absorbed)
    (houter : hash.Absorbed mac.outer absorbed') : Tracks hash key [] mac.loadPads where
  hash_eq := hhash
  key_eq := hkey
  inner := by
    rw [List.append_nil, ← hkey]
    subst hhash
    exact hinner.reset.update _
  outer := by
    rw [← hkey]
    subst hhash
    exact houter.reset.update _

theorem Tracks.finalize (h : Tracks hash key message mac) :
    Tracks hash key [] mac.finalize.2 := by
  obtain ⟨rfl, hkey, hinner, houter⟩ := h
  exact tracks_loadPads rfl hkey hinner.finalize (houter.update _).finalize

theorem Tracks.perform (h : Tracks hash key message mac) (call : Call) :
    Tracks hash (call.key?.getD key) (call.part?.elim [] (message ++ ·)) (mac.perform call) := by
  cases call with
  | setKey newKey =>
    obtain ⟨rfl, hkey, hinner, houter⟩ := h
    exact tracks_loadPads rfl rfl hinner houter
  | update octets =>
    obtain ⟨rfl, hkey, hinner, houter⟩ := h
    refine ⟨rfl, hkey, ?_, houter⟩
    exact List.append_assoc _ _ _ ▸ hinner.update octets
  | reset => exact tracks_loadPads h.hash_eq h.key_eq h.inner h.outer
  | finalize => exact h.finalize
  | verify tag => exact h.finalize

theorem new_eq_ok_iff : Hmac.new hash = .ok mac ↔
    (0 < hash.blockSize ∧ hash.blockSize ≤ maxBlockSize ∧ hash.digestSize ≤ hash.blockSize) ∧
      mac = loadPads ⟨hash, hash.start, hash.start, []⟩ := by
  rw [← requireHash_eq_ok_iff, Hmac.new]
  cases requireHash hash with
  | error e => simp [bind, Except.bind]
  | ok u => simp [bind, Except.bind, pure, Except.pure, eq_comm]

theorem tracks_new (h : Hmac.new hash = .ok mac) : Tracks hash [] [] mac := by
  obtain ⟨⟨hpos, -, -⟩, rfl⟩ := new_eq_ok_iff.mp h
  exact tracks_loadPads rfl (if_neg (Nat.not_lt_zero _)).symm .start .start

theorem tracks_run (h : Hmac.new hash = .ok mac) (calls : List Call) :
    Tracks hash (installedKey calls) (Hmac.message calls) (mac.run calls) := by
  induction calls using List.reverseRecOn with
  | nil => exact tracks_new h
  | append_singleton calls call ih =>
    rw [installedKey_concat, message_concat, run_concat]
    exact ih.perform call

theorem Tracks.finalize_eq_standardTag (h : Tracks hash key message mac)
    (hacc : hash.IsAccumulator) (hfit : hash.digestSize ≤ hash.blockSize) :
    mac.finalize.1 = standardTag hash key message := by
  obtain ⟨rfl, -, hinner, houter⟩ := h
  have hdigest := hacc.finalize_eq hinner
  have htag := hacc.finalize_eq (houter.update (mac.hash.finalize mac.inner).1)
  rw [hdigest, pad_blockKey hacc hfit, pad_blockKey hacc hfit] at htag
  rw [standardTag, ← innerMask, ← outerMask, ← htag, ← pad_blockKey hacc hfit, ← hdigest]
  rfl

theorem Tracks.verify_eq_true_iff (h : Tracks hash key message mac) (hacc : hash.IsAccumulator)
    (hfit : hash.digestSize ≤ hash.blockSize) (tag : Bytes) :
    (mac.verify tag).1 = true ↔ tag = standardTag hash key message := by
  rw [← h.finalize_eq_standardTag hacc hfit]
  exact Bytes.constantTimeEq_iff.trans eq_comm

/-- Through the interface every call answers, as the standard has it, and does what the direct call
does. -/
theorem Tracks.serve_eq (h : Tracks hash key message mac) (hacc : hash.IsAccumulator)
    (hfit : hash.digestSize ≤ hash.blockSize) (call : MacContext.Call) :
    Hmac.context.serve mac call =
      (.ok (standardReply hash key message call), mac.perform (.ofContext call)) := by
  cases call with
  | setKey key => rfl
  | update octets => rfl
  | finalize =>
    rw [standardReply, ← h.finalize_eq_standardTag hacc hfit]
    rfl
  | verify tag =>
    have hverdict : (mac.verify tag).1 = decide (tag = standardTag hash key message) := by
      rw [Bool.eq_iff_iff, decide_eq_true_iff]
      exact h.verify_eq_true_iff hacc hfit tag
    rw [standardReply, ← hverdict]
    rfl

end

/-! ## The tags -/

/-- After every history of calls, the tag an `Hmac` gives, and the only one it verifies, is the
standard tag of the last message under the last key, for every accumulating hash function that
is accepted. Through the interface every call answers, as the standard has it, and goes on as the
direct call does, and no tag is longer than announced. The same holds of tags in one step, and the
computations made under a key or from parameters are the ones such histories start from. -/
theorem run_follows_standard {hash : HashFunction σ} {mac : Hmac σ} (hacc : hash.IsAccumulator)
    (hnew : Hmac.new hash = .ok mac) :
    (∀ calls : List Call,
      (mac.run calls).finalize.1 = standardTag hash (installedKey calls) (message calls)) ∧
    (∀ (calls : List Call) (tag : Bytes), ((mac.run calls).verify tag).1 = true ↔
      tag = standardTag hash (installedKey calls) (message calls)) ∧
    (∀ (calls : List Call) (call : MacContext.Call), Hmac.context.serve (mac.run calls) call =
      (.ok (standardReply hash (installedKey calls) (message calls) call),
        mac.run (calls ++ [.ofContext call]))) ∧
    (∀ calls : List Call, Hmac.context.tagSize (mac.run calls) = hash.digestSize ∧
      (standardTag hash (installedKey calls) (message calls)).length ≤ hash.digestSize) ∧
    (∀ key octets : Bytes, Hmac.tag hash key octets = .ok (standardTag hash key octets)) ∧
    (∀ key : Bytes, (standardKey hash key).length = hash.blockSize) ∧
    (∀ key : Bytes, withKey hash key = .ok (mac.run [.setKey key])) ∧
    ∀ (F : Type) (parameters : Parameters F σ), parameters.get? "digest" = some (.hash hash) →
      MacScheme.hmac.newContext parameters = .ok mac := by
  have hfit := (new_eq_ok_iff.mp hnew).1.2.2
  have hkeyed (key : Bytes) : withKey hash key = .ok (mac.run [.setKey key]) := by
    rw [withKey, hnew]
    rfl
  have hfinalize (calls : List Call) := (tracks_run hnew calls).finalize_eq_standardTag hacc hfit
  refine ⟨hfinalize, fun calls => (tracks_run hnew calls).verify_eq_true_iff hacc hfit,
    fun calls call => ?_, fun calls => ⟨?_, hacc.length_digest_le _⟩, fun key octets => ?_,
    length_standardKey hacc hfit, hkeyed, fun F parameters hdigest => ?_⟩
  · rw [run_concat]
    exact (tracks_run hnew calls).serve_eq hacc hfit call
  · exact congrArg HashFunction.digestSize (tracks_run hnew calls).hash_eq
  · have htag := hfinalize [.setKey key, .update octets]
    rw [show message [.setKey key, .update octets] = octets from List.append_nil octets] at htag
    rw [Hmac.tag, hkeyed, ← show installedKey [.setKey key, .update octets] = key from rfl, ← htag]
    rfl
  · have hrequired : parameters.requireHash "HMAC init" "digest" = .ok hash := by
      simp only [Parameters.requireHash, hdigest]
    have hlift : PrimitiveError.lift (Hmac.new hash) "HMAC init" = .ok mac := by
      rw [hnew]
      rfl
    simp only [MacScheme.hmac, hrequired]
    exact hlift

/-- A key of SHA-256 one octet longer than a block, and a message in two parts after a tag, a
key that was replaced and a message that was not finished. -/
theorem run_follows_standard_sha256 :
    let hash := HashFunction.sha256 Sha2.engine256
    hash.IsAccumulator ∧ ∃ mac, Hmac.new hash = .ok mac ∧
      (mac.run [.setKey [7], .update [1], .finalize, .setKey (List.replicate 65 9), .update [2],
        .verify [3], .update [4], .reset, .update [5], .update [6]]).finalize.1
          = standardTag hash (List.replicate 65 9) [5, 6] := by
  intro hash
  have hacc : hash.IsAccumulator :=
    HashFunction.isAccumulator_ofEngine (Sha2.digests_engine Sha2.start256 le_rfl) le_rfl
  have hnew := new_eq_ok_iff.mpr
    ⟨(by decide : 0 < hash.blockSize ∧ hash.blockSize ≤ maxBlockSize ∧
      hash.digestSize ≤ hash.blockSize), rfl⟩
  exact ⟨hacc, _, hnew, (run_follows_standard hacc hnew).1 _⟩

end Hmac

end CryptoSuite
