import CryptoSuite.Hash.Sha2
import CryptoSuite.Proofs.Hash.Accumulator
import CryptoSuite.Proofs.Number.Numeral

/-!
# Digests in one go

The standard has no running computation : a message is padded to whole blocks, which
are compressed one after the other (`Sha2.standard`). An engine holds the chaining
value of the blocks that are full and the octets of the one that is not
(`Sha2.State.Holds`). One octet more keeps this (`Sha2.State.Holds.absorb`), and so
does a whole string. Main statement : the engine computes the digests of the
standard (`Sha2.digests_engine`).
-/

namespace CryptoSuite

namespace Sha2

/-! ## The standard -/

/-- The chaining value after the blocks of an octet string. What is left of it when no full block
is left does not count. -/
def compressBlocks (chain : Words) (octets : Bytes) : Words :=
  if blockSize ≤ octets.length then
    compressBlocks (chain.compress (blockWords (octets.take blockSize))) (octets.drop blockSize)
  else chain
termination_by octets.length
decreasing_by simp only [List.length_drop, blockSize] at *; omega

/-- The digest of a message : its first octets, if the chaining value is longer. -/
def standard (chain : Words) (size : ℕ) (message : Bytes) : Bytes :=
  ((compressBlocks chain (message ++ State.padding message.length)).toList.flatMap
    wordOctets).take size

theorem length_octets (chain : Words) : (chain.toList.flatMap wordOctets).length = 32 := by
  simp [Words.toList, wordOctets]

/-- A padded message is made of whole blocks. -/
theorem dvd_length_padded (message : Bytes) :
    blockSize ∣ (message ++ State.padding message.length).length := by
  have hcount : (Bytes.ofNatPadded 8 (8 * message.length % UInt64.size)).length = 8 := by
    refine Bytes.length_padLeft ?_
    rw [Bytes.length_ofNat_le_iff]
    exact Nat.mod_lt _ (by decide)
  simp only [State.padding, List.length_append, List.length_cons, List.length_replicate, hcount,
    blockSize]
  omega

theorem compressBlocks_of_lt {chain : Words} {octets : Bytes} (h : octets.length < blockSize) :
    compressBlocks chain octets = chain := by
  rw [compressBlocks, if_neg (Nat.not_le.2 h)]

theorem compressBlocks_of_eq {chain : Words} {block : Bytes} (h : block.length = blockSize) :
    compressBlocks chain block = chain.compress (blockWords block) := by
  rw [compressBlocks, if_pos h.ge, ← h, List.take_length, List.drop_length]
  exact compressBlocks_of_lt (by decide)

/-- Behind whole blocks the chaining value goes on. -/
theorem compressBlocks_append {chain : Words} {full rest : Bytes} (h : blockSize ∣ full.length) :
    compressBlocks chain (full ++ rest) = compressBlocks (compressBlocks chain full) rest := by
  fun_induction compressBlocks chain full with
  | case1 chain full hle ih =>
    have hdrop : blockSize ∣ (full.drop blockSize).length := by
      rw [List.length_drop]
      exact Nat.dvd_sub h dvd_rfl
    rw [compressBlocks, if_pos (hle.trans (by simp)), List.take_append_of_le_length hle,
      List.drop_append_of_le_length hle]
    exact ih hdrop
  | case2 chain full hlt =>
    obtain rfl : full = [] :=
      List.eq_nil_of_length_eq_zero (Nat.eq_zero_of_dvd_of_lt h (Nat.not_le.1 hlt))
    rfl

/-! ## Running computations -/

namespace State

/-- The computation has absorbed whole blocks, which are compressed, and further octets, which are
not. -/
structure Holds (chain : Words) (s : State) (full pending : Bytes) : Prop where
  dvd : blockSize ∣ full.length
  lt : pending.length < blockSize
  chain_eq : s.chain = compressBlocks chain full
  pending_eq : s.pending.toList = pending
  length_eq : s.length = full.length + pending.length

variable {chain : Words} {s : State}

theorem holds_start (chain : Words) : (start chain).Holds chain [] [] where
  dvd := Nat.dvd_zero _
  lt := by decide
  chain_eq := (compressBlocks_of_lt (by decide)).symm
  pending_eq := rfl
  length_eq := rfl

/-- One octet more fills a block or not. -/
theorem Holds.absorb {full pending : Bytes} (h : s.Holds chain full pending) (b : UInt8) :
    ∃ full' pending', full' ++ pending' = full ++ pending ++ [b] ∧
      (s.absorb b).Holds chain full' pending' := by
  have hpush : (s.pending.push b).toList = pending ++ [b] := by
    rw [Array.toList_push, h.pending_eq]
  have hsize : (s.pending.push b).size = (pending ++ [b]).length := by
    rw [← hpush, Array.length_toList]
  have hlength : s.length + 1 = full.length + (pending ++ [b]).length := by
    rw [h.length_eq, List.length_append, List.length_singleton, Nat.add_assoc]
  have hlt := h.lt
  by_cases hblock : (pending ++ [b]).length = blockSize
  · have habsorb : s.absorb b =
        ⟨s.chain.compress (blockWords (pending ++ [b])), #[], s.length + 1⟩ := by
      simp only [State.absorb, if_pos (hsize.trans hblock), hpush]
    refine ⟨full ++ (pending ++ [b]), [], by simp, ?_⟩
    rw [habsorb]
    refine ⟨?_, by decide, ?_, rfl, ?_⟩
    · rw [List.length_append, hblock]
      exact Nat.dvd_add h.dvd dvd_rfl
    · rw [compressBlocks_append h.dvd, compressBlocks_of_eq hblock, h.chain_eq]
    · rw [List.length_append]
      exact hlength
  · have habsorb : s.absorb b = ⟨s.chain, s.pending.push b, s.length + 1⟩ := by
      simp only [State.absorb, if_neg (hsize ▸ hblock)]
    refine ⟨full, pending ++ [b], (List.append_assoc ..).symm, ?_⟩
    rw [habsorb]
    refine ⟨h.dvd, ?_, h.chain_eq, hpush, hlength⟩
    rw [List.length_append, List.length_singleton] at hblock ⊢
    omega

theorem Holds.update {full pending : Bytes} (h : s.Holds chain full pending) (octets : Bytes) :
    ∃ full' pending', full' ++ pending' = full ++ pending ++ octets ∧
      (s.update octets).Holds chain full' pending' := by
  induction octets generalizing s full pending with
  | nil => exact ⟨full, pending, (List.append_nil _).symm, h⟩
  | cons b octets ih =>
    obtain ⟨full', pending', happend, h'⟩ := h.absorb b
    obtain ⟨full'', pending'', happend', h''⟩ := ih h'
    refine ⟨full'', pending'', ?_, h''⟩
    rw [happend', happend, List.append_assoc, List.singleton_append]

/-- A computation that has absorbed a message reads off the digest of the standard. -/
theorem output_update (chain : Words) (m : Bytes) :
    ((start chain).update m).output = standard chain 32 m := by
  obtain ⟨full, pending, happend, h⟩ := (holds_start chain).update m
  obtain ⟨full', pending', happend', h'⟩ := h.update (padding m.length)
  have hlength : ((start chain).update m).length = m.length := by
    rw [h.length_eq, ← List.length_append, happend]
    rfl
  have hpadded : full' ++ pending' = m ++ padding m.length := by
    rw [happend', happend]
    rfl
  have hchain : (((start chain).update m).update (padding m.length)).chain =
      compressBlocks chain (m ++ padding m.length) := by
    rw [h'.chain_eq, ← hpadded, compressBlocks_append h'.dvd, compressBlocks_of_lt h'.lt]
  rw [output, hlength, hchain, standard, List.take_of_length_le (length_octets _).le]

end State

/-! ## The engines -/

theorem eq_update_of_fed {chain : Words} {size : ℕ} {s : State} {m : Bytes}
    (h : (engine chain size).Fed s m) : s = (State.start chain).update m := by
  induction h with
  | new => rfl
  | update octets _ ih =>
    rw [State.update_append, ← ih]
    rfl
  | clone _ ih => exact ih

/-- The engine computes the digests of the standard. -/
theorem digests_engine (chain : Words) {size : ℕ} (hsize : size ≤ 32) :
    (engine chain size).Digests (standard chain size) size where
  finalize_eq {s m} h := by
    have houtput : (engine chain size).finalize s = (standard chain 32 m).take size := by
      rw [eq_update_of_fed h, ← State.output_update]
      rfl
    rw [houtput, standard, List.take_take, Nat.min_eq_left hsize, standard]
  length_eq m := by
    rw [standard, List.length_take, length_octets, Nat.min_eq_left hsize]

/-- The digest of `abc` under SHA-256. -/
example : standard start256 32 [0x61, 0x62, 0x63] =
    [0xba, 0x78, 0x16, 0xbf, 0x8f, 0x01, 0xcf, 0xea, 0x41, 0x41, 0x40, 0xde, 0x5d, 0xae, 0x22, 0x23,
      0xb0, 0x03, 0x61, 0xa3, 0x96, 0x17, 0x7a, 0x9c, 0xb4, 0x10, 0xff, 0x61, 0xf2, 0x00, 0x15,
      0xad] := by
  decide +kernel

end Sha2

end CryptoSuite
