/-
# Variable-length numbers are read back

A number is read back from its bytes, whatever follows them, if the reader may go on for as
many bytes and the number is within its limit. A number below 128 to the power of `k` takes at
most `k` bytes, and a count of bytes is always within the limits of its reader.
-/

import VectorRequests.Wire.Varint
import Mathlib.Tactic.Ring

namespace VectorRequests.Varint

/-- A number that takes one byte. -/
theorem encode_of_lt {n : Nat} (h : n < 128) : encode n = [UInt8.ofNat n] := by
  rw [encode, if_pos h]

/-- A number that takes more than one byte. -/
theorem encode_of_le {n : Nat} (h : 128 ≤ n) :
    encode n = UInt8.ofNat (128 + n % 128) :: encode (n / 128) := by
  rw [encode, if_neg (by omega)]

theorem encode_ne_nil (n : Nat) : encode n ≠ [] := by
  by_cases h : n < 128
  · simp [encode_of_lt h]
  · simp [encode_of_le (by omega : 128 ≤ n)]

theorem length_encode_le {n k : Nat} (hpos : 0 < k) (h : n < 128 ^ k) :
    (encode n).length ≤ k := by
  induction k generalizing n with
  | zero => omega
  | succ k ih =>
      by_cases hsmall : n < 128
      · rw [encode_of_lt hsmall]
        simp
      · have hlarge : 128 ≤ n := by omega
        rw [Nat.pow_succ'] at h
        have hrest : n / 128 < 128 ^ k := Nat.div_lt_of_lt_mul h
        have hk : 0 < k := by
          by_contra hzero
          have hone : k = 0 := by omega
          rw [hone, Nat.pow_zero] at h
          omega
        rw [encode_of_le hlarge, List.length_cons]
        exact Nat.succ_le_succ (ih hk hrest)

/-- Larger numbers do not take fewer bytes. -/
theorem length_encode_mono {m n : Nat} (h : m ≤ n) : (encode m).length ≤ (encode n).length := by
  induction n using Nat.strongRecOn generalizing m with
  | ind n ih =>
      by_cases hm : m < 128
      · rw [encode_of_lt hm]
        exact List.length_pos_iff.mpr (encode_ne_nil n)
      · have hmle : 128 ≤ m := by omega
        have hnle : 128 ≤ n := by omega
        rw [encode_of_le hmle, encode_of_le hnle, List.length_cons, List.length_cons]
        exact Nat.succ_le_succ (ih (n / 128) (by omega) (by omega))

/-- A number is read back from its bytes and added to what was read before. -/
theorem readFrom_encode {limit maxBytes scale low n : Nat} (rest : List UInt8)
    (hlimit : low + n * scale ≤ limit) (hbytes : (encode n).length ≤ maxBytes) :
    readFrom limit maxBytes scale low (encode n ++ rest) = some (low + n * scale, rest) := by
  induction n using Nat.strongRecOn generalizing maxBytes scale low with
  | ind n ih =>
      obtain ⟨maxBytes, rfl⟩ : ∃ m, maxBytes = m + 1 := by
        have hpos : 0 < (encode n).length := List.length_pos_iff.mpr (encode_ne_nil n)
        exact ⟨maxBytes - 1, by omega⟩
      by_cases hsmall : n < 128
      · have hbyte : (UInt8.ofNat n).toNat = n := by
          rw [UInt8.toNat_ofNat']
          omega
        have hlow : n % 128 = n := Nat.mod_eq_of_lt hsmall
        rw [encode_of_lt hsmall, List.singleton_append, readFrom, hbyte, hlow]
        simp only [if_neg (Nat.not_lt.mpr hlimit), if_pos hsmall]
      · have hlarge : 128 ≤ n := by omega
        have hbyte : (UInt8.ofNat (128 + n % 128)).toNat = 128 + n % 128 := by
          rw [UInt8.toNat_ofNat']
          omega
        have hlow : (128 + n % 128) % 128 = n % 128 := by omega
        have hsplit : low + n % 128 * scale + n / 128 * (scale * 128) = low + n * scale := by
          calc low + n % 128 * scale + n / 128 * (scale * 128)
              = low + (n % 128 + 128 * (n / 128)) * scale := by ring
            _ = low + n * scale := by rw [Nat.mod_add_div]
        have hwithin : ¬ limit < low + n % 128 * scale := by omega
        have hmore : ¬ 128 + n % 128 < 128 := by omega
        rw [encode_of_le hlarge, List.length_cons] at hbytes
        rw [encode_of_le hlarge, List.cons_append, readFrom, hbyte, hlow]
        simp only [if_neg hwithin, if_neg hmore]
        rw [ih (n / 128) (by omega) (by omega) (by omega), hsplit]

theorem readFrom_start {limit maxBytes n : Nat} (rest : List UInt8) (hlimit : n ≤ limit)
    (hbytes : (encode n).length ≤ maxBytes) :
    readFrom limit maxBytes 1 0 (encode n ++ rest) = some (n, rest) := by
  have hworth : 0 + n * 1 = n := by omega
  have hread : readFrom limit maxBytes 1 0 (encode n ++ rest) = some (0 + n * 1, rest) :=
    readFrom_encode rest (by omega) hbytes
  rwa [hworth] at hread

theorem read64?_encode {n : Nat} (h : n < 2 ^ 64) (rest : List UInt8) :
    read64? (encode n ++ rest) = some (n, rest) :=
  readFrom_start rest (by omega) (length_encode_le (by omega) (by omega))

theorem read32?_encode {n : Nat} (h : n < 2 ^ 32) (rest : List UInt8) :
    read32? (encode n ++ rest) = some (n, rest) :=
  readFrom_start rest (by omega) (length_encode_le (by omega) (by omega))

/-- A count of what follows it is always read back. -/
theorem readCount?_encode {n : Nat} {rest : List UInt8} (h : n ≤ rest.length) :
    readCount? (encode n ++ rest) = some (n, rest) := by
  have hall : n ≤ (encode n ++ rest).length := by
    rw [List.length_append]
    omega
  have hbytes := length_encode_mono hall
  exact readFrom_start rest (by omega) (by omega)

end VectorRequests.Varint
