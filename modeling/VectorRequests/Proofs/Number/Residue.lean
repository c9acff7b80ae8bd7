/-
# Equal numbers have one key

Numbers are looked up by a residue of what they are worth. Every number is worth a quotient by a
power of two, an infinity or nothing; and since two to the power of 61 leaves the remainder one,
halving can be undone. So quotients that are equal have one residue, however they are written.
-/

import VectorRequests.Value.Key

namespace VectorRequests

-- Powers are those of the core library, whichever monoids are in scope.
attribute [local instance (high)] instPowNat

namespace Exact

/-- A quotient by a power of two, or no quotient. -/
def IsDyadic : Exact → Prop
  | .quotient _ d => ∃ k : Nat, d = 2 ^ k
  | .infinity _ => True
  | .nan => True

theorem isDyadic_ofInt (i : Int) : (ofInt i).IsDyadic :=
  ⟨0, rfl⟩

theorem isDyadic_ofFloat {f : FloatFormat} (x : Binary f) : (ofFloat x).IsDyadic := by
  unfold ofFloat
  split
  next n d hquotient =>
    unfold Binary.toQuotient? at hquotient
    split at hquotient
    · cases hquotient
    · split at hquotient
      · cases hquotient
      · cases hquotient
        exact ⟨f.finestBits, rfl⟩
  next => trivial
  next => trivial

theorem isDyadic_ofCell (t : ElementType) (c : t.Cell) : (ofCell t c).IsDyadic := by
  cases t with
  | bool => exact isDyadic_ofInt _
  | int f => exact isDyadic_ofInt _
  | float f => exact isDyadic_ofFloat _

/-! ## Halving -/

theorem two_pow_mul_mod (k : Nat) : 2 ^ (61 * k) % modulus = 1 := by
  have hone : 2 ^ (61 : Nat) % modulus = 1 := by decide
  rw [Nat.pow_mul, Nat.pow_mod, hone, Nat.one_pow]
  decide

theorem mul_mod_of_mod_one {n u : Nat} (h : u % modulus = 1) : n * u % modulus = n % modulus := by
  rw [Nat.mul_mod, h, Nat.mul_one, Nat.mod_mod]

/-- What halvings are undone by. -/
theorem halvings_mod (k : Nat) : 2 ^ (61 - k % 61) * 2 ^ k % modulus = 1 := by
  have hround : 61 - k % 61 + k = 61 * (k / 61 + 1) := by omega
  rw [← Nat.pow_add, hround]
  exact two_pow_mul_mod _

/-- Equal quotients have the same remainder after halving. -/
theorem mul_halvings_mod {n m a b : Nat} (h : n * 2 ^ b = m * 2 ^ a) :
    n * 2 ^ (61 - a % 61) % modulus = m * 2 ^ (61 - b % 61) % modulus :=
  calc n * 2 ^ (61 - a % 61) % modulus
      = n * 2 ^ (61 - a % 61) * (2 ^ (61 - b % 61) * 2 ^ b) % modulus :=
        (mul_mod_of_mod_one (halvings_mod b)).symm
    _ = n * 2 ^ b * (2 ^ (61 - a % 61) * 2 ^ (61 - b % 61)) % modulus := by
        congr 1
        ac_rfl
    _ = m * 2 ^ a * (2 ^ (61 - a % 61) * 2 ^ (61 - b % 61)) % modulus := by rw [h]
    _ = m * 2 ^ (61 - b % 61) * (2 ^ (61 - a % 61) * 2 ^ a) % modulus := by
        congr 1
        ac_rfl
    _ = m * 2 ^ (61 - b % 61) % modulus := mul_mod_of_mod_one (halvings_mod a)

/-- Numbers that are equal have a residue, and the same one. -/
theorem residue_of_equal {x y : Exact} (hx : x.IsDyadic) (hy : y.IsDyadic)
    (h : x.equal y = true) : ∃ r, x.residue = some r ∧ y.residue = some r := by
  unfold equal at h
  split at h
  next n d m e =>
    obtain ⟨a, rfl⟩ := hx
    obtain ⟨b, rfl⟩ := hy
    have hproducts : n * ((2 ^ b : Nat) : Int) = m * ((2 ^ a : Nat) : Int) := eq_of_beq h
    have hmagnitudes : n.natAbs * 2 ^ b = m.natAbs * 2 ^ a := by
      simpa [Int.natAbs_mul] using congrArg Int.natAbs hproducts
    have hpos (k : Nat) : ((2 ^ k : Nat) : Int).sign = 1 :=
      Int.sign_eq_one_of_pos (Int.natCast_pos.mpr (Nat.two_pow_pos k))
    have hsign : n.sign = m.sign := by
      simpa only [Int.sign_mul, hpos, Int.mul_one] using congrArg Int.sign hproducts
    have hneg : n < 0 ↔ m < 0 := by
      rw [← Int.sign_eq_neg_one_iff_neg, hsign, Int.sign_eq_neg_one_iff_neg]
    refine ⟨_, rfl, ?_⟩
    simp only [residue, Nat.log2_two_pow, mul_halvings_mod hmagnitudes, hneg]
  next s t =>
    cases eq_of_beq h
    exact ⟨_, rfl, rfl⟩
  next => cases h

end Exact

theorem Operand.isDyadic_worth (a : Operand) : a.worth.IsDyadic := by
  cases a with
  | integer i => exact Exact.isDyadic_ofInt i
  | float x => exact Exact.isDyadic_ofFloat x
  | cell type c => exact Exact.isDyadic_ofCell type c

/-- Numbers that are worth the same have equal keys. -/
theorem Key.equal_ofExact {a b : Operand} (h : a.worth.equal b.worth = true) :
    (Key.ofExact a.worth).equal (Key.ofExact b.worth) = true := by
  obtain ⟨r, ha, hb⟩ := Exact.residue_of_equal a.isDyadic_worth b.isDyadic_worth h
  rw [ofExact, ofExact, ha, hb]
  exact beq_self_eq_true r

theorem Key.equal_ofInt (i : Int) : (ofExact (.ofInt i)).equal (ofExact (.ofInt i)) = true :=
  equal_ofExact (a := .integer i) (b := .integer i) (beq_self_eq_true _)

end VectorRequests
