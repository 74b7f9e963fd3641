import Mathlib.Data.Int.Bitwise

namespace Bits

@[simp] theorem zero_testBit (b : Nat) : Int.testBit 0 b = false := Nat.zero_testBit b

theorem testBit_two_pow (k b : Nat) : Int.testBit (2 ^ k) b = decide (k = b) := by
  have hcast : (2 : Int) ^ k = ((2 ^ k : Nat) : Int) := by push_cast; rfl
  rw [hcast]
  exact Nat.testBit_two_pow

theorem ne_zero_iff (n : Int) : n ≠ 0 ↔ ∃ b, n.testBit b = true := by
  cases n with
  | ofNat m =>
    have hbits : m ≠ 0 ↔ ∃ b, m.testBit b = true := by
      constructor
      · intro hne
        exact Nat.exists_testBit_of_ne_zero hne
      · rintro ⟨b, hb⟩ rfl
        simp at hb
    rw [Int.ofNat_eq_natCast, Int.natCast_ne_zero, hbits]
    rfl
  | negSucc m =>
    refine ⟨fun _ => ⟨m, ?_⟩, fun _ => Int.negSucc_ne_zero m⟩
    have hbit : m.testBit m = false := Nat.testBit_lt_two_pow Nat.lt_two_pow_self
    simp [Int.testBit, hbit]

theorem land_ne_zero_iff (m n : Int) :
    Int.land m n ≠ 0 ↔ ∃ b, m.testBit b = true ∧ n.testBit b = true := by
  simp [ne_zero_iff, Int.testBit_land]

theorem lor_ne_zero_iff (m n : Int) : Int.lor m n ≠ 0 ↔ m ≠ 0 ∨ n ≠ 0 := by
  simp only [ne_zero_iff, Int.testBit_lor, Bool.or_eq_true, exists_or]

theorem land_two_pow (n : Int) (k : Nat) : Int.land n (2 ^ k) ≠ 0 ↔ n.testBit k = true := by
  rw [land_ne_zero_iff]
  simp [testBit_two_pow]

theorem two_pow_ne_zero (k : Nat) : (2 : Int) ^ k ≠ 0 := by simp

theorem foldl_ne_zero_iff {A : Type} {f : Int → A → Int} {p : A → Prop}
    (hstep : ∀ bits x, f bits x ≠ 0 ↔ bits ≠ 0 ∨ p x) (xs : List A) (bits : Int) :
    xs.foldl f bits ≠ 0 ↔ bits ≠ 0 ∨ ∃ x ∈ xs, p x := by
  induction xs generalizing bits with
  | nil => simp
  | cons x xs ih =>
    rw [List.foldl_cons, ih, hstep, or_assoc]
    simp

theorem foldl_testBit_iff {A : Type} {f : Int → A → Int} {p : A → Prop} {b : Nat}
    (hstep : ∀ bits x, (f bits x).testBit b = true ↔ bits.testBit b = true ∨ p x) (xs : List A)
    (bits : Int) :
    (xs.foldl f bits).testBit b = true ↔ bits.testBit b = true ∨ ∃ x ∈ xs, p x := by
  induction xs generalizing bits with
  | nil => simp
  | cons x xs ih =>
    rw [List.foldl_cons, ih, hstep, or_assoc]
    simp

end Bits
