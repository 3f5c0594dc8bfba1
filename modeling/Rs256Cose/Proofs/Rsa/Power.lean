import Mathlib
import Rs256Cose.Proofs.Numbers
import Rs256Cose.Rsa.Key

/-!
# Powers by repeated squaring

`powMod_eq` says that `powMod` is the remainder of the power.
-/

namespace Rs256Cose.Rsa

theorem powModBits_eq (modulus bits base exponent : Nat) (h : exponent < 2 ^ bits) :
    powModBits modulus bits base exponent = base ^ exponent % modulus := by
  induction bits generalizing base exponent with
  | zero =>
    have : exponent = 0 := by simpa using h
    subst this
    rfl
  | succ bits ih =>
    have hq : exponent / 2 < 2 ^ bits := by rw [Nat.pow_succ] at h; omega
    have hsq : (base * base % modulus) ^ (exponent / 2) % modulus =
        base ^ (2 * (exponent / 2)) % modulus := by
      rw [← Nat.pow_mod, ← Nat.pow_two, ← Nat.pow_mul]
    simp only [powModBits, ih _ _ hq, hsq]
    split
    · rw [Nat.mul_mod_mod, Nat.mul_comm, ← Nat.pow_succ,
        show (2 * (exponent / 2)).succ = exponent by omega]
    · rw [show 2 * (exponent / 2) = exponent by omega]

theorem powMod_eq (base exponent modulus : Nat) :
    powMod base exponent modulus = base ^ exponent % modulus := by
  rw [powMod, powModBits_eq _ _ _ _ (Bytes.lt_two_pow_bitLength exponent), ← Nat.pow_mod]

end Rs256Cose.Rsa
