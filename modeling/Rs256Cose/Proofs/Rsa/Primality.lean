import Mathlib
import Rs256Cose.Proofs.Rsa.Power

/-!
# Prime factors of keys

Lucas's test with the powers that signing uses (`prime_of_powMod`): a number is prime if modulo it
some base has the order one less. With it the factors of `specimen`, a key of the size in use, are
shown to be prime.
-/

namespace Rs256Cose.Rsa

/-- Lucas's test for the successor of a number, given a list that holds all its prime divisors. -/
theorem prime_of_powMod {n : Nat} (base : Nat) (divisors : List Nat) (hn : n ≠ 0)
    (hdivisors : ∀ r, r.Prime → r ∣ n → r ∈ divisors) (hone : powMod base n (n + 1) = 1)
    (hne : ∀ r ∈ divisors, powMod base (n / r) (n + 1) ≠ 1) : (n + 1).Prime := by
  have hpow : ∀ k, (base : ZMod (n + 1)) ^ k = 1 ↔ powMod base k (n + 1) = 1 := by
    intro k
    have hcast : ((1 : Nat) : ZMod (n + 1)) = 1 := Nat.cast_one
    have hmod : 1 % (n + 1) = 1 := Nat.mod_eq_of_lt (by omega)
    rw [powMod_eq, ← Nat.cast_pow, ← hcast, ZMod.natCast_eq_natCast_iff', hmod]
  refine lucas_primality (n + 1) base ((hpow _).mpr hone) fun r hr hdvd h => ?_
  exact hne r (hdivisors r hr hdvd) ((hpow _).mp h)

theorem PrivateKey.hasPrimeFactors {key : PrivateKey} (hp : key.prime1.Prime)
    (hq : key.prime2.Prime) : key.HasPrimeFactors := by
  intro p hmem d hdvd
  rcases List.mem_pair.mp hmem with rfl | rfl
  · exact (Nat.dvd_prime hp).mp hdvd
  · exact (Nat.dvd_prime hq).mp hdvd

/-! ### A key -/

def specimenPrime1 : Nat := 13 * 2 ^ 1000 + 1

def specimenPrime2 : Nat := specimenPrime1 * (7681 * 2 ^ 27) + 1

theorem prime_specimenPrime1 : specimenPrime1.Prime := by
  refine prime_of_powMod 6 [2, 13] (by decide +kernel) ?_ (by decide +kernel) (by decide +kernel)
  intro r hr hdvd
  rcases hr.dvd_mul.mp hdvd with h | h
  · rw [(Nat.prime_dvd_prime_iff_eq hr (by norm_num)).mp h]
    decide
  · rw [(Nat.prime_dvd_prime_iff_eq hr Nat.prime_two).mp (hr.dvd_of_dvd_pow h)]
    decide

theorem prime_specimenPrime2 : specimenPrime2.Prime := by
  refine prime_of_powMod (n := specimenPrime1 * (7681 * 2 ^ 27)) 3 [specimenPrime1, 7681, 2]
    (by decide +kernel) ?_ (by decide +kernel) (by decide +kernel)
  intro r hr hdvd
  rcases hr.dvd_mul.mp hdvd with h | h
  · rw [(Nat.prime_dvd_prime_iff_eq hr prime_specimenPrime1).mp h]
    simp
  rcases hr.dvd_mul.mp h with h | h
  · rw [(Nat.prime_dvd_prime_iff_eq hr (by norm_num)).mp h]
    simp
  · rw [(Nat.prime_dvd_prime_iff_eq hr Nat.prime_two).mp (hr.dvd_of_dvd_pow h)]
    simp

/-- The inverse of 65537 modulo both factors less one. -/
def specimenExponent : Nat := (34015 * (specimenPrime1 - 1) * (specimenPrime2 - 1) + 1) / 65537

def specimen : PrivateKey where
  modulus := specimenPrime1 * specimenPrime2
  exponent := 65537
  exponent_odd := by decide
  three_le_exponent := by decide
  prime1_odd := by decide +kernel
  prime2_odd := by decide +kernel
  privateExponent := specimenExponent
  prime1 := specimenPrime1
  prime2 := specimenPrime2
  exponent1 := specimenExponent % (specimenPrime1 - 1)
  exponent2 := specimenExponent % (specimenPrime2 - 1)
  coefficient := 1
  one_lt_prime1 := by decide +kernel
  one_lt_prime2 := by decide +kernel
  modulus_eq := rfl
  inverse1 := by decide +kernel
  inverse2 := by decide +kernel
  exponent1_eq := rfl
  exponent2_eq := rfl
  coefficient_lt := by decide +kernel
  coefficient_inverse := by decide +kernel

theorem isProper_specimen : specimen.toPublicKey.IsProper := by decide +kernel

/-- The same key with its two exponents exchanged. -/
def mirrored : PrivateKey where
  __ := specimen
  exponent := specimenExponent
  exponent_odd := by decide +kernel
  three_le_exponent := by decide +kernel
  privateExponent := 65537
  exponent1 := 65537 % (specimen.prime1 - 1)
  exponent2 := 65537 % (specimen.prime2 - 1)
  inverse1 := by decide +kernel
  inverse2 := by decide +kernel
  exponent1_eq := rfl
  exponent2_eq := rfl

theorem isProper_mirrored : mirrored.toPublicKey.IsProper := by decide +kernel

end Rs256Cose.Rsa
