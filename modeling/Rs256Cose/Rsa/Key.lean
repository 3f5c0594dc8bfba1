import Rs256Cose.Bytes

/-!
# RSA keys

The numbers of RFC 8017. A `PublicKey` is any two numbers: key files can hold them all, and which
are used is decided elsewhere. It is proper if its exponent is odd, from 3 up to the modulus. A
`PrivateKey` has an odd exponent above 1, the private exponent and two odd factors, which multiply
to the modulus and modulo each of which, less one, the two exponents are inverse; its last three
numbers are the ones computed from the others. The type does not say that the factors are prime.
-/

namespace Rs256Cose.Rsa

structure PublicKey where
  modulus : Nat
  exponent : Nat
  deriving DecidableEq, Repr

/-- Why two numbers are no public key. -/
inductive PublicNumbersError where
  | exponentRange
  | exponentEven
  deriving DecidableEq, Repr

def PublicNumbersError.message : PublicNumbersError → String
  | .exponentRange => "e must be >= 3 and < n."
  | .exponentEven => "e must be odd."

namespace PublicKey

structure IsProper (key : PublicKey) : Prop where
  exponent_odd : key.exponent % 2 = 1
  three_le_exponent : 3 ≤ key.exponent
  exponent_lt : key.exponent < key.modulus

instance (key : PublicKey) : Decidable key.IsProper :=
  decidable_of_iff
    (key.exponent % 2 = 1 ∧ 3 ≤ key.exponent ∧ key.exponent < key.modulus)
    ⟨fun h => ⟨h.1, h.2.1, h.2.2⟩, fun h => ⟨h.1, h.2, h.3⟩⟩

/-- The proper key with these numbers. -/
def ofNumbers (modulus exponent : Nat) : Except PublicNumbersError PublicKey :=
  if 3 ≤ exponent ∧ exponent < modulus then
    if exponent % 2 = 1 then .ok ⟨modulus, exponent⟩ else .error .exponentEven
  else .error .exponentRange

/-- The number of bits of the modulus. -/
def size (key : PublicKey) : Nat := Bytes.bitLength key.modulus

end PublicKey

structure PrivateKey extends PublicKey where
  privateExponent : Nat
  prime1 : Nat
  prime2 : Nat
  exponent1 : Nat
  exponent2 : Nat
  coefficient : Nat
  exponent_odd : exponent % 2 = 1
  three_le_exponent : 3 ≤ exponent
  prime1_odd : prime1 % 2 = 1
  prime2_odd : prime2 % 2 = 1
  one_lt_prime1 : 1 < prime1
  one_lt_prime2 : 1 < prime2
  modulus_eq : prime1 * prime2 = modulus
  inverse1 : exponent * privateExponent % (prime1 - 1) = 1 % (prime1 - 1)
  inverse2 : exponent * privateExponent % (prime2 - 1) = 1 % (prime2 - 1)
  exponent1_eq : exponent1 = privateExponent % (prime1 - 1)
  exponent2_eq : exponent2 = privateExponent % (prime2 - 1)
  coefficient_lt : coefficient < prime1
  coefficient_inverse : coefficient * prime2 % prime1 = 1
  deriving DecidableEq

namespace PrivateKey

def HasPrimeFactors (key : PrivateKey) : Prop :=
  ∀ p ∈ [key.prime1, key.prime2], ∀ d, d ∣ p → d = 1 ∨ d = p

/-- The private key with these numbers, if they fit together. -/
def ofNumbers? (key : PublicKey) (d p q d1 d2 c : Nat) : Option PrivateKey :=
  if h : ((key.exponent % 2 = 1 ∧ 3 ≤ key.exponent) ∧ p % 2 = 1 ∧ q % 2 = 1) ∧
      (1 < p ∧ 1 < q ∧ p * q = key.modulus) ∧
      (key.exponent * d % (p - 1) = 1 % (p - 1) ∧ key.exponent * d % (q - 1) = 1 % (q - 1)) ∧
      (d1 = d % (p - 1) ∧ d2 = d % (q - 1)) ∧ c < p ∧ c * q % p = 1 then
    some ⟨key, d, p, q, d1, d2, c, h.1.1.1, h.1.1.2, h.1.2.1, h.1.2.2, h.2.1.1, h.2.1.2.1,
      h.2.1.2.2, h.2.2.1.1, h.2.2.1.2, h.2.2.2.1.1, h.2.2.2.1.2, h.2.2.2.2.1, h.2.2.2.2.2⟩
  else none

end PrivateKey

/-! ### Powers -/

/-- The power for an exponent of at most `bits` binary digits, by repeated squaring. -/
def powModBits (modulus : Nat) : Nat → Nat → Nat → Nat
  | 0, _, _ => 1 % modulus
  | bits + 1, base, exponent =>
    let rest := powModBits modulus bits (base * base % modulus) (exponent / 2)
    if exponent % 2 = 1 then base * rest % modulus else rest

/-- The remainder of a power, without the power itself. -/
def powMod (base exponent modulus : Nat) : Nat :=
  powModBits modulus (Bytes.bitLength exponent) (base % modulus) exponent

end Rs256Cose.Rsa
