import Mathlib.Data.Nat.Prime.Basic
import Mathlib.FieldTheory.Finite.Basic
import Mathlib.NumberTheory.LucasPrimality
import WalletTools.Curve.Modular
import WalletTools.Powers

/-! Arithmetic of residues as that of the integers modulo a number, powers by repeated squaring as powers,
and a test of primality that computes such powers. -/
namespace WalletTools.Curve

/-- Going through the bits of a number, the highest first, keeps what holds of a value for the part of the
number above the bits to come. -/
theorem foldr_bits (holds : Nat → α → Prop) {number : Nat} {step : Nat → α → α}
    (passes : ∀ bit half value, holds half value →
      holds (2 * half + (number.testBit bit).toNat) (step bit value))
    {start : α} (begins : holds 0 start) :
    holds number ((List.range (number.log2 + 1)).foldr step start) := by
  have onward (count : Nat) (value : α) (held : holds (number / 2 ^ count) value) :
      holds number ((List.range count).foldr step value) := by
    induction count generalizing value with
    | zero => simpa using held
    | succ count ih =>
      rw [List.range_succ, List.foldr_append]
      refine ih _ ?_
      have next := passes count _ value held
      rw [Nat.toNat_testBit, pow_succ, ← Nat.div_div_eq_div_mul, Nat.div_add_mod] at next
      exact next
  refine onward _ _ ?_
  rw [Nat.div_eq_of_lt Nat.lt_log2_self]
  exact begins

namespace Modular

theorem pow_eq (modulus base exponent : Nat) : pow modulus base exponent = base ^ exponent % modulus := by
  refine foldr_bits (fun exponent power => power = base ^ exponent % modulus) ?_ (by rw [pow_zero])
  intro bit half power held
  have square : power * power % modulus = base ^ (2 * half) % modulus := by
    rw [held, ← Nat.mul_mod, two_mul, pow_add]
  dsimp only
  cases exponent.testBit bit with
  | false => exact square
  | true =>
    rw [if_pos rfl, square, Nat.mod_mul_mod, ← pow_succ]
    rfl

section

variable {modulus left right : Nat}

theorem sub_lt (positive : 0 < modulus) : sub modulus left right < modulus := Nat.mod_lt _ positive
theorem mul_lt (positive : 0 < modulus) : mul modulus left right < modulus := Nat.mod_lt _ positive

theorem cast_add : (add modulus left right : ZMod modulus) = left + right := by
  rw [add, ZMod.natCast_mod, Nat.cast_add]

theorem cast_mul : (mul modulus left right : ZMod modulus) = left * right := by
  rw [mul, ZMod.natCast_mod, Nat.cast_mul]

theorem cast_sub (below : right ≤ modulus) : (sub modulus left right : ZMod modulus) = left - right := by
  rw [sub, ZMod.natCast_mod, Nat.cast_add, Nat.cast_sub below, ZMod.natCast_self, zero_sub, sub_eq_add_neg]

theorem cast_pow (base exponent : Nat) :
    (pow modulus base exponent : ZMod modulus) = (base : ZMod modulus) ^ exponent := by
  rw [pow_eq, ZMod.natCast_mod, Nat.cast_pow]

end

/-- The power by which a residue is inverted is its inverse. -/
theorem cast_inverse {prime : Nat} [Fact prime.Prime] (odd : 2 < prime) (residue : Nat) :
    (inverse prime residue : ZMod prime) = (residue : ZMod prime)⁻¹ := by
  rw [inverse, cast_pow]
  by_cases zero : (residue : ZMod prime) = 0
  · rw [zero, inv_zero, zero_pow (by omega)]
  · apply eq_inv_of_mul_eq_one_left
    have less : prime - 2 + 1 = prime - 1 := by omega
    rw [← pow_succ, less, ZMod.pow_card_sub_one_eq_one zero]

/-- A number is prime where a residue has the order below it, which the prime factors of that order tell. -/
theorem prime_of_order {number : Nat} (residue : Nat) (factors : List Nat) (large : 1 < number)
    (primes : ∀ factor ∈ factors, factor.Prime) (product : factors.prod = number - 1)
    (whole : pow number residue (number - 1) = 1)
    (parts : ∀ factor ∈ factors, pow number residue ((number - 1) / factor) ≠ 1) : number.Prime := by
  have power_eq_one_iff (exponent : Nat) :
      (residue : ZMod number) ^ exponent = 1 ↔ pow number residue exponent = 1 := by
    rw [pow_eq, ← Nat.cast_pow, ← Nat.cast_one, ZMod.natCast_eq_natCast_iff', Nat.mod_eq_of_lt large]
  refine lucas_primality number (residue : ZMod number) ((power_eq_one_iff _).mpr whole) ?_
  intro factor prime divides
  rw [← product] at divides
  obtain ⟨listed, member, divides⟩ := (Nat.Prime.prime prime).dvd_prod_iff.mp divides
  obtain rfl := (Nat.prime_dvd_prime_iff_eq prime (primes listed member)).mp divides
  exact mt (power_eq_one_iff _).mp (parts factor member)

end Modular

end WalletTools.Curve
