import Mathlib.Tactic.NormNum.Prime
import WalletTools.Curve.Edwards
import WalletTools.Proofs.Curve.Modular

/-! The number `2 ^ 255 - 19` is prime: two has the order below it, and the factors of that order are prime
for the same reason, down to small ones. -/
namespace WalletTools.Curve.Edwards

theorem fieldPrime_prime : fieldPrime.Prime := by
  have first : Nat.Prime 2773320623 :=
    Modular.prime_of_order 5 [2, 2437, 569003] (by decide) (by norm_num) (by decide) (by decide +kernel)
      (by decide +kernel)
  have second : Nat.Prime 72106336199 :=
    Modular.prime_of_order 7 ([2, 13] ++ [2773320623]) (by decide)
      (List.forall_mem_append.mpr ⟨by norm_num, List.forall_mem_singleton.mpr first⟩) (by decide)
      (by decide +kernel) (by decide +kernel)
  have third : Nat.Prime 1919519569386763 :=
    Modular.prime_of_order 2 [2, 3, 7, 19, 47, 47, 127, 8574133] (by decide) (by norm_num) (by decide)
      (by decide +kernel) (by decide +kernel)
  have fourth : Nat.Prime 75445702479781427272750846543864801 :=
    Modular.prime_of_order 7 ([2, 2, 2, 2, 2, 3, 3, 5, 5, 75707] ++ [72106336199, 1919519569386763])
      (by decide) (List.forall_mem_append.mpr ⟨by norm_num,
        List.forall_mem_cons.mpr ⟨second, List.forall_mem_singleton.mpr third⟩⟩) (by decide)
      (by decide +kernel) (by decide +kernel)
  have fifth : Nat.Prime 31757755568855353 :=
    Modular.prime_of_order 10 [2, 2, 2, 3, 31, 107, 223, 4153, 430751] (by decide) (by norm_num)
      (by decide) (by decide +kernel) (by decide +kernel)
  have sixth : Nat.Prime 74058212732561358302231226437062788676166966415465897661863160754340907 :=
    Modular.prime_of_order 2 ([2, 3, 353, 57467, 132049, 1923133] ++
        [31757755568855353, 75445702479781427272750846543864801]) (by decide)
      (List.forall_mem_append.mpr ⟨by norm_num,
        List.forall_mem_cons.mpr ⟨fifth, List.forall_mem_singleton.mpr fourth⟩⟩) (by decide)
      (by decide +kernel) (by decide +kernel)
  exact Modular.prime_of_order 2 ([2, 2, 3, 65147] ++
      [74058212732561358302231226437062788676166966415465897661863160754340907]) (by decide)
    (List.forall_mem_append.mpr ⟨by norm_num, List.forall_mem_singleton.mpr sixth⟩) (by decide)
    (by decide +kernel) (by decide +kernel)

instance : Fact fieldPrime.Prime := ⟨fieldPrime_prime⟩

end WalletTools.Curve.Edwards
