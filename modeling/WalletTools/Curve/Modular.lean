/-! Arithmetic of residues. Every function takes and gives numbers below the modulus. -/
namespace WalletTools.Curve.Modular

def add (modulus left right : Nat) : Nat := (left + right) % modulus

def sub (modulus left right : Nat) : Nat := (left + (modulus - right)) % modulus

def mul (modulus left right : Nat) : Nat := left * right % modulus

/-- A power, by squaring once for every bit of the exponent, the highest first. -/
def pow (modulus base exponent : Nat) : Nat :=
  (List.range (exponent.log2 + 1)).foldr
    (fun bit power =>
      let square := power * power % modulus
      if exponent.testBit bit then square * base % modulus else square)
    (1 % modulus)

/-- The inverse of a nonzero residue of a prime modulus, by Fermat's theorem. -/
def inverse (prime residue : Nat) : Nat := pow prime residue (prime - 2)

end WalletTools.Curve.Modular
