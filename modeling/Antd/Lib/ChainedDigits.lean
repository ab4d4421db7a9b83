import Mathlib

/-! Three base-`n` digits chained by differences. The first digit is the low
digit of `x`; each later one is the next digit of `x` plus the digit before it,
modulo `n`. Subtracting the digit before back, modulo `n`, recovers the digits
of `x`, so decoding gives `x` modulo `n ^ 3` (`decode_encode`). A number below
`n` is its own digit three times (`encode_of_lt`), and three equal digits
decode to that digit (`decode_repeat`). -/

namespace ChainedDigits

variable {n : Nat}

def encode (n x : Nat) : Nat × Nat × Nat :=
  let first := x % n
  let second := (x / n + first) % n
  let third := (x / n / n + second) % n
  (first, second, third)

def decode (n : Nat) (digits : Nat × Nat × Nat) : Nat :=
  digits.1 + n * ((n - digits.1 + digits.2.1) % n) +
    n * n * ((n - digits.2.1 + digits.2.2) % n)

theorem unchain (digit y : Nat) (below : digit < n) :
    (n - digit + (y + digit) % n) % n = y % n := by
  rw [Nat.add_mod_mod]
  have shifted : n - digit + (y + digit) = y + n := by omega
  rw [shifted, Nat.add_mod_right]

theorem decode_encode (positive : 0 < n) (x : Nat) :
    decode n (encode n x) = x % (n * n * n) := by
  have firstBelow : x % n < n := Nat.mod_lt _ positive
  have secondBelow : (x / n + x % n) % n < n := Nat.mod_lt _ positive
  simp only [decode, encode]
  rw [unchain _ _ firstBelow, unchain _ _ secondBelow]
  calc x % n + n * (x / n % n) + n * n * (x / n / n % n)
      = x % n + n * (x / n % n + n * (x / n / n % n)) := by ring
    _ = x % n + n * (x / n % (n * n)) := by rw [← Nat.mod_mul]
    _ = x % (n * (n * n)) := by rw [← Nat.mod_mul]
    _ = x % (n * n * n) := by rw [Nat.mul_assoc]

theorem encode_of_lt {x : Nat} (below : x < n) : encode n x = (x, x, x) := by
  have low : x % n = x := Nat.mod_eq_of_lt below
  have high : x / n = 0 := Nat.div_eq_of_lt below
  simp [encode, low, high]

theorem decode_repeat {digit : Nat} (below : digit < n) : decode n (digit, digit, digit) = digit := by
  have cancel : n - digit + digit = n := by omega
  simp [decode, cancel]

end ChainedDigits
