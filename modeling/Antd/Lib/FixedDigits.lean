import Mathlib

/-! Fixed-width big-endian numerals: the `width` lowest digits of a number in
base `base`, the most significant first and padded with zeros. A number below
`base ^ width` and its numeral of that width determine each other
(`ofDigits_toDigits`, `toDigits_ofDigits`). -/

namespace FixedDigits

variable {base : Nat}

def ofDigits (base : Nat) (digits : List Nat) : Nat :=
  digits.foldl (fun value digit => value * base + digit) 0

def toDigits (base : Nat) : Nat → Nat → List Nat
  | 0, _ => []
  | width + 1, n => toDigits base width (n / base) ++ [n % base]

theorem toDigits_succ (width n : Nat) :
    toDigits base (width + 1) n = toDigits base width (n / base) ++ [n % base] := rfl

@[simp] theorem ofDigits_nil : ofDigits base [] = 0 := rfl

@[simp] theorem ofDigits_append_singleton (digits : List Nat) (digit : Nat) :
    ofDigits base (digits ++ [digit]) = ofDigits base digits * base + digit := by
  simp [ofDigits, List.foldl_append]

@[simp] theorem length_toDigits (width n : Nat) : (toDigits base width n).length = width := by
  induction width generalizing n with
  | zero => rfl
  | succ width ih => simp [toDigits, ih]

@[simp] theorem toDigits_zero (width : Nat) : toDigits base width 0 = List.replicate width 0 := by
  induction width with
  | zero => rfl
  | succ width ih => rw [toDigits, Nat.zero_div, ih, Nat.zero_mod, List.replicate_succ']

theorem toDigits_lt (positive : 0 < base) (width n : Nat) :
    ∀ digit ∈ toDigits base width n, digit < base := by
  induction width generalizing n with
  | zero => intro digit member; cases member
  | succ width ih =>
      intro digit member
      rcases List.mem_append.mp member with higher | last
      · exact ih (n / base) digit higher
      · rw [List.mem_singleton.mp last]
        exact Nat.mod_lt n positive

theorem ofDigits_toDigits (width n : Nat) :
    ofDigits base (toDigits base width n) = n % base ^ width := by
  induction width generalizing n with
  | zero => simp [toDigits, Nat.mod_one]
  | succ width ih =>
      rw [toDigits, ofDigits_append_singleton, ih, pow_succ', Nat.mod_mul]
      ring

theorem ofDigits_lt (digits : List Nat) (small : ∀ digit ∈ digits, digit < base) :
    ofDigits base digits < base ^ digits.length := by
  induction digits using List.reverseRecOn with
  | nil => simp
  | append_singleton digits digit ih =>
      have higher := ih fun other member => small other (List.mem_append_left _ member)
      have last := small digit (List.mem_append_right _ (List.mem_singleton_self _))
      rw [ofDigits_append_singleton, List.length_append, List.length_singleton, pow_succ]
      nlinarith

theorem toDigits_ofDigits (digits : List Nat) (small : ∀ digit ∈ digits, digit < base) :
    toDigits base digits.length (ofDigits base digits) = digits := by
  induction digits using List.reverseRecOn with
  | nil => rfl
  | append_singleton digits digit ih =>
      have higher := ih fun other member => small other (List.mem_append_left _ member)
      have last := small digit (List.mem_append_right _ (List.mem_singleton_self _))
      have positive : 0 < base := by omega
      have quotient : (ofDigits base digits * base + digit) / base = ofDigits base digits := by
        rw [Nat.add_comm, Nat.add_mul_div_right _ _ positive, Nat.div_eq_of_lt last, Nat.zero_add]
      have remainder : (ofDigits base digits * base + digit) % base = digit := by
        rw [Nat.add_comm, Nat.add_mul_mod_self_right, Nat.mod_eq_of_lt last]
      rw [List.length_append, List.length_singleton, toDigits, ofDigits_append_singleton,
        quotient, remainder, higher]

end FixedDigits
