/-!
Powers of two and of ten: the bounds of words of some bits, and the weights of decimal digits.
-/
namespace TypeBridge

def twoTo (bits : Nat) : Nat := Nat.pow 2 bits

def tenTo (digits : Nat) : Nat := Nat.pow 10 digits

theorem twoTo_zero : twoTo 0 = 1 := rfl

theorem twoTo_succ (bits : Nat) : twoTo (bits + 1) = twoTo bits * 2 := rfl

theorem twoTo_pos (bits : Nat) : 0 < twoTo bits := Nat.pow_pos (by decide)

theorem twoTo_add (first second : Nat) : twoTo (first + second) = twoTo first * twoTo second :=
  Nat.pow_add 2 first second

theorem tenTo_zero : tenTo 0 = 1 := rfl

theorem tenTo_succ (digits : Nat) : tenTo (digits + 1) = tenTo digits * 10 := rfl

theorem tenTo_pos (digits : Nat) : 0 < tenTo digits := Nat.pow_pos (by decide)

theorem tenTo_le {fewer more : Nat} (order : fewer ≤ more) : tenTo fewer ≤ tenTo more :=
  Nat.pow_le_pow_right (by decide) order

theorem tenTo_add (first second : Nat) : tenTo (first + second) = tenTo first * tenTo second :=
  Nat.pow_add 10 first second

end TypeBridge
