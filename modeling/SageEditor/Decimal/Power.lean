/-
Powers of the two bases.

* `pow2`, `pow10` — the powers of two and of ten.
-/

namespace SageEditor

def pow2 (k : Nat) : Nat := Nat.pow 2 k

def pow10 (k : Nat) : Nat := Nat.pow 10 k

end SageEditor
