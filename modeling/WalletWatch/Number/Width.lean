/-!
# Numbers of fixed width

What fits into a machine word. The bounds are written out as numerals.
-/

namespace WalletWatch

namespace Width

def fits64 (n : Nat) : Bool :=
  n < 0x10000000000000000

def fitsSigned64 (n : Int) : Bool :=
  -0x8000000000000000 ≤ n && n < 0x8000000000000000

def fitsSigned32 (n : Int) : Bool :=
  -0x80000000 ≤ n && n < 0x80000000

def signed64 (n : Nat) : Int :=
  (n : Int).bmod 0x10000000000000000

def signed32 (n : Int) : Int :=
  n.bmod 0x100000000

end Width

end WalletWatch
