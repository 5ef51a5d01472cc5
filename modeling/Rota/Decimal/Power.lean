/-!
Powers of the two bases in which numbers are bounded and written.
-/

namespace Rota.Decimal

def twoTo (exponent : Nat) : Nat := Nat.pow 2 exponent

def tenTo (exponent : Nat) : Nat := Nat.pow 10 exponent

/-- Numbers below this fit into 64 bits. -/
def wordLimit : Nat := twoTo 64

/-- Signed numbers of 64 bits lie below this, and not below its negative. -/
def signedLimit : Nat := twoTo 63

end Rota.Decimal
