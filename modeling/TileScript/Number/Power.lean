/-!
Powers of two and of ten as natural numbers.
-/

namespace TileScript

def twoPow (n : Nat) : Nat := Nat.pow 2 n

def tenPow (n : Nat) : Nat := Nat.pow 10 n

end TileScript
