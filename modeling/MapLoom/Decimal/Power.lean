set_option autoImplicit false

/-!
# Powers and machine words

Powers of two and ten as natural numbers, and the integers that machine words hold.
-/
namespace MapLoom

def twoTo (n : Nat) : Nat := Nat.pow 2 n

def tenTo (n : Nat) : Nat := Nat.pow 10 n

/-- Whether an integer fits a word of so many bits with a sign. -/
def fitsSigned (bits : Nat) (n : Int) : Bool :=
  -(twoTo (bits - 1) : Int) ≤ n ∧ n < (twoTo (bits - 1) : Int)

def fitsUnsigned (bits : Nat) (n : Int) : Bool := 0 ≤ n ∧ n < (twoTo bits : Int)

end MapLoom
