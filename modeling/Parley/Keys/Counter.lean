/-!
The counter that is sent with each encrypted message: eight bytes, the most significant first.
-/

namespace Parley

structure Counter where
  bytes : Vector UInt8 8
deriving DecidableEq

namespace Counter

def zero : Counter := ⟨Vector.replicate 8 0⟩

-- One more on digits that begin with the least significant. A byte that wraps to zero passes the
-- one on to the next; the first that does not ends it.
def increment : List UInt8 → List UInt8
  | [] => []
  | byte :: higher =>
    let next := byte + 1
    if next = 0 then next :: increment higher else next :: higher

@[simp] theorem length_increment (digits : List UInt8) :
    (increment digits).length = digits.length := by
  induction digits with
  | nil => rfl
  | cons byte higher ih =>
    by_cases h : byte + 1 = 0
    · simp [increment, h, ih]
    · simp [increment, h]

def next (counter : Counter) : Counter :=
  ⟨⟨(increment counter.bytes.toList.reverse).reverse.toArray, by simp⟩⟩

-- The number that the bytes stand for.
def value (counter : Counter) : Nat :=
  counter.bytes.toList.foldl (fun n byte => 256 * n + byte.toNat) 0

end Counter

end Parley
