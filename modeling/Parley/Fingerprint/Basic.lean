import Std.Data.ExtTreeMap

/-!
The digest that stands for one long-term public key of a peer.
-/

namespace Parley

structure Fingerprint where
  bytes : Vector UInt8 20
deriving DecidableEq

namespace Fingerprint

-- Byte by byte from the left.
instance : Ord Fingerprint where
  compare := compareOn fun f => f.bytes.toList

instance : Std.TransOrd Fingerprint :=
  inferInstanceAs (Std.TransCmp (compareOn fun f : Fingerprint => f.bytes.toList))

theorem eq_of_compare_eq {a b : Fingerprint} (h : compare a b = .eq) : a = b := by
  have hbytes : compare a.bytes.toList b.bytes.toList = .eq := h
  rw [Std.LawfulEqOrd.compare_eq_iff_eq] at hbytes
  cases a
  cases b
  exact congrArg mk (Vector.toList_inj.mp hbytes)

instance : Std.LawfulEqOrd Fingerprint where
  eq_of_compare := eq_of_compare_eq

end Fingerprint

end Parley
