/-!
Bounds on what a registry and its conversations may hold. A call that would grow past a bound is
refused instead.
-/

namespace Parley

-- Bounds of one conversation. The last two count bytes.
structure Limits where
  maxFingerprints : Nat
  maxSavedMacKeysLength : Nat
  maxPresharedSecretLength : Nat
deriving DecidableEq

namespace Limits

def production : Limits := ⟨4096, 1024 * 1024, 64 * 1024⟩

def testing : Limits := ⟨64, 4 * 1024, 1024⟩

-- Room for two fingerprints and two MAC keys.
def tiny : Limits := ⟨2, 40, 16⟩

end Limits

-- Every conversation of a registry gets the same bounds.
structure Config where
  maxContexts : Nat := 1024 * 1024
  limits : Limits := Limits.production
deriving DecidableEq

end Parley
