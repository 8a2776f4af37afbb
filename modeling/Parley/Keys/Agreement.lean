import Parley.Text.Record

/-!
The key material of a key agreement: the public value of either side and our own key pair. The
arithmetic happens elsewhere; here the bytes are only kept. Diagnostics show lengths, never bytes.
-/

namespace Parley

-- The bytes of a big-endian number.
structure PublicValue where
  bytes : Array UInt8
deriving DecidableEq

def PublicValue.diagnostic (value : PublicValue) : String :=
  "PublicValue(" ++ Nat.repr value.bytes.size ++ " bytes)"

structure DhKeyPair where
  group : UInt32
  secret : Array UInt8
  publicValue : PublicValue
deriving DecidableEq

def DhKeyPair.diagnostic (pair : DhKeyPair) : String :=
  Text.record "DhKeypair"
    [("group_id", Nat.repr pair.group.toNat), ("public", pair.publicValue.diagnostic)] .partly

end Parley
