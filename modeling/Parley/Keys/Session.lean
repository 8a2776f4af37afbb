import Parley.Keys.Counter
import Parley.Text.Record

/-!
The symmetric keys of one session: two keys to encrypt, two to authenticate, a counter each way, and
for each authentication key whether it was ever used. A used one may be revealed once the session is
over, an unused one must not.
-/

namespace Parley

abbrev EncryptionKey := Vector UInt8 16

abbrev macKeyLength : Nat := 20

abbrev MacKey := Vector UInt8 macKeyLength

-- What is derived from one of our keys and one of theirs.
structure SessionSecrets where
  sendEnc : EncryptionKey
  recvEnc : EncryptionKey
  sendMac : MacKey
  recvMac : MacKey
deriving DecidableEq

structure SessionKeys where
  secrets : SessionSecrets
  sendCounter : Counter
  recvCounter : Counter
  sendMacUsed : Bool
  recvMacUsed : Bool
deriving DecidableEq

namespace SessionKeys

def fresh (secrets : SessionSecrets) : SessionKeys :=
  ⟨secrets, .zero, .zero, false, false⟩

-- The authentication keys that may be revealed, the sending one first.
def usedMacKeys (keys : SessionKeys) : List MacKey :=
  (if keys.sendMacUsed then [keys.secrets.sendMac] else [])
    ++ (if keys.recvMacUsed then [keys.secrets.recvMac] else [])

-- Diagnostics show which keys were used, never a key.
def diagnostic (keys : SessionKeys) : String :=
  Text.record "SessionKeys"
    [("send_mac_used", Text.truth keys.sendMacUsed), ("recv_mac_used", Text.truth keys.recvMacUsed)]
    .partly

-- What can be asked of the keys of a session.
inductive Call where
  | useSendMac
  | useRecvMac
  | nextSendCounter
  | setRecvCounter (counter : Counter)
deriving DecidableEq

inductive Answer where
  | done
  | macKey (key : MacKey)
  | counter (counter : Counter)
deriving DecidableEq

-- Handing out an authentication key marks it as used; handing out a counter advances it first.
def perform (keys : SessionKeys) : Call → Answer × SessionKeys
  | .useSendMac => (.macKey keys.secrets.sendMac, { keys with sendMacUsed := true })
  | .useRecvMac => (.macKey keys.secrets.recvMac, { keys with recvMacUsed := true })
  | .nextSendCounter =>
    let next := keys.sendCounter.next
    (.counter next, { keys with sendCounter := next })
  | .setRecvCounter counter => (.done, { keys with recvCounter := counter })

theorem length_usedMacKeys_le (keys : SessionKeys) : keys.usedMacKeys.length ≤ 2 := by
  unfold usedMacKeys
  cases keys.sendMacUsed <;> cases keys.recvMacUsed <;> simp

@[simp] theorem perform_secrets (keys : SessionKeys) (call : Call) :
    (keys.perform call).2.secrets = keys.secrets := by
  cases call <;> rfl

end SessionKeys

end Parley
