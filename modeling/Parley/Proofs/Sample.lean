import Parley.Fingerprint.Basic
import Parley.Identity
import Parley.Keys.Agreement
import Parley.Keys.Table

/-!
Peers, devices and keys for the concrete cases that stand beside general statements.
-/

namespace Parley.Sample

-- The one that `me` knows by a name.
def peer (name : String) : Identity := ⟨name, "me", "xmpp"⟩

def alice : Identity := peer "alice"

def bob : Identity := peer "bob"

def carol : Identity := peer "carol"

-- Two identities that are displayed alike, and a third with the name of one of them.
def slashInUsername : Identity := peer "ann/work"

def slashInAccount : Identity := ⟨"ann", "work/me", "xmpp"⟩

def accented : Identity := ⟨"ann", "zoë", "xmpp"⟩

-- A fingerprint that is one byte all over.
def device (n : UInt8) : Fingerprint := ⟨Vector.replicate 20 n⟩

def older : Fingerprint := device 1

def newer : Fingerprint := device 2

def newest : Fingerprint := device 3

def pairOf (n : UInt8) : DhKeyPair := ⟨5, #[n], ⟨#[n, n]⟩⟩

-- Four keys that are one byte each, no two alike.
def secretsOf (n : UInt8) : SessionSecrets :=
  ⟨Vector.replicate 16 n, Vector.replicate 16 (n + 1), Vector.replicate 20 (n + 2),
    Vector.replicate 20 (n + 3)⟩

def keysOf (n : UInt8) : SessionKeys := .fresh (secretsOf n)

def here : KeySlot := ⟨.current, .current⟩

def there : KeySlot := ⟨.previous, .current⟩

end Parley.Sample
