import Parley.Proofs.Registry.Creation
import Parley.Proofs.Registry.Report
import Parley.Proofs.Sample

/-!
What is left of a conversation that is forced to fall back. Main statement: all that was learnt with
the peer is as in a fresh conversation, and all else is as it was; so what was wiped cannot be told
from anything that happens afterwards.
-/

namespace Parley

namespace Conversation

variable {α ρ : Type}

-- All of a conversation but its state, the pinned fingerprint and what was learnt with the peer.
structure Remains (α ρ : Type) where
  id : Identity
  limits : Limits
  known : KnownFingerprints
  own : OwnKeys
  generation : UInt32
  lastSent : UInt64
  offer : Offer
  attachment : Option (Attachment α ρ)

def remains (c : Conversation α ρ) : Remains α ρ where
  id := c.id
  limits := c.limits
  known := c.known
  own := c.own
  generation := c.generation
  lastSent := c.lastSent
  offer := c.offer
  attachment := c.attachment

namespace Remains

-- A disconnection takes our own keys, too.
def disowned (kept : Remains α ρ) : Remains α ρ :=
  { kept with own := .empty }

-- A fresh conversation in a lower state that was given the remains.
def restored (kept : Remains α ρ) (state : ConnectionState) : Conversation α ρ :=
  { (fresh kept.id kept.limits : Conversation α ρ) with
    state := state
    known := kept.known
    own := kept.own
    generation := kept.generation
    lastSent := kept.lastSent
    offer := kept.offer
    attachment := kept.attachment }

end Remains

-- Nothing of a session, and nothing that was learnt with the peer.
structure Wiped (c : Conversation α ρ) : Prop where
  pinned : c.pinned = (fresh c.id c.limits : Conversation α ρ).pinned
  active : c.active? = none
  material : c.material = (fresh c.id c.limits : Conversation α ρ).material
  keys (slot : KeySlot) : c.material.keys.get slot = none

theorem wiped_restored (kept : Remains α ρ) (state : ConnectionState) :
    (kept.restored state).Wiped where
  pinned := rfl
  active := by
    have hpinned : (kept.restored state).pinned = none := rfl
    simp [active?, hpinned]
  material := rfl
  keys slot := SessionKeyTable.get_empty slot

variable (c : Conversation α ρ)

-- The reply depends on the remains alone, and tells nothing but the identity.
theorem perform_forceSetup : c.perform .forceSetup =
    .done (c.remains.restored .setup) .done [.log (.forcedToSetup c.remains.id)] := rfl

theorem perform_forceDisconnect : c.perform .forceDisconnect =
    .done (c.remains.disowned.restored .unconnected) .done
      [.log (.forcedToSetup c.remains.disowned.id),
        .log (.forcedToUnconnected c.remains.disowned.id)] := rfl

variable {c} {d : Conversation α ρ} {call : Call α ρ}

theorem perform_forceSetup_congr (h : c.remains = d.remains) :
    c.perform .forceSetup = d.perform .forceSetup := by
  rw [perform_forceSetup, perform_forceSetup, h]

theorem perform_forceDisconnect_congr (h : c.remains.disowned = d.remains.disowned) :
    c.perform .forceDisconnect = d.perform .forceDisconnect := by
  rw [perform_forceDisconnect, perform_forceDisconnect, h]

-- What comes to the same at first comes to the same for good.
theorem performAll_cons_congr (h : c.perform call = d.perform call) (further : List (Call α ρ)) :
    c.performAll (call :: further) = d.performAll (call :: further) := by
  simp only [performAll, History.run, h]

end Conversation

namespace Registry

variable {α ρ : Type} {id : Identity} {c d : Conversation α ρ} {call : Conversation.Call α ρ}

theorem live_cons_congr (r : Registry α ρ) (hid : id.validated = .ok id)
    (h : c.perform call = d.perform call) (further : List (Call α ρ)) :
    (r.put id c).live (.onContext id call :: further) =
      (r.put id d).live (.onContext id call :: further) := by
  have hput (last : Conversation α ρ) : (r.put id last).put id = r.put id :=
    funext fun _ => put_put _
  have hfirst :
      (r.put id c).report (.onContext id call) = (r.put id d).report (.onContext id call) := by
    simp only [report, perform, onContext_of_found hid (get?_put_self r id _), h, hput]
    rfl
  simp only [live, History.run, hfirst]

-- Whatever a conversation has been through: forced back to its setup, it has its remains and is
-- else as if it were fresh, and disconnected, it lacks our own keys as well. Two conversations with
-- the same remains are the same for good once they are forced back, alone or in a registry: every
-- answer, every effect and every later state is.
theorem forced_wipes (c : Conversation α ρ) :
    let setup := (c.perform .forceSetup).after
    let parted := (c.perform .forceDisconnect).after
    (setup.state = .setup ∧ setup.Wiped ∧ setup.remains = c.remains) ∧
    (parted.state = .unconnected ∧ parted.Wiped ∧
      parted.own = (Conversation.fresh c.id c.limits : Conversation α ρ).own ∧
      parted.remains = c.remains.disowned) ∧
    ∀ d : Conversation α ρ,
      (c.remains = d.remains →
        (∀ further, c.performAll (.forceSetup :: further) =
          d.performAll (.forceSetup :: further)) ∧
        ∀ (r : Registry α ρ) (id : Identity), id.validated = .ok id → ∀ further,
          (r.put id c).live (.onContext id .forceSetup :: further) =
            (r.put id d).live (.onContext id .forceSetup :: further)) ∧
      (c.remains.disowned = d.remains.disowned →
        (∀ further, c.performAll (.forceDisconnect :: further) =
          d.performAll (.forceDisconnect :: further)) ∧
        ∀ (r : Registry α ρ) (id : Identity), id.validated = .ok id → ∀ further,
          (r.put id c).live (.onContext id .forceDisconnect :: further) =
            (r.put id d).live (.onContext id .forceDisconnect :: further)) := by
  intro setup parted
  have hsetup : setup = c.remains.restored .setup := rfl
  have hparted : parted = c.remains.disowned.restored .unconnected := rfl
  refine ⟨⟨rfl, ?_, rfl⟩, ⟨rfl, ?_, rfl, rfl⟩, fun d => ⟨fun hkept => ?_, fun hkept => ?_⟩⟩
  · rw [hsetup]
    exact Conversation.wiped_restored _ _
  · rw [hparted]
    exact Conversation.wiped_restored _ _
  · have hsame := Conversation.perform_forceSetup_congr hkept
    exact ⟨Conversation.performAll_cons_congr hsame,
      fun r id hid further => live_cons_congr r hid hsame further⟩
  · have hsame := Conversation.perform_forceDisconnect_congr hkept
    exact ⟨Conversation.performAll_cons_congr hsame,
      fun r id hid further => live_cons_congr r hid hsame further⟩

section Estrangement

open Sample (alice older pairOf here keysOf)

-- Both times there is a fingerprint, a pair of our own and a last message; but only once is there a
-- session with keys of which one was used, a preshared secret, and a MAC key to reveal.
def intimate : List (Conversation.Call Nat Unit) :=
  [.addFingerprint older, .rotate (pairOf 1), .forceSetup, .markConnected older,
    .acceptTheirPublic 3 ⟨#[4]⟩, .setSessionKeys here (some (keysOf 1)),
    .onSessionKeys here .useRecvMac, .saveMacKey (Vector.replicate 20 5),
    .setPresharedSecret (some #[6]), .setLastMessage #[7, 8] 9 true]

def distant : List (Conversation.Call Nat Unit) :=
  [.addFingerprint older, .rotate (pairOf 1), .setLastMessage #[] 9 false]

theorem forced_wipes_estrangement :
    let c : Conversation Nat Unit := ((Conversation.fresh alice .tiny).performAll intimate).after
    let d : Conversation Nat Unit := ((Conversation.fresh alice .tiny).performAll distant).after
    let later : List (Conversation.Call Nat Unit) :=
      [.onSessionKeys here .useRecvMac, .takeSavedMacKeys, .markConnected older]
    c.state = .connected ∧ d.state = .unconnected ∧ c.material ≠ d.material ∧
      c.remains = d.remains ∧ (c.perform .forceSetup).after.Wiped ∧
      (c.perform .forceDisconnect).after.own = .empty ∧
      (c.performAll (.forceSetup :: later)).answers =
        [.ok .done, .ok (.sessionKeys none), .ok (.bytes #[]), .ok .done] ∧
      (d.performAll (.forceSetup :: later)).answers =
        [.ok .done, .ok (.sessionKeys none), .ok (.bytes #[]), .ok .done] := by
  intro c d later
  obtain ⟨⟨_, hwiped, _⟩, ⟨_, _, hown, _⟩, hsame⟩ := forced_wipes c
  have hkept : c.remains = d.remains := rfl
  have hruns := ((hsame d).1 hkept).1 later
  have hanswers : (d.performAll (.forceSetup :: later)).answers =
      [.ok .done, .ok (.sessionKeys none), .ok (.bytes #[]), .ok .done] := by decide +kernel
  refine ⟨by decide +kernel, by decide +kernel, by decide +kernel, hkept, hwiped, hown, ?_,
    hanswers⟩
  rw [hruns]
  exact hanswers

end Estrangement

end Registry

end Parley
