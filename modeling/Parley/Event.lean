import Parley.Fingerprint.Text
import Parley.Identity

/-!
What calls do outside: lines for the log and runs of release functions. An event is a value; its
level, sentence and fields are functions of it, and no field holds key material.
-/

namespace Parley

inductive Event where
  | newContext (id : Identity)
  | newFingerprint (id : Identity) (fingerprint : Fingerprint)
  | connected (id : Identity) (fingerprint : Fingerprint)
  | forcedToSetup (id : Identity)
  | forcedToUnconnected (id : Identity)
  | contextDestroyed (id : Identity)
  -- a removal was refused because the fingerprint backs a live session
  | activeFingerprintKept (id : Identity) (fingerprint : Fingerprint)
  -- a removal was refused because of the state
  | contextKept (id : Identity) (state : ConnectionState)
deriving DecidableEq

inductive Level where
  | debug
  | warn
deriving DecidableEq

namespace Event

def level : Event → Level
  | activeFingerprintKept _ _ | contextKept _ _ => .warn
  | newContext _ | newFingerprint _ _ | connected _ _ | forcedToSetup _ | forcedToUnconnected _
  | contextDestroyed _ => .debug

def message : Event → String
  | newContext _ => "new context"
  | newFingerprint _ _ => "new fingerprint"
  | connected _ _ => "connected"
  | forcedToSetup _ => "forced to setup"
  | forcedToUnconnected _ => "forced to unconnected"
  | contextDestroyed _ => "context destroyed"
  | activeFingerprintKept _ _ => "refusing to forget the active fingerprint"
  | contextKept _ _ => "refusing to forget a context that is not unconnected"

-- The identity of the conversation that the event is about.
def identity : Event → Identity
  | newContext id | newFingerprint id _ | connected id _ | forcedToSetup id
  | forcedToUnconnected id | contextDestroyed id | activeFingerprintKept id _
  | contextKept id _ => id

-- The labelled texts of the event.
def fields (event : Event) : List (String × String) :=
  ("context", event.identity.display) :: match event with
    | newFingerprint _ f | connected _ f | activeFingerprintKept _ f => [("fingerprint", f.display)]
    | contextKept _ state => [("state", state.description)]
    | newContext _ | forcedToSetup _ | forcedToUnconnected _ | contextDestroyed _ => []

end Event

-- `ρ` are the release functions that applications bring, `α` the data they take.
inductive Effect (α ρ : Type) where
  | log (event : Event)
  | release (function : ρ) (data : α)
deriving DecidableEq

namespace Effect

variable {α ρ : Type}

def event? : Effect α ρ → Option Event
  | log event => some event
  | release _ _ => none

def released? : Effect α ρ → Option (ρ × α)
  | log _ => none
  | release function data => some (function, data)

-- The log lines among the effects, in order.
def events (effects : List (Effect α ρ)) : List Event :=
  effects.filterMap event?

-- The runs of release functions among the effects, in order.
def releases (effects : List (Effect α ρ)) : List (ρ × α) :=
  effects.filterMap released?

@[simp] theorem events_append (effects more : List (Effect α ρ)) :
    events (effects ++ more) = events effects ++ events more :=
  List.filterMap_append

@[simp] theorem releases_append (effects more : List (Effect α ρ)) :
    releases (effects ++ more) = releases effects ++ releases more :=
  List.filterMap_append

end Effect

end Parley
