import Parley.Proofs.Conversation.Frame
import Parley.Proofs.Conversation.Past
import Parley.Proofs.Sample

/-!
The keys of the key agreement, told from the past. Main statement: our two latest key pairs are the
last two that were rotated in since the last disconnection, and their number counts those pairs; the
peer's two latest public values are the last two that were accepted since the last fall back to
setup or further; the generation counts the times it was bumped, through all falls.
-/

namespace Parley

-- The public values of the peer, with the number of the latest.
structure TheirKeys where
  keyId : UInt32
  publicValue : Option PublicValue
  oldPublicValue : Option PublicValue

def SessionMaterial.theirs (material : SessionMaterial) : TheirKeys :=
  ⟨material.theirKeyId, material.theirPublic, material.theirOldPublic⟩

-- The keys that are left of pairs taken into use, the latest first.
def OwnKeys.ofPairs (pairs : List DhKeyPair) : OwnKeys :=
  ⟨UInt32.ofNat pairs.length, pairs[0]?, pairs[1]?⟩

theorem OwnKeys.ofPairs_cons (pair : DhKeyPair) (pairs : List DhKeyPair) :
    OwnKeys.ofPairs (pair :: pairs) =
      ⟨(OwnKeys.ofPairs pairs).keyId + 1, some pair, (OwnKeys.ofPairs pairs).pair⟩ := by
  simp [OwnKeys.ofPairs, UInt32.ofNat_add]

def TheirKeys.ofValues (values : List (UInt32 × PublicValue)) : TheirKeys :=
  ⟨values[0]?.elim 0 (·.1), values[0]?.map (·.2), values[1]?.map (·.2)⟩

namespace Conversation

variable {α ρ : Type}

def Call.isDisconnection : Call α ρ → Bool
  | .forceDisconnect => true
  | _ => false

def Call.pair? : Call α ρ → Option DhKeyPair
  | .rotate pair => some pair
  | _ => none

def Call.theirValue? : Call α ρ → Option (UInt32 × PublicValue)
  | .acceptTheirPublic keyId value => some (keyId, value)
  | _ => none

def Call.isBump : Call α ρ → Bool
  | .bumpGeneration => true
  | _ => false

-- A fall back to setup does not count here: our own keys outlast it.
def Past.sinceDisconnection (past : Past α ρ) : Past α ρ :=
  past.takeWhile fun step => !step.1.isDisconnection

-- Our key pairs, the latest first.
def Past.pairs (past : Past α ρ) : List DhKeyPair :=
  past.filterMap fun step => step.1.pair?

-- The peer's public values with their numbers, the latest first.
def Past.theirValues (past : Past α ρ) : List (UInt32 × PublicValue) :=
  past.filterMap fun step => step.1.theirValue?

def Past.bumps (past : Past α ρ) : Nat :=
  past.countP fun step => step.1.isBump

section Frame

variable (c : Conversation α ρ) (call : Call α ρ)

theorem own_perform : (c.perform call).after.own =
    match call with
    | .rotate pair => ⟨c.own.keyId + 1, some pair, c.own.pair⟩
    | .forceDisconnect => .empty
    | _ => c.own := by
  rw [after_perform]
  cases call <;> rfl

theorem theirs_perform : (c.perform call).after.material.theirs =
    match call with
    | .acceptTheirPublic keyId value => ⟨keyId, some value, c.material.theirPublic⟩
    | .forceSetup | .forceDisconnect => ⟨0, none, none⟩
    | _ => c.material.theirs := by
  cases call with
  | setSessionKeys slot keys =>
    exact congrArg (·.material.theirs) (c.after_setSessionKeys slot keys)
  | onSessionKeys slot asked =>
    exact congrArg (·.material.theirs) (c.after_onSessionKeys slot asked)
  | saveMacKey key => exact congrArg (·.material.theirs) (c.after_saveMacKey key)
  | setPresharedSecret secret =>
    exact congrArg (·.material.theirs) (c.after_setPresharedSecret secret)
  | _ => exact congrArg (·.material.theirs) (c.after_perform _)

theorem generation_perform : (c.perform call).after.generation =
    match call with
    | .bumpGeneration => c.generation + 1
    | _ => c.generation :=
  congrArg (·.generation) (c.after_perform call)

end Frame

theorem Past.sinceDisconnection_cons (call : Call α ρ) (answer : Except Refusal (Answer α))
    (earlier : Past α ρ) :
    Past.sinceDisconnection ((call, answer) :: earlier) =
      if call.isDisconnection then [] else (call, answer) :: earlier.sinceDisconnection := by
  rw [Past.sinceDisconnection, List.takeWhile_cons]
  cases call.isDisconnection <;> rfl

theorem Past.bumps_cons (call : Call α ρ) (answer : Except Refusal (Answer α))
    (earlier : Past α ρ) :
    Past.bumps ((call, answer) :: earlier) = earlier.bumps + if call.isBump then 1 else 0 :=
  List.countP_cons

-- The keys are what the past says.
structure Rotated (past : Past α ρ) (c : Conversation α ρ) : Prop where
  own : c.own = .ofPairs past.sinceDisconnection.pairs
  theirs : c.material.theirs = .ofValues past.sinceFall.theirValues
  generation : c.generation = UInt32.ofNat past.bumps

theorem rotated_fresh (id : Identity) (limits : Limits) :
    Rotated [] (fresh id limits : Conversation α ρ) where
  own := rfl
  theirs := rfl
  generation := rfl

theorem Rotated.perform {past : Past α ρ} {c : Conversation α ρ} (h : Rotated past c)
    (call : Call α ρ) :
    Rotated ((call, (c.perform call).answer) :: past) (c.perform call).after where
  own := by
    rw [own_perform, Past.sinceDisconnection_cons]
    cases call with
    | rotate pair =>
      have hnext := OwnKeys.ofPairs_cons pair past.sinceDisconnection.pairs
      rw [← h.own] at hnext
      exact hnext.symm
    | forceDisconnect => rfl
    | _ => exact h.own
  theirs := by
    rw [theirs_perform, Past.sinceFall_cons]
    cases call with
    | acceptTheirPublic keyId value =>
      have hold : c.material.theirPublic = past.sinceFall.theirValues[0]?.map (·.2) :=
        congrArg (·.publicValue) h.theirs
      simp only [hold]
      rfl
    | forceSetup => rfl
    | forceDisconnect => rfl
    | _ => exact h.theirs
  generation := by
    rw [generation_perform, h.generation, Past.bumps_cons]
    cases call with
    | bumpGeneration => exact (UInt32.ofNat_add _ 1).symm
    | _ => rfl

theorem Lived.rotated {id : Identity} {limits : Limits} {past : Past α ρ} {c : Conversation α ρ}
    (h : Lived id limits past c) : Rotated past c := by
  induction h with
  | fresh => exact rotated_fresh id limits
  | perform _ call ih => exact ih.perform call

-- Whatever was asked of a conversation, its keys and its generation are what its past says; and
-- nothing but a rotation, a new public value, a bump and the falls changes any of them, whichever
-- session keys are put in.
theorem keys_of_past (id : Identity) (limits : Limits) (calls : List (Call α ρ)) :
    let c := ((fresh id limits).performAll calls).after
    let past : Past α ρ := History.past perform (fresh id limits) calls
    let ours := past.sinceDisconnection.pairs
    let theirs := past.sinceFall.theirValues
    (c.own.pair = ours[0]? ∧ c.own.oldPair = ours[1]? ∧
      c.own.keyId.toNat = ours.length % UInt32.size) ∧
    (c.material.theirPublic = theirs[0]?.map (·.2) ∧
      c.material.theirOldPublic = theirs[1]?.map (·.2) ∧
      c.material.theirKeyId = theirs[0]?.elim 0 (·.1)) ∧
    c.generation.toNat = past.bumps % UInt32.size ∧
    (∀ call : Call α ρ, (∀ pair, call ≠ .rotate pair) → call ≠ .forceDisconnect →
      (c.perform call).after.own = c.own) ∧
    (∀ call : Call α ρ, (∀ keyId value, call ≠ .acceptTheirPublic keyId value) →
      call.isFall = false → (c.perform call).after.material.theirs = c.material.theirs) ∧
    (∀ call : Call α ρ, call ≠ .bumpGeneration →
      (c.perform call).after.generation = c.generation) ∧
    (∀ slot keys, let d := (c.setSessionKeys slot keys).after
      d.own = c.own ∧ d.material.theirs = c.material.theirs ∧ d.generation = c.generation) := by
  intro c past ours theirs
  have hrotated : Rotated past c := (lived_performAll id limits calls).rotated
  refine ⟨⟨congrArg (·.pair) hrotated.own, congrArg (·.oldPair) hrotated.own, ?_⟩,
    ⟨congrArg (·.publicValue) hrotated.theirs, congrArg (·.oldPublicValue) hrotated.theirs,
      congrArg (·.keyId) hrotated.theirs⟩, ?_, ?_, ?_, ?_, ?_⟩
  · rw [hrotated.own]
    exact UInt32.toNat_ofNat'
  · rw [hrotated.generation]
    exact UInt32.toNat_ofNat'
  · intro call hrotate hdisconnect
    rw [own_perform]
    cases call with
    | rotate pair => exact absurd rfl (hrotate pair)
    | forceDisconnect => exact absurd rfl hdisconnect
    | _ => rfl
  · intro call haccept hfall
    rw [theirs_perform]
    cases call with
    | acceptTheirPublic keyId value => exact absurd rfl (haccept keyId value)
    | forceSetup => cases hfall
    | forceDisconnect => cases hfall
    | _ => rfl
  · intro call hbump
    rw [generation_perform]
    cases call with
    | bumpGeneration => exact absurd rfl hbump
    | _ => rfl
  · intro slot keys d
    have hd : d = _ := c.after_setSessionKeys slot keys
    rw [hd]
    exact ⟨rfl, rfl, rfl⟩

section Agreement

open Sample (alice pairOf)

-- Two pairs before a fall back to setup and one after it; one public value before it, two after.
def agreement : List (Call Nat Unit) :=
  [.rotate (pairOf 1), .rotate (pairOf 2), .acceptTheirPublic 7 ⟨#[7]⟩, .bumpGeneration,
    .forceSetup, .rotate (pairOf 3), .acceptTheirPublic 8 ⟨#[8]⟩, .acceptTheirPublic 9 ⟨#[9]⟩,
    .bumpGeneration]

theorem keys_of_past_agreement :
    let c := ((fresh alice .tiny : Conversation Nat Unit).performAll agreement).after
    c.own.pair = some (pairOf 3) ∧ c.own.oldPair = some (pairOf 2) ∧ c.own.keyId.toNat = 3 ∧
      c.material.theirPublic = some ⟨#[9]⟩ ∧ c.material.theirOldPublic = some ⟨#[8]⟩ ∧
      c.material.theirKeyId = 9 ∧ c.generation.toNat = 2 ∧
      (c.perform .forceSetup).after.own = c.own ∧
      (c.perform .takeSavedMacKeys).after.material.theirs = c.material.theirs ∧
      (c.perform .forceDisconnect).after.generation = c.generation := by
  intro c
  obtain ⟨⟨hpair, hold, hnumber⟩, ⟨htheir, htheirOld, htheirNumber⟩, hgeneration, hown, htheirs,
    hbump, _⟩ := keys_of_past alice .tiny agreement
  exact ⟨hpair, hold, hnumber, htheir, htheirOld, htheirNumber, hgeneration,
    hown .forceSetup (fun _ h => nomatch h) (fun h => nomatch h),
    htheirs .takeSavedMacKeys (fun _ _ h => nomatch h) rfl,
    hbump .forceDisconnect (fun h => nomatch h)⟩

end Agreement

end Conversation

end Parley
