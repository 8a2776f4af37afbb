import Parley.Proofs.Conversation.Frame
import Parley.Proofs.Identity
import Parley.Proofs.Registry.Reachable
import Parley.Proofs.Sample

/-!
A registry as a sorted list of conversations. Main statement: whatever was asked of it, its
conversations stand in the order of their identities, each is found under its own identity and under
no other, all have the bounds of the registry, and there are never more of them than may be.
-/

namespace Parley

namespace Conversation

variable {α ρ : Type} {id : Identity} {limits : Limits} {c : Conversation α ρ}

theorem Reachable.id_eq (h : Reachable id limits c) : c.id = id := by
  refine h.keeps ?_ fun c call hc => (c.id_perform call).trans hc
  rfl

theorem Reachable.limits_eq (h : Reachable id limits c) : c.limits = limits := by
  refine h.keeps ?_ fun c call hc => (c.limits_perform call).trans hc
  rfl

end Conversation

namespace Registry

variable {α ρ : Type} {r : Registry α ρ} {id : Identity} {c d : Conversation α ρ} {config : Config}

section Size

theorem size_put_of_some (h : r.get? id = some c) : (r.put id d).size = r.size := by
  have hmem : r.contexts.contains id = true := by
    rw [Std.ExtTreeMap.contains_eq_isSome_getElem?]
    exact congrArg Option.isSome h
  rw [size, put, Std.ExtTreeMap.size_insert, if_pos hmem]
  rfl

theorem size_put_of_none (h : r.get? id = none) : (r.put id c).size = r.size + 1 := by
  have hfree : r.contexts.contains id = false := by
    rw [Std.ExtTreeMap.contains_eq_isSome_getElem?]
    exact congrArg Option.isSome h
  rw [size, put, Std.ExtTreeMap.size_insert, if_neg (Bool.eq_false_iff.mp hfree)]
  rfl

theorem size_drop_le (r : Registry α ρ) (id : Identity) : (r.drop id).size ≤ r.size :=
  Std.ExtTreeMap.size_erase_le

-- The registry holds no more than it may.
def Fits (r : Registry α ρ) : Prop := r.size ≤ r.config.maxContexts

theorem fits_empty : Fits (empty config : Registry α ρ) :=
  Nat.zero_le _

theorem Fits.put_of_some (h : r.Fits) (hget : r.get? id = some c) : (r.put id d).Fits := by
  rw [Fits, size_put_of_some hget]
  exact h

theorem Fits.drop (h : r.Fits) (id : Identity) : (r.drop id).Fits :=
  Nat.le_trans (size_drop_le r id) h

-- There is room for one more before a conversation is made.
theorem fits_put_of_room (hroom : r.isFull = false) (hget : r.get? id = none) :
    (r.put id c).Fits := by
  have hlt : ¬ r.config.maxContexts ≤ r.size := of_decide_eq_false hroom
  rw [Fits, size_put_of_none hget]
  change r.size + 1 ≤ r.config.maxContexts
  omega

theorem Fits.change {after : Registry α ρ} (h : r.Fits) (hchange : Change r after) :
    after.Fits := by
  cases hchange with
  | same => exact h
  | made _ _ hget hroom => exact fits_put_of_room hroom hget
  | asked _ hget => exact h.put_of_some hget
  | taken id => exact h.drop id
  | emptied => exact fits_empty

end Size

-- The conversations are a list in strict order, each under its own identity.
structure Orderly (config : Config) (r : Registry α ρ) : Prop where
  ascending : r.toList.Pairwise fun c d => c.id.Precedes d.id
  distinct : (r.toList.map (·.id)).Nodup
  found_iff (id : Identity) (c : Conversation α ρ) : r.get? id = some c ↔ c ∈ r.toList ∧ c.id = id
  named : ∀ c ∈ r.toList, c.id.username ≠ "" ∧ c.id.accountname ≠ "" ∧ c.id.protocol ≠ ""
  bounded : ∀ c ∈ r.toList, c.limits = config.limits
  size_eq : r.size = r.toList.length
  size_le : r.size ≤ config.maxContexts

section Grown

variable (h : Grown config r)
include h

theorem Grown.id_eq (hget : r.get? id = some c) : c.id = id :=
  (h.reachable hget).id_eq

theorem Grown.found_iff (id : Identity) (c : Conversation α ρ) :
    r.get? id = some c ↔ c ∈ r.toList ∧ c.id = id := by
  rw [mem_toList_iff]
  constructor
  · intro hget
    exact ⟨⟨id, hget⟩, h.id_eq hget⟩
  · rintro ⟨⟨other, hget⟩, hid⟩
    rwa [← hid, h.id_eq hget]

theorem Grown.get?_of_mem (hmem : c ∈ r.toList) : r.get? c.id = some c :=
  (h.found_iff c.id c).mpr ⟨hmem, rfl⟩

theorem Grown.get?_of_not_mem (hid : id ∉ r.toList.map (·.id)) : r.get? id = none := by
  cases hget : r.get? id with
  | none => rfl
  | some c =>
    obtain ⟨hmem, rfl⟩ := (h.found_iff id c).mp hget
    exact absurd (List.mem_map_of_mem hmem) hid

-- The identities of the conversations are the keys of the map.
theorem Grown.map_id_toList : r.toList.map (·.id) = r.contexts.keys := by
  rw [toList, List.map_map, ← Std.ExtTreeMap.map_fst_toList_eq_keys]
  apply List.map_congr_left
  intro pair hpair
  exact h.id_eq (Std.ExtTreeMap.mem_toList_iff_getElem?_eq_some.mp hpair)

theorem Grown.ascending : r.toList.Pairwise fun c d => c.id.Precedes d.id := by
  have hkeys : r.contexts.keys.Pairwise Identity.Precedes := by
    apply List.Pairwise.imp _ r.contexts.ordered_keys
    intro a b hlt
    rwa [← Identity.compare_eq_lt_iff]
  rw [← h.map_id_toList] at hkeys
  exact List.pairwise_map.mp hkeys

theorem Grown.distinct : (r.toList.map (·.id)).Nodup := by
  apply List.pairwise_map.mpr (h.ascending.imp _)
  intro c d hlt heq
  rw [heq] at hlt
  exact irrefl d.id hlt

theorem Grown.orderly (hfits : r.Fits) : Orderly config r where
  ascending := h.ascending
  distinct := h.distinct
  found_iff := h.found_iff
  named c hmem := (Identity.validated_eq_ok_iff _ _).mp (h.valid (h.get?_of_mem hmem)) |>.2
  bounded c hmem := (h.reachable (h.get?_of_mem hmem)).limits_eq
  size_eq := r.length_toList.symm
  size_le := by
    have hsize : r.size ≤ r.config.maxContexts := hfits
    rwa [h.config_eq] at hsize

end Grown

theorem fits_performAll (config : Config) (calls : List (Call α ρ)) :
    Fits ((empty config : Registry α ρ).performAll calls).after :=
  History.run_keeps (fun r call h => h.change (r.change_perform call)) fits_empty calls

-- Every registry is an orderly list, in an order that tells any two identities apart, however they
-- are displayed.
theorem orderly_performAll (config : Config) (calls : List (Call α ρ)) :
    IsStrictTotalOrder Identity Identity.Precedes ∧
      Orderly config ((empty config : Registry α ρ).performAll calls).after :=
  ⟨inferInstance, (grown_performAll config calls).orderly (fits_performAll config calls)⟩

section Slashes

open Sample (slashInUsername slashInAccount accented bob)

-- Two identities that are displayed alike, a third with the name of one of them, and a fourth for
-- which there is no room.
def lookalikes : List (Call Nat Unit) :=
  [.findOrCreate slashInUsername [], .findOrCreate accented [], .findOrCreate slashInAccount [],
    .findOrCreate bob []]

theorem orderly_lookalikes :
    let r : Registry Nat Unit := ((empty { maxContexts := 3 }).performAll lookalikes).after
    r.toList.map (·.id) = [slashInAccount, accented, slashInUsername] ∧
      slashInAccount.display = slashInUsername.display ∧
      slashInAccount.Precedes accented ∧ accented.Precedes slashInUsername ∧
      (∃ c, r.get? slashInAccount = some c ∧ c.id = slashInAccount) ∧ r.toList.length ≤ 3 := by
  intro r
  obtain ⟨_, horderly⟩ := orderly_performAll { maxContexts := 3 } lookalikes
  have hids : r.toList.map (·.id) = [slashInAccount, accented, slashInUsername] := by
    decide +kernel
  have hascending : (r.toList.map (·.id)).Pairwise Identity.Precedes :=
    List.pairwise_map.mpr horderly.ascending
  rw [hids, List.pairwise_cons, List.pairwise_cons] at hascending
  obtain ⟨hfirst, hsecond, _⟩ := hascending
  have hmem : slashInAccount ∈ r.toList.map (·.id) := by
    rw [hids]
    exact List.mem_cons_self
  obtain ⟨c, hc, hid⟩ := List.mem_map.mp hmem
  refine ⟨hids, by decide, hfirst _ List.mem_cons_self, hsecond _ List.mem_cons_self,
    ⟨c, (horderly.found_iff slashInAccount c).mpr ⟨hc, hid⟩, hid⟩, ?_⟩
  rw [← horderly.size_eq]
  exact horderly.size_le

end Slashes

end Registry

end Parley
