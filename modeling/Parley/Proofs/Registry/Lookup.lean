import Parley.Proofs.OrderedMap
import Parley.Registry.Call

/-!
What is found in a registry after a change, and what a removal does in each of its cases.
-/

namespace Parley.Registry

variable {α ρ : Type} (r : Registry α ρ) (id other : Identity) (c : Conversation α ρ)

@[simp] theorem get?_empty (config : Config) : (empty config : Registry α ρ).get? id = none := by
  simp [empty, get?]

theorem get?_put : (r.put id c).get? other = if id = other then some c else r.get? other :=
  OrderedMap.getElem?_insert r.contexts id other c

theorem get?_drop : (r.drop id).get? other = if id = other then none else r.get? other :=
  OrderedMap.getElem?_erase r.contexts id other

@[simp] theorem get?_put_self : (r.put id c).get? id = some c := by
  rw [get?_put, if_pos rfl]

@[simp] theorem get?_drop_self : (r.drop id).get? id = none := by
  rw [get?_drop, if_pos rfl]

variable {r id other c}

theorem get?_put_of_ne (hne : id ≠ other) : (r.put id c).get? other = r.get? other := by
  rw [get?_put, if_neg hne]

theorem get?_drop_of_ne (hne : id ≠ other) : (r.drop id).get? other = r.get? other := by
  rw [get?_drop, if_neg hne]

-- What is found is all that there is to a registry, but for its bounds.
theorem eq_of_get? {r' : Registry α ρ} (hconfig : r.config = r'.config)
    (hget : ∀ id, r.get? id = r'.get? id) : r = r' := by
  obtain ⟨config, contexts⟩ := r
  obtain ⟨config', contexts'⟩ := r'
  obtain rfl : config = config' := hconfig
  obtain rfl : contexts = contexts' := Std.ExtTreeMap.ext_getElem? hget
  rfl

-- Putting back what is there changes nothing.
theorem put_of_get? (h : r.get? id = some c) : r.put id c = r := by
  unfold put
  rw [OrderedMap.insert_of_getElem?_eq c h]

-- What was put last under an identity is all that matters.
@[simp] theorem put_put (d : Conversation α ρ) : (r.put id c).put id d = r.put id d := by
  have hinsert : (r.contexts.insert id c).insert id d = r.contexts.insert id d := by
    apply Std.ExtTreeMap.ext_getElem?
    intro other
    simp only [OrderedMap.getElem?_insert]
    split <;> rfl
  rw [put, put, put, hinsert]

@[simp] theorem drop_put : (r.put id c).drop id = r.drop id := by
  have herase : (r.contexts.insert id c).erase id = r.contexts.erase id := by
    apply Std.ExtTreeMap.ext_getElem?
    intro other
    simp only [OrderedMap.getElem?_erase, OrderedMap.getElem?_insert]
    split <;> rfl
  rw [put, drop, drop, herase]

theorem length_toList (r : Registry α ρ) : r.toList.length = r.size := by
  rw [toList, List.length_map, Std.ExtTreeMap.length_toList, size]

theorem mem_toList_iff : c ∈ r.toList ↔ ∃ id, r.get? id = some c := by
  rw [toList, List.mem_map]
  constructor
  · rintro ⟨⟨id, _⟩, hmem, rfl⟩
    exact ⟨id, Std.ExtTreeMap.mem_toList_iff_getElem?_eq_some.mp hmem⟩
  · rintro ⟨id, hget⟩
    exact ⟨(id, c), Std.ExtTreeMap.mem_toList_iff_getElem?_eq_some.mpr hget, rfl⟩

theorem toList_put_perm (hget : r.get? id = none) : (r.put id c).toList.Perm (c :: r.toList) :=
  (OrderedMap.toList_insert_perm c hget).map Prod.snd

theorem put_drop_of_get? (hget : r.get? id = some c) : (r.drop id).put id c = r := by
  refine eq_of_get? rfl fun other => ?_
  rw [get?_put, get?_drop]
  split
  · next heq => rw [← heq, hget]
  · rfl

theorem toList_perm_drop (hget : r.get? id = some c) : r.toList.Perm (c :: (r.drop id).toList) := by
  have hput := toList_put_perm (c := c) (get?_drop_self r id)
  rwa [put_drop_of_get? hget] at hput

theorem find?_eq_ok_iff {found : Option (Conversation α ρ)} :
    r.find? id = .ok found ↔ id.validated = .ok id ∧ r.get? id = found := by
  unfold find?
  cases hid : id.validated with
  | error refusal => simp [Except.map]
  | ok valid =>
    obtain rfl := ((id.validated_eq_ok_iff valid).mp hid).1
    simp [Except.map]

section Removal

theorem forget_of_absent (h : r.get? id = none) :
    r.forget id = .refused .unknownContext r [] := by
  simp [forget, h]

theorem forget_of_kept (h : r.get? id = some c) (hstate : c.state ≠ .unconnected) :
    r.forget id = .refused (.notUnconnected c.state) r [.log (.contextKept id c.state)] := by
  simp [forget, h, hstate]

theorem forget_of_unconnected (h : r.get? id = some c) (hstate : c.state = .unconnected) :
    r.forget id = .done (r.drop id) () c.destroy.effects := by
  simp [forget, h, hstate]

variable {cascade : Bool} {f : Fingerprint}

theorem forgetFingerprint_of_absent {target : Target} (h : r.get? id = none) :
    r.forgetFingerprint id target cascade = .refused .unknownContext r [] := by
  simp [forgetFingerprint, h]

theorem forgetFingerprint_root (h : r.get? id = some c) :
    r.forgetFingerprint id .root cascade =
      if cascade then (r.forget id).map fun _ => .context else .done r .nothing [] := by
  simp [forgetFingerprint, h]

theorem forgetFingerprint_of_refused {refusal : Refusal} (h : r.get? id = some c)
    (hrefused : (c.forgetFingerprint f).answer = .error refusal) :
    r.forgetFingerprint id (.entry f) cascade =
      .refused refusal (r.put id (c.forgetFingerprint f).after)
        (c.forgetFingerprint f).effects := by
  simp [forgetFingerprint, h, hrefused]

-- Whether taking out one fingerprint takes the conversation along.
def Cascades (cascade : Bool) (rest : Conversation α ρ) : Prop :=
  cascade = true ∧ rest.state = .unconnected ∧ rest.known.isEmpty = true

theorem forgetFingerprint_of_removed (h : r.get? id = some c)
    (hremoved : (c.forgetFingerprint f).answer = .ok ())
    (hcascades : ¬ Cascades cascade (c.forgetFingerprint f).after) :
    r.forgetFingerprint id (.entry f) cascade =
      .done (r.put id (c.forgetFingerprint f).after) .fingerprint
        (c.forgetFingerprint f).effects := by
  have hno : (cascade && (c.forgetFingerprint f).after.state = .unconnected &&
      (c.forgetFingerprint f).after.known.isEmpty) = false := by
    rw [← Bool.not_eq_true]
    simpa [Cascades, and_assoc] using hcascades
  simp [forgetFingerprint, h, hremoved, hno]

-- The second of the two steps cannot be refused: what is left is unconnected.
theorem forgetFingerprint_of_cascades (h : r.get? id = some c)
    (hremoved : (c.forgetFingerprint f).answer = .ok ())
    (hcascades : Cascades cascade (c.forgetFingerprint f).after) :
    r.forgetFingerprint id (.entry f) cascade =
      .done ((r.put id (c.forgetFingerprint f).after).drop id) .context
        ((c.forgetFingerprint f).effects ++ (c.forgetFingerprint f).after.destroy.effects) := by
  obtain ⟨rfl, hstate, hempty⟩ := hcascades
  simp only [forgetFingerprint, h, hremoved, hstate, hempty, Bool.and_self, decide_true, ite_true]
  rw [forget_of_unconnected (get?_put_self r id _) hstate]
  rfl

end Removal

end Parley.Registry
