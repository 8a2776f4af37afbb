import Std.Data.ExtTreeMap
import Mathlib.Data.List.Basic

/-!
Ordered maps as lists. The list of a map is the only one in strict order that holds its pairs, so
what a change does to the lookups says what it does to the list.
-/

namespace Parley.OrderedMap

variable {κ ω : Type} [Ord κ]

-- The keys rise from pair to pair.
def Ascending (pairs : List (κ × ω)) : Prop :=
  pairs.Pairwise fun a b => compare a.1 b.1 = .lt

variable [Std.TransOrd κ]

theorem ascending_toList (map : Std.ExtTreeMap κ ω) : Ascending map.toList :=
  map.ordered_keys_toList

theorem Ascending.nodup {pairs : List (κ × ω)} (h : Ascending pairs) : pairs.Nodup := by
  apply List.Pairwise.imp _ h
  intro a b hlt heq
  rw [heq] at hlt
  simp at hlt

-- Two lists in strict order with the same members are the same list.
theorem Ascending.eq_of_mem_iff {pairs others : List (κ × ω)} (hpairs : Ascending pairs)
    (hothers : Ascending others) (hmem : ∀ pair, pair ∈ pairs ↔ pair ∈ others) :
    pairs = others := by
  have hperm : pairs.Perm others :=
    (List.perm_ext_iff_of_nodup hpairs.nodup hothers.nodup).mpr hmem
  have hantisymm (a b : κ × ω) (_ : a ∈ pairs) (_ : b ∈ others) (hab : compare a.1 b.1 = .lt)
      (hba : compare b.1 a.1 = .lt) : a = b :=
    absurd hba (Std.OrientedCmp.not_lt_of_lt hab)
  exact List.Perm.eq_of_pairwise hantisymm hpairs hothers hperm

variable [Std.LawfulEqOrd κ]

theorem toList_eq_of_mem_iff {map : Std.ExtTreeMap κ ω} {pairs : List (κ × ω)}
    (hpairs : Ascending pairs) (hmem : ∀ key value, (key, value) ∈ pairs ↔ map[key]? = some value) :
    map.toList = pairs := by
  apply (ascending_toList map).eq_of_mem_iff hpairs
  intro ⟨key, value⟩
  rw [hmem, Std.ExtTreeMap.mem_toList_iff_getElem?_eq_some]

variable [DecidableEq κ] (map : Std.ExtTreeMap κ ω) (key other : κ) (value : ω)

-- The lookups after a change, by equality of keys.
theorem getElem?_insert :
    (map.insert key value)[other]? = if key = other then some value else map[other]? := by
  simp only [Std.ExtTreeMap.getElem?_insert, Std.LawfulEqOrd.compare_eq_iff_eq]

theorem getElem?_erase : (map.erase key)[other]? = if key = other then none else map[other]? := by
  simp only [Std.ExtTreeMap.getElem?_erase, Std.LawfulEqOrd.compare_eq_iff_eq]

theorem getElem?_modify (change : ω → ω) :
    (map.modify key change)[other]? =
      if key = other then map[key]?.map change else map[other]? := by
  simp only [Std.ExtTreeMap.getElem?_modify, Std.LawfulEqOrd.compare_eq_iff_eq]

variable {map key}

theorem insert_of_getElem?_eq (h : map[key]? = some value) : map.insert key value = map := by
  apply Std.ExtTreeMap.ext_getElem?
  intro other
  rw [getElem?_insert]
  split
  · next heq => rw [← heq, h]
  · rfl

omit [DecidableEq κ] in
theorem insertIfNew_of_getElem?_eq {held : ω} (h : map[key]? = some held) :
    map.insertIfNew key value = map := by
  apply Std.ExtTreeMap.ext_getElem?
  intro other
  have hmem : key ∈ map := by rw [Std.ExtTreeMap.mem_iff_isSome_getElem?, h]; rfl
  simp [Std.ExtTreeMap.getElem?_insertIfNew, hmem]

omit [DecidableEq κ] in
theorem insertIfNew_of_getElem?_none (h : map[key]? = none) :
    map.insertIfNew key value = map.insert key value := by
  apply Std.ExtTreeMap.ext_getElem?
  intro other
  have hmem : key ∉ map := by rw [Std.ExtTreeMap.mem_iff_isSome_getElem?, h]; simp
  simp only [Std.ExtTreeMap.getElem?_insertIfNew, Std.ExtTreeMap.getElem?_insert, hmem,
    not_false_eq_true, and_true]

-- A key above all others comes last.
theorem toList_insert_of_forall_lt (map : Std.ExtTreeMap κ ω) (key : κ) (value : ω)
    (hlt : ∀ other held, map[other]? = some held → compare other key = .lt) :
    (map.insert key value).toList = map.toList ++ [(key, value)] := by
  have hfree : map[key]? = none := by
    cases h : map[key]? with
    | none => rfl
    | some held =>
      have hself := hlt key held h
      simp at hself
  apply toList_eq_of_mem_iff
  · refine List.pairwise_append.mpr ⟨ascending_toList map, List.pairwise_singleton _ _, ?_⟩
    intro a ha b hb
    rw [List.mem_singleton] at hb
    subst hb
    exact hlt a.1 a.2 (Std.ExtTreeMap.mem_toList_iff_getElem?_eq_some.mp ha)
  · intro other held
    rw [List.mem_append, Std.ExtTreeMap.mem_toList_iff_getElem?_eq_some, List.mem_singleton,
      getElem?_insert]
    by_cases h : key = other
    · subst h
      simp [hfree, eq_comm]
    · simp [h, Ne.symm h]

-- A new key takes nothing away, wherever it comes.
theorem toList_insert_perm (hfree : map[key]? = none) :
    (map.insert key value).toList.Perm ((key, value) :: map.toList) := by
  have hnew : (key, value) ∉ map.toList := by
    intro hmem
    rw [Std.ExtTreeMap.mem_toList_iff_getElem?_eq_some, hfree] at hmem
    cases hmem
  have hnodup : ((key, value) :: map.toList).Nodup :=
    List.nodup_cons.mpr ⟨hnew, (ascending_toList map).nodup⟩
  refine (List.perm_ext_iff_of_nodup (ascending_toList _).nodup hnodup).mpr ?_
  rintro ⟨other, held⟩
  rw [List.mem_cons, Std.ExtTreeMap.mem_toList_iff_getElem?_eq_some,
    Std.ExtTreeMap.mem_toList_iff_getElem?_eq_some, getElem?_insert]
  by_cases h : key = other
  · subst h
    simp [hfree, eq_comm]
  · simp [h, Ne.symm h]

theorem toList_erase : (map.erase key).toList = map.toList.filter fun pair => pair.1 ≠ key := by
  apply toList_eq_of_mem_iff
  · exact (ascending_toList map).filter _
  · intro other held
    rw [List.mem_filter, Std.ExtTreeMap.mem_toList_iff_getElem?_eq_some, getElem?_erase]
    by_cases h : key = other
    · simp [h]
    · simp [h, Ne.symm h]

theorem toList_modify (change : ω → ω) :
    (map.modify key change).toList =
      map.toList.map fun pair => if pair.1 = key then (pair.1, change pair.2) else pair := by
  have hkey (pair : κ × ω) :
      (if pair.1 = key then (pair.1, change pair.2) else pair).1 = pair.1 := by
    split <;> rfl
  apply toList_eq_of_mem_iff
  · refine List.pairwise_map.mpr ((ascending_toList map).imp ?_)
    intro a b hlt
    rwa [hkey, hkey]
  · intro other held
    rw [List.mem_map, getElem?_modify]
    constructor
    · rintro ⟨⟨k, v⟩, hmem, heq⟩
      have hv : map[k]? = some v := Std.ExtTreeMap.mem_toList_iff_getElem?_eq_some.mp hmem
      have hk : k = other := (hkey (k, v)).symm.trans (congrArg Prod.fst heq)
      subst hk
      by_cases h : k = key
      · subst h
        simpa [hv] using heq
      · simpa [h, Ne.symm h, hv] using heq
    · intro hheld
      by_cases h : key = other
      · subst h
        rw [if_pos rfl, Option.map_eq_some_iff] at hheld
        obtain ⟨v, hv, rfl⟩ := hheld
        exact ⟨(key, v), Std.ExtTreeMap.mem_toList_iff_getElem?_eq_some.mpr hv, by simp⟩
      · rw [if_neg h] at hheld
        exact ⟨(other, held), Std.ExtTreeMap.mem_toList_iff_getElem?_eq_some.mpr hheld,
          by simp [Ne.symm h]⟩

-- The pair under the greatest key is the last, and taking the key out takes out that pair.
theorem toList_eq_append_of_maxKey? (hmax : map.maxKey? = some key) :
    ∃ value, map[key]? = some value ∧ map.toList = (map.erase key).toList ++ [(key, value)] := by
  obtain ⟨hmem, hle⟩ := Std.ExtTreeMap.maxKey?_eq_some_iff_mem_and_forall.mp hmax
  obtain ⟨value, hvalue⟩ := Option.isSome_iff_exists.mp
    (Std.ExtTreeMap.mem_iff_isSome_getElem?.mp hmem)
  have hback : (map.erase key).insert key value = map := by
    apply Std.ExtTreeMap.ext_getElem?
    intro other
    rw [getElem?_insert, getElem?_erase]
    split
    · next heq => rw [← heq, hvalue]
    · rfl
  have hbelow (other : κ) (held : ω) (hheld : (map.erase key)[other]? = some held) :
      compare other key = .lt := by
    rw [getElem?_erase] at hheld
    split at hheld
    · cases hheld
    · next hne =>
      have hother := hle other (Std.ExtTreeMap.mem_iff_isSome_getElem?.mpr (by rw [hheld]; rfl))
      cases hcmp : compare other key with
      | lt => rfl
      | eq => exact absurd (Std.LawfulEqOrd.eq_of_compare hcmp).symm hne
      | gt => rw [hcmp] at hother; cases hother
  have hlast := toList_insert_of_forall_lt (map.erase key) key value hbelow
  rw [hback] at hlast
  exact ⟨value, hvalue, hlast⟩

-- The pair under the least key is the first, and taking the key out takes out that pair.
theorem toList_eq_cons_of_minKey? (hmin : map.minKey? = some key) :
    ∃ value, map[key]? = some value ∧ map.toList = (key, value) :: (map.erase key).toList := by
  rw [Std.ExtTreeMap.minKey?_eq_head?_keys, ← Std.ExtTreeMap.map_fst_toList_eq_keys] at hmin
  cases hlist : map.toList with
  | nil =>
    rw [hlist] at hmin
    cases hmin
  | cons first rest =>
    obtain ⟨k, value⟩ := first
    rw [hlist] at hmin
    obtain rfl : k = key := Option.some.inj hmin
    have hmem : (k, value) ∈ map.toList := by
      rw [hlist]
      exact List.mem_cons_self
    have hrest (pair : κ × ω) (hpair : pair ∈ rest) : pair.1 ≠ k := by
      have hlt : compare k pair.1 = .lt := by
        have hascending := ascending_toList map
        rw [hlist] at hascending
        exact (List.pairwise_cons.mp hascending).1 pair hpair
      rintro heq
      rw [heq] at hlt
      simp at hlt
    refine ⟨value, Std.ExtTreeMap.mem_toList_iff_getElem?_eq_some.mp hmem, ?_⟩
    rw [toList_erase, hlist, List.filter_cons_of_neg (by simp), List.filter_eq_self.mpr]
    intro pair hpair
    exact decide_eq_true (hrest pair hpair)

end Parley.OrderedMap
