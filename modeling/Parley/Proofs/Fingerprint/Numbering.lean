import Mathlib.Data.List.Nodup
import Parley.Fingerprint.Known
import Parley.Proofs.OrderedMap

/-!
The index and the entries of a list of fingerprints hold each other up: a fingerprint leads to a
number exactly if its entry stands under that number, and no number has been given that is not below
the next one. Main statements: every operation keeps this, and what each does to the entries in
order.
-/

namespace Parley.KnownFingerprints

open OrderedMap

-- The fingerprints alone, in the order of their entries.
def fingerprints (known : KnownFingerprints) : List Fingerprint :=
  known.toList.map (·.fingerprint)

structure Numbered (known : KnownFingerprints) : Prop where
  index_iff (f : Fingerprint) (number : Nat) : known.index[f]? = some number ↔
    ∃ entry, known.byAge[number]? = some entry ∧ entry.fingerprint = f
  lt_next (number : Nat) (entry : KnownFingerprint) :
    known.byAge[number]? = some entry → number < known.nextNumber

variable {known : KnownFingerprints} {f : Fingerprint} {entry : KnownFingerprint}

theorem mem_toList_iff :
    entry ∈ known.toList ↔ ∃ number : Nat, known.byAge[number]? = some entry := by
  rw [toList_eq_reverse, List.mem_reverse, List.mem_map]
  constructor
  · rintro ⟨⟨number, _⟩, hmem, rfl⟩
    exact ⟨number, Std.ExtTreeMap.mem_toList_iff_getElem?_eq_some.mp hmem⟩
  · rintro ⟨number, hentry⟩
    exact ⟨(number, entry), Std.ExtTreeMap.mem_toList_iff_getElem?_eq_some.mpr hentry, rfl⟩

theorem get?_of_index_some {number : Nat} (hindex : known.index[f]? = some number) :
    known.get? f = known.byAge[number]? := by
  rw [get?, hindex]
  rfl

theorem get?_of_index_none (hindex : known.index[f]? = none) : known.get? f = none := by
  rw [get?, hindex]
  rfl

section Views

variable (h : known.Numbered)
include h

-- Two numbers cannot lead to the same fingerprint.
theorem Numbered.eq_of_fingerprint_eq {number other : Nat} {held : KnownFingerprint}
    (hentry : known.byAge[number]? = some entry) (hheld : known.byAge[other]? = some held)
    (heq : entry.fingerprint = held.fingerprint) : number = other := by
  have hnumber := (h.index_iff entry.fingerprint number).mpr ⟨entry, hentry, rfl⟩
  have hother := (h.index_iff held.fingerprint other).mpr ⟨held, hheld, rfl⟩
  rw [heq, hother] at hnumber
  exact (Option.some.inj hnumber).symm

-- The number of a fingerprint is the number of its entry and of no other.
theorem Numbered.number_eq_iff {number other : Nat} (hindex : known.index[f]? = some number)
    (hentry : known.byAge[other]? = some entry) : other = number ↔ entry.fingerprint = f := by
  obtain ⟨held, hheld, hf⟩ := (h.index_iff f number).mp hindex
  constructor
  · rintro rfl
    rw [hheld] at hentry
    rw [← Option.some.inj hentry, hf]
  · intro hfingerprint
    exact h.eq_of_fingerprint_eq hentry hheld (hfingerprint.trans hf.symm)

theorem Numbered.fingerprint_ne (hindex : known.index[f]? = none) (hmem : entry ∈ known.toList) :
    entry.fingerprint ≠ f := by
  obtain ⟨number, hentry⟩ := mem_toList_iff.mp hmem
  intro hf
  rw [(h.index_iff f number).mpr ⟨entry, hentry, hf⟩] at hindex
  cases hindex

theorem Numbered.get?_eq_some_iff :
    known.get? f = some entry ↔ entry ∈ known.toList ∧ entry.fingerprint = f := by
  cases hindex : known.index[f]? with
  | none =>
    rw [get?_of_index_none hindex]
    constructor
    · intro hnone
      cases hnone
    · rintro ⟨hmem, hf⟩
      exact absurd hf (h.fingerprint_ne hindex hmem)
  | some number =>
    rw [get?_of_index_some hindex, mem_toList_iff]
    constructor
    · intro hentry
      exact ⟨⟨number, hentry⟩, (h.number_eq_iff hindex hentry).mp rfl⟩
    · rintro ⟨⟨other, hentry⟩, hf⟩
      rwa [← (h.number_eq_iff hindex hentry).mpr hf]

theorem Numbered.get?_eq_none_iff : known.get? f = none ↔ known.index[f]? = none := by
  cases hindex : known.index[f]? with
  | none => simp [get?_of_index_none hindex]
  | some number =>
    obtain ⟨held, hheld, _⟩ := (h.index_iff f number).mp hindex
    simp [get?_of_index_some hindex, hheld]

theorem Numbered.contains_eq_isSome : known.contains f = (known.get? f).isSome := by
  rw [contains, Std.ExtTreeMap.contains_eq_isSome_getElem?]
  cases hindex : known.index[f]? with
  | none =>
    rw [get?_of_index_none hindex]
    rfl
  | some number =>
    obtain ⟨held, hheld, _⟩ := (h.index_iff f number).mp hindex
    rw [get?_of_index_some hindex, hheld]
    rfl

theorem Numbered.contains_iff : known.contains f = true ↔ f ∈ known.fingerprints := by
  rw [h.contains_eq_isSome, Option.isSome_iff_exists, fingerprints, List.mem_map]
  exact exists_congr fun entry => h.get?_eq_some_iff

theorem Numbered.exists_get? (hmem : f ∈ known.fingerprints) :
    ∃ entry ∈ known.toList, entry.fingerprint = f ∧ known.get? f = some entry := by
  obtain ⟨entry, hentry, hf⟩ := List.mem_map.mp hmem
  exact ⟨entry, hentry, hf, h.get?_eq_some_iff.mpr ⟨hentry, hf⟩⟩

-- No fingerprint stands in the list twice.
theorem Numbered.nodup_fingerprints : known.fingerprints.Nodup := by
  rw [fingerprints, toList_eq_reverse, List.map_reverse, List.nodup_reverse, List.map_map]
  refine List.pairwise_map.mpr ((ascending_toList known.byAge).imp_of_mem ?_)
  intro a b ha hb hlt heq
  have hentry := Std.ExtTreeMap.mem_toList_iff_getElem?_eq_some.mp ha
  have hheld := Std.ExtTreeMap.mem_toList_iff_getElem?_eq_some.mp hb
  have hsame := h.eq_of_fingerprint_eq hentry hheld heq
  rw [hsame] at hlt
  simp at hlt

end Views

-- The first entry is the one whose number is the greatest.
theorem first?_eq_head? (known : KnownFingerprints) : known.first? = known.toList.head? := by
  rw [toList_eq_reverse, List.head?_reverse, List.getLast?_map, first?]
  cases hmax : known.byAge.maxKey? with
  | none =>
    rw [Std.ExtTreeMap.maxKey?_eq_none_iff.mp hmax, Std.ExtTreeMap.toList_eq_nil_iff.mpr rfl]
    rfl
  | some number =>
    obtain ⟨entry, hentry, hlist⟩ := toList_eq_append_of_maxKey? hmax
    rw [hlist, List.getLast?_concat]
    exact hentry

theorem isEmpty_toList : known.toList.isEmpty = known.isEmpty := by
  rw [toList_eq_reverse, List.isEmpty_reverse, List.isEmpty_map, Std.ExtTreeMap.isEmpty_toList,
    isEmpty]

theorem numbered_empty : empty.Numbered where
  index_iff f number := by simp [empty]
  lt_next number entry := by simp [empty]

@[simp] theorem toList_empty : empty.toList = [] := by
  simp [toList_eq_reverse, empty]

theorem findOrInsert_of_known (hknown : known.get? f = some entry) :
    known.findOrInsert f = ⟨entry, false, known⟩ := by
  cases hindex : known.index[f]? with
  | none =>
    rw [get?_of_index_none hindex] at hknown
    cases hknown
  | some number =>
    rw [get?_of_index_some hindex] at hknown
    simp [findOrInsert, occupy, hindex, hknown, insertIfNew_of_getElem?_eq entry hknown]

section Adding

variable (h : known.Numbered)
include h

theorem Numbered.byAge_nextNumber : known.byAge[known.nextNumber]? = none := by
  cases hentry : known.byAge[known.nextNumber]? with
  | none => rfl
  | some held =>
    have hlt := h.lt_next _ held hentry
    omega

theorem Numbered.findOrInsert_of_unknown (hunknown : known.get? f = none) :
    known.findOrInsert f = ⟨.unverified f, true,
      ⟨known.byAge.insert known.nextNumber (.unverified f), known.index.insert f known.nextNumber,
        known.nextNumber + 1⟩⟩ := by
  have hindex := h.get?_eq_none_iff.mp hunknown
  have hfree := h.byAge_nextNumber
  simp only [findOrInsert, hindex, occupy, hfree, Option.getD_none,
    insertIfNew_of_getElem?_none _ hfree]

theorem Numbered.findOrInsert (f : Fingerprint) : (known.findOrInsert f).known.Numbered := by
  cases hget : known.get? f with
  | some entry => rwa [findOrInsert_of_known hget]
  | none =>
    rw [h.findOrInsert_of_unknown hget]
    have hindex := h.get?_eq_none_iff.mp hget
    have hfree := h.byAge_nextNumber
    refine { index_iff := fun g number => ?_, lt_next := fun number entry hentry => ?_ }
    · simp only [getElem?_insert]
      by_cases hg : f = g
      · subst hg
        rw [if_pos rfl, Option.some.injEq]
        constructor
        · rintro rfl
          exact ⟨.unverified f, if_pos rfl, rfl⟩
        · rintro ⟨entry, hentry, hf⟩
          by_contra hne
          rw [if_neg hne] at hentry
          rw [(h.index_iff f number).mpr ⟨entry, hentry, hf⟩] at hindex
          cases hindex
      · rw [if_neg hg, h.index_iff]
        by_cases hn : known.nextNumber = number
        · subst hn
          simp [hfree, KnownFingerprint.unverified, hg]
        · rw [if_neg hn]
    · rw [getElem?_insert] at hentry
      change number < known.nextNumber + 1
      by_cases hn : known.nextNumber = number
      · omega
      · rw [if_neg hn] at hentry
        have hlt := h.lt_next number entry hentry
        omega

theorem Numbered.toList_findOrInsert_of_unknown (hunknown : known.get? f = none) :
    (known.findOrInsert f).known.toList = .unverified f :: known.toList := by
  have hlast := toList_insert_of_forall_lt known.byAge known.nextNumber (.unverified f)
    (fun number entry hentry => Nat.compare_eq_lt.mpr (h.lt_next number entry hentry))
  rw [h.findOrInsert_of_unknown hunknown, toList_eq_reverse, hlast, List.map_append,
    List.reverse_append, ← toList_eq_reverse]
  rfl

theorem Numbered.fingerprints_findOrInsert (f : Fingerprint) :
    (known.findOrInsert f).known.fingerprints =
      if f ∈ known.fingerprints then known.fingerprints else f :: known.fingerprints := by
  cases hget : known.get? f with
  | some entry =>
    have hknown : f ∈ known.fingerprints := List.mem_map.mpr ⟨entry, h.get?_eq_some_iff.mp hget⟩
    rw [if_pos hknown, findOrInsert_of_known hget]
  | none =>
    have hunknown : f ∉ known.fingerprints := by
      rw [← h.contains_iff, h.contains_eq_isSome, hget]
      simp
    rw [if_neg hunknown, fingerprints, h.toList_findOrInsert_of_unknown hget, List.map_cons]
    rfl

end Adding

theorem fst_remove (known : KnownFingerprints) (f : Fingerprint) :
    (known.remove f).1 = known.get? f := by
  cases hindex : known.index[f]? with
  | none => simp [remove, hindex, get?_of_index_none hindex]
  | some number => simp [remove, hindex, get?_of_index_some hindex]

theorem remove_of_index_none (hindex : known.index[f]? = none) :
    known.remove f = (none, known) := by
  simp [remove, hindex]

section Removing

variable (h : known.Numbered)
include h

theorem Numbered.remove_of_unknown (hunknown : known.get? f = none) :
    known.remove f = (none, known) :=
  remove_of_index_none (h.get?_eq_none_iff.mp hunknown)

theorem Numbered.remove (f : Fingerprint) : (known.remove f).2.Numbered := by
  cases hindex : known.index[f]? with
  | none => rwa [remove_of_index_none hindex]
  | some number =>
    simp only [KnownFingerprints.remove, hindex]
    refine { index_iff := fun g other => ?_, lt_next := fun other entry hentry => ?_ }
    · simp only [getElem?_erase]
      rw [ite_eq_iff]
      constructor
      · rintro (⟨_, hnone⟩ | ⟨hg, hother⟩)
        · cases hnone
        · obtain ⟨entry, hentry, rfl⟩ := (h.index_iff g other).mp hother
          have hne : number ≠ other := fun hn =>
            hg ((h.number_eq_iff hindex hentry).mp hn.symm).symm
          exact ⟨entry, by rw [if_neg hne, hentry], rfl⟩
      · rintro ⟨entry, hentry, rfl⟩
        split at hentry
        · cases hentry
        · next hne =>
          have hg : f ≠ entry.fingerprint := fun hf =>
            hne ((h.number_eq_iff hindex hentry).mpr hf.symm).symm
          exact Or.inr ⟨hg, (h.index_iff _ other).mpr ⟨entry, hentry, rfl⟩⟩
    · rw [getElem?_erase] at hentry
      split at hentry
      · cases hentry
      · exact h.lt_next other entry hentry

-- The other entries keep their order.
theorem Numbered.toList_remove (f : Fingerprint) :
    (known.remove f).2.toList = known.toList.filter fun entry => entry.fingerprint ≠ f := by
  cases hindex : known.index[f]? with
  | none =>
    rw [remove_of_index_none hindex, eq_comm, List.filter_eq_self]
    intro entry hmem
    rw [decide_eq_true_iff]
    exact h.fingerprint_ne hindex hmem
  | some number =>
    simp only [KnownFingerprints.remove, hindex]
    rw [toList_eq_reverse, toList_eq_reverse, toList_erase, List.filter_reverse, List.filter_map]
    congr 2
    apply List.filter_congr
    intro pair hpair
    have hentry := Std.ExtTreeMap.mem_toList_iff_getElem?_eq_some.mp hpair
    simp [h.number_eq_iff hindex hentry]

theorem Numbered.fingerprints_remove (f : Fingerprint) :
    (known.remove f).2.fingerprints = known.fingerprints.filter fun g => g ≠ f := by
  rw [fingerprints, h.toList_remove, fingerprints, List.filter_map]
  rfl

-- Taking out the only one leaves nothing, and no other does.
theorem Numbered.isEmpty_remove_iff (hmem : f ∈ known.fingerprints) :
    (known.remove f).2.isEmpty = true ↔ known.fingerprints = [f] := by
  have hempty : (known.remove f).2.isEmpty = true ↔ (known.remove f).2.fingerprints = [] := by
    rw [← isEmpty_toList, List.isEmpty_iff, fingerprints, List.map_eq_nil_iff]
  rw [hempty, h.fingerprints_remove, List.filter_eq_nil_iff]
  constructor
  · intro hrest
    have hall : ∀ g ∈ known.fingerprints, g = f := fun g hg => by simpa using hrest g hg
    have hlength : known.fingerprints = List.replicate known.fingerprints.length f :=
      List.eq_replicate_of_mem hall
    have hnodup := h.nodup_fingerprints
    rw [hlength, List.nodup_replicate] at hnodup
    have hpos := List.length_pos_of_mem hmem
    have hone : known.fingerprints.length = 1 := by omega
    rw [hlength, hone]
    rfl
  · intro hone
    simp [hone]

-- The entries of the others are as they were.
theorem Numbered.get?_remove_of_ne {g : Fingerprint} (hne : g ≠ f) :
    (known.remove f).2.get? g = known.get? g := by
  apply Option.ext
  intro entry
  rw [(h.remove f).get?_eq_some_iff, h.get?_eq_some_iff, h.toList_remove, List.mem_filter,
    decide_eq_true_iff]
  constructor
  · rintro ⟨⟨hmem, _⟩, hg⟩
    exact ⟨hmem, hg⟩
  · rintro ⟨hmem, hg⟩
    exact ⟨⟨hmem, hg ▸ hne⟩, hg⟩

-- The first entry goes as it would go by its name.
theorem Numbered.popFirst_eq_remove (hfirst : known.first? = some entry) :
    known.popFirst = known.remove entry.fingerprint := by
  cases hmax : known.byAge.maxKey? with
  | none => simp [first?, hmax] at hfirst
  | some number =>
    have hentry : known.byAge[number]? = some entry := by simpa [first?, hmax] using hfirst
    have hindex := (h.index_iff entry.fingerprint number).mpr ⟨entry, hentry, rfl⟩
    simp [popFirst, hmax, hentry, KnownFingerprints.remove, hindex]

end Removing

theorem popFirst_of_first?_none (hfirst : known.first? = none) :
    known.popFirst = (none, known) := by
  cases hmax : known.byAge.maxKey? with
  | none => simp [popFirst, hmax]
  | some number =>
    obtain ⟨entry, hentry, _⟩ := toList_eq_append_of_maxKey? hmax
    simp [first?, hmax, hentry] at hfirst

theorem fst_popFirst (h : known.Numbered) : known.popFirst.1 = known.toList.head? := by
  rw [← first?_eq_head?]
  cases hfirst : known.first? with
  | none => rw [popFirst_of_first?_none hfirst]
  | some entry =>
    have hmem : entry ∈ known.toList := List.mem_of_mem_head? (first?_eq_head? known ▸ hfirst)
    rw [h.popFirst_eq_remove hfirst, fst_remove]
    exact h.get?_eq_some_iff.mpr ⟨hmem, rfl⟩

theorem Numbered.popFirst (h : known.Numbered) : known.popFirst.2.Numbered := by
  cases hfirst : known.first? with
  | none => rwa [popFirst_of_first?_none hfirst]
  | some entry => exact h.popFirst_eq_remove hfirst ▸ h.remove entry.fingerprint

theorem Numbered.toList_popFirst (h : known.Numbered) :
    known.popFirst.2.toList = known.toList.tail := by
  have hhead := first?_eq_head? known
  cases hlist : known.toList with
  | nil =>
    rw [hlist] at hhead
    rw [popFirst_of_first?_none hhead, hlist]
    rfl
  | cons entry rest =>
    rw [hlist] at hhead
    have hnodup := h.nodup_fingerprints
    rw [fingerprints, hlist, List.map_cons, List.nodup_cons] at hnodup
    rw [h.popFirst_eq_remove hhead, h.toList_remove, hlist, List.tail_cons,
      List.filter_cons_of_neg (by simp), List.filter_eq_self]
    intro other hother
    rw [decide_eq_true_iff]
    intro heq
    exact hnodup.1 (heq ▸ List.mem_map_of_mem hother)

theorem setTrust_of_index_none (label : Option String) (hindex : known.index[f]? = none) :
    known.setTrust f label = known := by
  simp [setTrust, hindex]

section Labelling

variable (h : known.Numbered)
include h

theorem Numbered.setTrust (f : Fingerprint) (label : Option String) :
    (known.setTrust f label).Numbered := by
  cases hindex : known.index[f]? with
  | none => rwa [setTrust_of_index_none label hindex]
  | some number =>
    simp only [KnownFingerprints.setTrust, hindex]
    have hget (other : Nat) : (known.byAge.modify number (·.withTrust label))[other]? =
        known.byAge[other]?.map fun entry =>
          if number = other then entry.withTrust label else entry := by
      rw [getElem?_modify]
      split
      · next heq => simp [heq]
      · simp
    refine { index_iff := fun g other => ?_, lt_next := fun other entry hentry => ?_ }
    · rw [h.index_iff]
      simp only [hget, Option.map_eq_some_iff]
      constructor
      · rintro ⟨entry, hentry, hg⟩
        exact ⟨_, ⟨entry, hentry, rfl⟩, by split <;> simpa using hg⟩
      · rintro ⟨_, ⟨entry, hentry, rfl⟩, hg⟩
        exact ⟨entry, hentry, by split at hg <;> simpa using hg⟩
    · rw [hget, Option.map_eq_some_iff] at hentry
      obtain ⟨held, hheld, _⟩ := hentry
      exact h.lt_next other held hheld

theorem Numbered.toList_setTrust (f : Fingerprint) (label : Option String) :
    (known.setTrust f label).toList = known.toList.map fun entry =>
      if entry.fingerprint = f then entry.withTrust label else entry := by
  cases hindex : known.index[f]? with
  | none =>
    have hkeep (entry : KnownFingerprint) (hmem : entry ∈ known.toList) :
        (if entry.fingerprint = f then entry.withTrust label else entry) = entry :=
      if_neg (h.fingerprint_ne hindex hmem)
    rw [setTrust_of_index_none label hindex, List.map_congr_left hkeep, List.map_id']
  | some number =>
    simp only [KnownFingerprints.setTrust, hindex]
    rw [toList_eq_reverse, toList_eq_reverse, toList_modify, List.map_reverse, List.map_map,
      List.map_map]
    congr 1
    apply List.map_congr_left
    intro pair hpair
    have hentry := Std.ExtTreeMap.mem_toList_iff_getElem?_eq_some.mp hpair
    by_cases hn : pair.1 = number
    · simp [hn, (h.number_eq_iff hindex hentry).mp hn]
    · simp [hn, mt (h.number_eq_iff hindex hentry).mpr hn]

theorem Numbered.fingerprints_setTrust (f : Fingerprint) (label : Option String) :
    (known.setTrust f label).fingerprints = known.fingerprints := by
  rw [fingerprints, h.toList_setTrust, fingerprints, List.map_map]
  apply List.map_congr_left
  intro entry _
  rw [Function.comp_apply]
  split <;> rfl

end Labelling

-- Only a new entry takes a number.
theorem nextNumber_remove (known : KnownFingerprints) (f : Fingerprint) :
    (known.remove f).2.nextNumber = known.nextNumber := by
  unfold remove
  split <;> rfl

theorem nextNumber_popFirst (known : KnownFingerprints) :
    known.popFirst.2.nextNumber = known.nextNumber := by
  unfold popFirst
  split
  · split <;> rfl
  · rfl

theorem nextNumber_setTrust (known : KnownFingerprints) (f : Fingerprint) (label : Option String) :
    (known.setTrust f label).nextNumber = known.nextNumber := by
  unfold setTrust
  split <;> rfl

end Parley.KnownFingerprints
