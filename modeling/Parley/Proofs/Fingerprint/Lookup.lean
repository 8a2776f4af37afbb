import Parley.Proofs.Fingerprint.Roll

/-!
What is found under a fingerprint after a change. Main statement: adding, labelling and removing
each change what is found under one fingerprint and leave what is found under any other.
-/

namespace Parley.KnownFingerprints

@[simp] theorem get?_empty (f : Fingerprint) : empty.get? f = none := by
  simp [empty, get?]

section Change

variable {known : KnownFingerprints} (h : known.Numbered) (f g : Fingerprint)
include h

theorem Numbered.get?_findOrInsert : (known.findOrInsert g).known.get? f =
    if g = f then some ((known.get? f).getD (.unverified f)) else known.get? f := by
  cases hget : known.get? g with
  | some entry =>
    rw [findOrInsert_of_known hget]
    split
    · next heq => rw [← heq, hget, Option.getD_some]
    · rfl
  | none =>
    rw [(h.findOrInsert g).get?_eq_lookup, h.toList_findOrInsert_of_unknown hget, Roll.lookup,
      List.find?_cons]
    by_cases heq : g = f
    · subst heq
      simp [hget, KnownFingerprint.unverified]
    · simp [heq, KnownFingerprint.unverified, h.get?_eq_lookup, Roll.lookup]

theorem Numbered.get?_setTrust (label : Option String) : (known.setTrust g label).get? f =
    if g = f then (known.get? f).map (·.withTrust label) else known.get? f := by
  have hsame : ((fun entry : KnownFingerprint => decide (entry.fingerprint = f)) ∘ fun entry =>
      if entry.fingerprint = g then entry.withTrust label else entry) =
        fun entry => decide (entry.fingerprint = f) := by
    funext entry
    rw [Function.comp_apply]
    split <;> rfl
  rw [(h.setTrust g label).get?_eq_lookup, h.toList_setTrust, Roll.lookup, List.find?_map, hsame,
    h.get?_eq_lookup, Roll.lookup]
  cases hfound : known.toList.find? fun entry => decide (entry.fingerprint = f) with
  | none => simp
  | some entry =>
    have hentry : entry.fingerprint = f := by simpa using List.find?_some hfound
    by_cases heq : g = f
    · simp [hentry, heq]
    · simp [hentry, heq, Ne.symm heq]

theorem Numbered.get?_remove : (known.remove g).2.get? f =
    if g = f then none else known.get? f := by
  by_cases heq : g = f
  · subst heq
    rw [if_pos rfl, (h.remove g).get?_eq_lookup, h.toList_remove, Roll.lookup,
      List.find?_eq_none]
    intro entry hmem
    simpa using (List.mem_filter.mp hmem).2
  · rw [if_neg heq, h.get?_remove_of_ne (Ne.symm heq)]

end Change

end Parley.KnownFingerprints
