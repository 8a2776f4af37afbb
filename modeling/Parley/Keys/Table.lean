import Parley.Keys.Session

/-!
The session keys in force, one place for each pair of one of our two latest keys with one of theirs.
-/

namespace Parley

inductive KeyAge where
  | current
  | previous
deriving DecidableEq

structure KeySlot where
  ours : KeyAge
  theirs : KeyAge
deriving DecidableEq

-- The first word is the age of our key, the second that of theirs.
structure SessionKeyTable where
  currentCurrent : Option SessionKeys := none
  currentPrevious : Option SessionKeys := none
  previousCurrent : Option SessionKeys := none
  previousPrevious : Option SessionKeys := none
deriving DecidableEq

namespace SessionKeyTable

def empty : SessionKeyTable := {}

def get (table : SessionKeyTable) : KeySlot → Option SessionKeys
  | ⟨.current, .current⟩ => table.currentCurrent
  | ⟨.current, .previous⟩ => table.currentPrevious
  | ⟨.previous, .current⟩ => table.previousCurrent
  | ⟨.previous, .previous⟩ => table.previousPrevious

def set (table : SessionKeyTable) (slot : KeySlot) (keys : Option SessionKeys) :
    SessionKeyTable :=
  match slot with
  | ⟨.current, .current⟩ => { table with currentCurrent := keys }
  | ⟨.current, .previous⟩ => { table with currentPrevious := keys }
  | ⟨.previous, .current⟩ => { table with previousCurrent := keys }
  | ⟨.previous, .previous⟩ => { table with previousPrevious := keys }

def isEmpty (table : SessionKeyTable) : Bool :=
  table.currentCurrent.isNone && table.currentPrevious.isNone && table.previousCurrent.isNone
    && table.previousPrevious.isNone

variable (table : SessionKeyTable) (slot other : KeySlot) (keys : Option SessionKeys)

@[simp] theorem get_empty : empty.get slot = none := by
  obtain ⟨ours, theirs⟩ := slot
  cases ours <;> cases theirs <;> rfl

@[simp] theorem get_set_self : (table.set slot keys).get slot = keys := by
  obtain ⟨ours, theirs⟩ := slot
  cases ours <;> cases theirs <;> rfl

theorem get_set_of_ne (h : other ≠ slot) : (table.set slot keys).get other = table.get other := by
  obtain ⟨ours, theirs⟩ := slot
  obtain ⟨ours', theirs'⟩ := other
  cases ours <;> cases theirs <;> cases ours' <;> cases theirs' <;> first | rfl | exact absurd rfl h

theorem isEmpty_iff : table.isEmpty = true ↔ ∀ place, table.get place = none := by
  constructor
  · intro h place
    simp only [isEmpty, Bool.and_eq_true, Option.isNone_iff_eq_none] at h
    obtain ⟨⟨⟨hcc, hcp⟩, hpc⟩, hpp⟩ := h
    obtain ⟨ours, theirs⟩ := place
    cases ours <;> cases theirs <;> assumption
  · intro h
    have hcc := h ⟨.current, .current⟩
    have hcp := h ⟨.current, .previous⟩
    have hpc := h ⟨.previous, .current⟩
    have hpp := h ⟨.previous, .previous⟩
    simp only [get] at hcc hcp hpc hpp
    simp [isEmpty, hcc, hcp, hpc, hpp]

end SessionKeyTable

end Parley
