import Mathlib.Data.List.Basic
import Parley.Fingerprint.Text

/-!
The texts and the bytes of fingerprints. Main statement: what people are shown reads back as the
fingerprint it stands for, so that no two look the same.
-/

namespace Parley

namespace Hex

theorem exists_half_of_mem {c : Char} {bytes : List UInt8} (hmem : c ∈ encodeUpper bytes) :
    ∃ half < 16, c = upperDigit half := by
  obtain ⟨byte, _, hc⟩ := List.mem_flatMap.mp hmem
  have hbyte := byte.toNat_lt
  rcases List.mem_cons.mp hc with hhigh | hlow
  · exact ⟨byte.toNat / 16, by omega, hhigh⟩
  · exact ⟨byte.toNat % 16, by omega, List.mem_singleton.mp hlow⟩

theorem isBlank_upperDigit : ∀ half < 16, Text.isBlank (upperDigit half) = false := by
  decide

-- A digit is one byte of UTF-8.
theorem utf8_upperDigit : ∀ half < 16,
    String.utf8EncodeChar (upperDigit half) = [UInt8.ofNat (upperDigit half).toNat] := by
  decide

end Hex

namespace Fingerprint

variable (f : Fingerprint)

theorem ofBytes_toArray : ofBytes f.bytes.toArray = .ok f := by
  rw [ofBytes, dif_pos f.bytes.size_toArray]

variable {f} in
theorem eq_of_ofBytes {bytes : Array UInt8} (hf : ofBytes bytes = .ok f) :
    bytes = f.bytes.toArray := by
  unfold ofBytes at hf
  split at hf
  · cases hf
    rfl
  · cases hf

-- Groups of eight, one after another.
theorem flatMap_group (digits : List Char) (n : Nat) :
    ((List.range n).map (group digits)).flatMap String.toList = digits.take (8 * n) := by
  induction n with
  | zero => rfl
  | succ n ih =>
    rw [List.range_succ, List.map_append, List.flatMap_append, ih, Nat.mul_succ, List.take_add]
    simp [group]

-- The blanks between the groups are all that is left out.
theorem filter_intercalate (texts : List (List Char))
    (hfull : ∀ text ∈ texts, ∀ c ∈ text, Text.isBlank c = false) :
    (List.intercalate [' '] texts).filter (fun c => !Text.isBlank c) = texts.flatten := by
  induction texts with
  | nil => rfl
  | cons text rest ih =>
    have hfirst : text.filter (fun c => !Text.isBlank c) = text := by
      rw [List.filter_eq_self]
      intro c hc
      rw [hfull text List.mem_cons_self c hc]
      rfl
    cases rest with
    | nil => simp [hfirst]
    | cons next rest =>
      have hrest := ih fun text hmem => hfull text (List.mem_cons_of_mem _ hmem)
      have hblank : [' '].filter (fun c => !Text.isBlank c) = [] := by decide
      rw [List.intercalate_cons_cons, List.filter_append, List.filter_append, hfirst, hblank, hrest,
        List.append_nil]
      rfl

theorem length_digits : (Hex.encodeUpper f.bytes.toList).length = 40 := by
  rw [Hex.encodeUpper_length, Vector.length_toList]

-- The five groups hold all the digits.
theorem flatMap_groups : ((List.range 5).map (group (Hex.encodeUpper f.bytes.toList))).flatMap
    String.toList = Hex.encodeUpper f.bytes.toList := by
  have hlength := f.length_digits
  rw [flatMap_group, List.take_of_length_le (by omega)]

theorem filter_display : f.display.toList.filter (fun c => !Text.isBlank c) =
    Hex.encodeUpper f.bytes.toList := by
  have hgroups := f.flatMap_groups
  rw [display, String.toList_intercalate]
  change List.filter _ (List.intercalate [' '] _) = _
  rw [filter_intercalate, ← List.flatMap_def, hgroups]
  intro text htext c hc
  have hmem : c ∈ Hex.encodeUpper f.bytes.toList := by
    rw [← hgroups, List.flatMap_def]
    exact List.mem_flatten_of_mem htext hc
  obtain ⟨half, hhalf, rfl⟩ := Hex.exists_half_of_mem hmem
  exact Hex.isBlank_upperDigit half hhalf

theorem compact_display : compact f.display =
    (Hex.encodeUpper f.bytes.toList).map fun c => UInt8.ofNat c.toNat := by
  rw [compact, filter_display, List.map_eq_flatMap]
  apply List.flatMap_congr
  intro c hc
  obtain ⟨half, hhalf, rfl⟩ := Hex.exists_half_of_mem hc
  exact Hex.utf8_upperDigit half hhalf

theorem read_display : read f.display = .ok f := by
  rw [read, compact_display, Hex.decode_encodeUpper]
  exact f.ofBytes_toArray

theorem display_injective : Function.Injective display := by
  intro f g hdisplay
  have hread := f.read_display
  rw [hdisplay, g.read_display] at hread
  exact (Except.ok.inj hread).symm

end Fingerprint

end Parley
