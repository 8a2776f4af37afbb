import Parley.Identity
import Parley.Proofs.Hex
import Parley.Proofs.Fingerprint.Text

/-!
What becomes of a text that is read as a fingerprint. Main statement: only the bytes left after
taking out the blanks count; forty digits are the fingerprint they spell, any other text is refused
for the first of three faults that it has, and a fingerprint shown is the digits it was read from in
upper case and in groups.
-/

namespace Parley.Fingerprint

-- The characters of a text that are not blank.
def letters (text : String) : List Char :=
  text.toList.filter fun c => !Text.isBlank c

def solid (text : String) : List UInt8 :=
  Identity.utf8 (String.ofList (letters text))

-- What some bytes amount to: one case for each answer, and in the cases that look at digits the
-- faults of the cases before are excluded.
inductive Reading (digits : List UInt8) : Except ReadError Fingerprint → Prop
  | spelled {f : Fingerprint} : Hex.Spells digits f.bytes.toList → Reading digits (.ok f)
  | oddLength : digits.length % 2 = 1 → Reading digits (.error (.invalidHex .oddLength))
  | badByte {front rest : List UInt8} {byte : UInt8} : digits.length % 2 = 0 →
      digits = front ++ byte :: rest → (∀ digit ∈ front, Hex.IsDigit digit) → ¬ Hex.IsDigit byte →
      Reading digits (.error (.invalidHex (.badByte byte front.length)))
  | invalidLength {size : Nat} : digits.length = 2 * size → size ≠ 20 →
      (∀ digit ∈ digits, Hex.IsDigit digit) → Reading digits (.error (.invalidLength size))

-- Five groups of eight upper-case digits, with one space between neighbours.
def Grouped (digits : List Char) (text : String) : Prop :=
  ∃ groups : List String, groups.length = 5 ∧
    (∀ group ∈ groups, group.length = 8 ∧ ∀ c ∈ group.toList, c ∈ Hex.upperDigits) ∧
    groups.flatMap String.toList = digits ∧ text = String.intercalate " " groups

theorem solid_eq_compact (text : String) : solid text = compact text := by
  rw [solid, Identity.utf8, String.toByteArray_ofList, List.utf8Encode,
    List.toList_data_toByteArray]
  rfl

section Reading

variable {text : String} {outcome : Except ReadError Fingerprint}

theorem read_of_reading (hreading : Reading (compact text) outcome) : read text = outcome := by
  generalize hdigits : compact text = digits at hreading
  rw [read, hdigits]
  cases hreading with
  | @spelled f hspells =>
    rw [Hex.decode_of_spells hspells]
    exact f.ofBytes_toArray
  | oddLength hodd => rw [Hex.decode_of_odd hodd]
  | badByte heven hsplit hfront hbad =>
    subst hsplit
    rw [Hex.decode_of_not_isDigit heven hfront hbad]
  | @invalidLength size hlength hsize hall =>
    obtain ⟨bytes, hspells⟩ := Hex.exists_spells digits (by omega) hall
    have htwice := hspells.length_eq
    have hcount : bytes.toArray.size = size := by
      rw [List.size_toArray]
      omega
    rw [Hex.decode_of_spells hspells]
    change ofBytes bytes.toArray = _
    rw [ofBytes, dif_neg (by omega), hcount]

theorem exists_spelled {digits : List UInt8} (hlength : digits.length = 40)
    (hall : ∀ digit ∈ digits, Hex.IsDigit digit) :
    ∃ f : Fingerprint, Hex.Spells digits f.bytes.toList := by
  obtain ⟨bytes, hspells⟩ := Hex.exists_spells digits (by omega) hall
  have htwice := hspells.length_eq
  have hsize : bytes.toArray.size = 20 := by
    rw [List.size_toArray]
    omega
  exact ⟨⟨⟨bytes.toArray, hsize⟩⟩, hspells⟩

theorem exists_reading (digits : List UInt8) : ∃ outcome, Reading digits outcome := by
  rcases Nat.mod_two_eq_zero_or_one digits.length with heven | hodd
  · rcases Hex.isDigit_or_exists_first digits with hall | ⟨front, byte, rest, hsplit, hfront, hbad⟩
    · by_cases hlength : digits.length = 40
      · obtain ⟨f, hspells⟩ := exists_spelled hlength hall
        exact ⟨_, .spelled hspells⟩
      · have hhalf : digits.length = 2 * (digits.length / 2) := by omega
        exact ⟨_, .invalidLength hhalf (by omega) hall⟩
    · exact ⟨_, .badByte heven hsplit hfront hbad⟩
  · exact ⟨_, .oddLength hodd⟩

theorem read_eq_iff : read text = outcome ↔ Reading (compact text) outcome := by
  constructor
  · intro hread
    obtain ⟨other, hreading⟩ := exists_reading (compact text)
    rw [← hread, read_of_reading hreading]
    exact hreading
  · exact read_of_reading

theorem read_eq_ok_iff {f : Fingerprint} :
    read text = .ok f ↔ Hex.Spells (compact text) f.bytes.toList := by
  rw [read_eq_iff]
  constructor
  · intro hreading
    cases hreading with
    | spelled hspells => exact hspells
  · exact .spelled

theorem exists_read_eq_ok_iff : (∃ f, read text = .ok f) ↔
    (compact text).length = 40 ∧ ∀ byte ∈ compact text, Hex.IsDigit byte := by
  constructor
  · rintro ⟨f, hread⟩
    have hspells := read_eq_ok_iff.mp hread
    have hlength := hspells.length_eq
    rw [Vector.length_toList] at hlength
    exact ⟨hlength, hspells.isDigit⟩
  · rintro ⟨hlength, hall⟩
    obtain ⟨f, hspells⟩ := exists_spelled hlength hall
    exact ⟨f, read_eq_ok_iff.mpr hspells⟩

end Reading

section Display

theorem grouped_display (f : Fingerprint) :
    Grouped (Hex.encodeUpper f.bytes.toList) f.display := by
  have hlength := f.length_digits
  refine ⟨(List.range 5).map (group (Hex.encodeUpper f.bytes.toList)), rfl, ?_, f.flatMap_groups,
    rfl⟩
  intro text hmem
  obtain ⟨n, hn, rfl⟩ := List.mem_map.mp hmem
  have hfive := List.mem_range.mp hn
  constructor
  · rw [group, String.length_ofList, List.length_take, List.length_drop]
    omega
  · intro c hc
    rw [group, String.toList_ofList] at hc
    obtain ⟨half, hhalf, rfl⟩ :=
      Hex.exists_half_of_mem (List.mem_of_mem_drop (List.mem_of_mem_take hc))
    exact Hex.upperDigit_mem half hhalf

theorem grouped_of_read {text : String} {f : Fingerprint} (hread : read text = .ok f) :
    Grouped ((letters text).map Char.toUpper) f.display := by
  have hspells := read_eq_ok_iff.mp hread
  have hcodes := Hex.codes_of_isDigit (letters text) hspells.isDigit
  rw [← hspells.encodeUpper_eq (letters text) hcodes]
  exact f.grouped_display

end Display

-- Of every text: the answer is the one its bytes amount to, and it is a fingerprint exactly if they
-- are forty digits; a bad byte is complained of as the character with its code; and to show what
-- was read is to group the letters of the text in upper case.
theorem reading_classified (text : String) :
    (∀ outcome, read text = outcome ↔ Reading (solid text) outcome) ∧
    ((∃ f, read text = .ok f) ↔
      (solid text).length = 40 ∧ ∀ byte ∈ solid text, Hex.IsDigit byte) ∧
    (∀ byte position, ∃ c : Char, c.toNat = byte.toNat ∧
      (Hex.Error.badByte byte position).message =
        "Invalid character " ++ Text.quotedChar c ++ " at position " ++ Nat.repr position) ∧
    (∀ f, read text = .ok f → Grouped ((letters text).map Char.toUpper) f.display) ∧
    (∀ f : Fingerprint, (∃ digits, Grouped digits f.display) ∧ read f.display = .ok f) ∧
    Function.Injective display := by
  rw [solid_eq_compact]
  refine ⟨fun _ => read_eq_iff, exists_read_eq_ok_iff, ?_, fun _ => grouped_of_read,
    fun f => ⟨⟨_, f.grouped_display⟩, f.read_display⟩, display_injective⟩
  intro byte position
  exact ⟨Char.ofNat byte.toNat, Hex.toNat_ofNat_toNat byte, rfl⟩

section Scrawl

def scrawled : Fingerprint :=
  ⟨#v[0x01, 0x23, 0x45, 0x67, 0x89, 0xab, 0xcd, 0xef, 0x01, 0x23,
    0x45, 0x67, 0x89, 0xab, 0xcd, 0xef, 0x01, 0x23, 0x45, 0x67]⟩

-- Both cases in one text, and a tab between the halves of a byte; `\u0131` is two bytes of UTF-8.
theorem reading_classified_scrawled :
    let text := " 0123 456789ab cdef 01234567 89ABCDEF 0123 4\t567"
    let foreign := "0\t0\u0131"
    read text = .ok scrawled ∧
      Grouped ("0123456789ABCDEF0123456789ABCDEF01234567".toList) scrawled.display ∧
      read foreign = .error (.invalidHex (.badByte 0xc4 2)) := by
  intro text foreign
  have hread : read text = .ok scrawled := by decide +kernel
  have hgrouped := (reading_classified text).2.2.2.1 scrawled hread
  have hletters : (letters text).map Char.toUpper =
      "0123456789ABCDEF0123456789ABCDEF01234567".toList := by decide +kernel
  have hfront : ∀ digit ∈ [48, 48], Hex.IsDigit digit := by
    intro digit hmem
    obtain rfl : digit = 48 := by simpa using hmem
    exact ⟨0, '0', rfl, .inl rfl⟩
  have hbad : ¬ Hex.IsDigit 0xc4 := Hex.digitValue?_eq_none_iff.mp rfl
  have hsolid : solid foreign = [48, 48] ++ 0xc4 :: [0xb1] := by decide +kernel
  rw [hletters] at hgrouped
  refine ⟨hread, hgrouped, ((reading_classified foreign).1 _).mpr ?_⟩
  rw [hsolid]
  exact .badByte rfl rfl hfront hbad

end Scrawl

end Parley.Fingerprint
