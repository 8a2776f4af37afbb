import Parley.Hex

/-!
What hex texts mean, said without reading them. A byte is the digit of a half byte when it is the
ASCII code of the character at that place among the sixteen digits, in either case. Main statements:
what pairs of digits spell is what reading them gives, and the first byte that is no digit is the
one reading complains about.
-/

namespace Parley.Hex

-- The digits, each at the place of its value.
def upperDigits : List Char := "0123456789ABCDEF".toList

def lowerDigits : List Char := "0123456789abcdef".toList

def Writes (byte : UInt8) (half : Nat) : Prop :=
  ∃ digit : Char, digit.toNat = byte.toNat ∧
    (upperDigits[half]? = some digit ∨ lowerDigits[half]? = some digit)

def IsDigit (byte : UInt8) : Prop :=
  ∃ half, Writes byte half

-- Two digits for each byte, that of its high half first.
inductive Spells : List UInt8 → List UInt8 → Prop
  | nil : Spells [] []
  | cons {high low byte : UInt8} {h l : Nat} {digits bytes : List UInt8} :
      Writes high h → Writes low l → byte.toNat = 16 * h + l → Spells digits bytes →
      Spells (high :: low :: digits) (byte :: bytes)

section Digits

variable {byte : UInt8} {half : Nat}

theorem code_upperDigits : ∀ half < 16, upperDigits[half]?.map Char.toNat =
    some (if half < 10 then 48 + half else 55 + half) := by
  decide

theorem code_lowerDigits : ∀ half < 16, lowerDigits[half]?.map Char.toNat =
    some (if half < 10 then 48 + half else 87 + half) := by
  decide

theorem half_lt_of_writes (hwrites : Writes byte half) : half < 16 := by
  obtain ⟨digit, _, hupper | hlower⟩ := hwrites
  · exact (List.getElem?_eq_some_iff.mp hupper).1
  · exact (List.getElem?_eq_some_iff.mp hlower).1

theorem writes_iff : Writes byte half ↔ half < 10 ∧ byte.toNat = 48 + half ∨
    10 ≤ half ∧ half < 16 ∧ (byte.toNat = 55 + half ∨ byte.toNat = 87 + half) := by
  constructor
  · intro hwrites
    have hhalf := half_lt_of_writes hwrites
    obtain ⟨digit, hcode, hupper | hlower⟩ := hwrites
    · have hvalue := code_upperDigits half hhalf
      rw [hupper, Option.map_some, Option.some_inj, hcode] at hvalue
      split at hvalue <;> omega
    · have hvalue := code_lowerDigits half hhalf
      rw [hlower, Option.map_some, Option.some_inj, hcode] at hvalue
      split at hvalue <;> omega
  · intro hcode
    have hhalf : half < 16 := by omega
    obtain ⟨upper, hupper, hupperCode⟩ := Option.map_eq_some_iff.mp (code_upperDigits half hhalf)
    obtain ⟨lower, hlower, hlowerCode⟩ := Option.map_eq_some_iff.mp (code_lowerDigits half hhalf)
    rcases hcode with ⟨hten, hcode⟩ | ⟨hten, _, hcode | hcode⟩
    · rw [if_pos hten, ← hcode] at hupperCode
      exact ⟨upper, hupperCode, .inl hupper⟩
    · rw [if_neg (by omega), ← hcode] at hupperCode
      exact ⟨upper, hupperCode, .inl hupper⟩
    · rw [if_neg (by omega), ← hcode] at hlowerCode
      exact ⟨lower, hlowerCode, .inr hlower⟩

theorem digitValue?_eq_some_iff : digitValue? byte = some half ↔ Writes byte half := by
  rw [writes_iff, digitValue?]
  repeat' split
  all_goals
    simp only [Option.some_inj, reduceCtorEq, false_iff]
    omega

theorem digitValue?_eq_none_iff : digitValue? byte = none ↔ ¬ IsDigit byte := by
  rw [Option.eq_none_iff_forall_ne_some]
  simp only [ne_eq, digitValue?_eq_some_iff, IsDigit, not_exists]

theorem readDigit_of_writes (hwrites : Writes byte half) (position : Nat) :
    readDigit byte position = .ok half := by
  rw [readDigit, digitValue?_eq_some_iff.mpr hwrites]

theorem readDigit_of_not_isDigit (hbad : ¬ IsDigit byte) (position : Nat) :
    readDigit byte position = .error (.badByte byte position) := by
  rw [readDigit, digitValue?_eq_none_iff.mpr hbad]

end Digits

section Pairs

variable {digits bytes : List UInt8}

theorem Spells.length_eq (hspells : Spells digits bytes) : digits.length = 2 * bytes.length := by
  induction hspells with
  | nil => rfl
  | cons _ _ _ _ ih =>
    simp only [List.length_cons, ih]
    omega

theorem Spells.isDigit (hspells : Spells digits bytes) : ∀ byte ∈ digits, IsDigit byte := by
  induction hspells with
  | nil =>
    intro byte hmem
    cases hmem
  | cons hhigh hlow _ _ ih =>
    rw [List.forall_mem_cons, List.forall_mem_cons]
    exact ⟨⟨_, hhigh⟩, ⟨_, hlow⟩, ih⟩

-- Digits in pairs always spell something.
theorem exists_spells : ∀ digits : List UInt8, digits.length % 2 = 0 →
    (∀ byte ∈ digits, IsDigit byte) → ∃ bytes, Spells digits bytes
  | [], _, _ => ⟨[], .nil⟩
  | [_], heven, _ => by
    rw [List.length_singleton] at heven
    omega
  | high :: low :: rest, heven, hdigits => by
    obtain ⟨⟨h, hhigh⟩, hmore⟩ := List.forall_mem_cons.mp hdigits
    obtain ⟨⟨l, hlow⟩, hrest⟩ := List.forall_mem_cons.mp hmore
    rw [List.length_cons, List.length_cons] at heven
    obtain ⟨bytes, hspells⟩ := exists_spells rest (by omega) hrest
    have hh := half_lt_of_writes hhigh
    have hl := half_lt_of_writes hlow
    have hbyte : (UInt8.ofNat (16 * h + l)).toNat = 16 * h + l := by
      rw [UInt8.toNat_ofNat']
      omega
    exact ⟨_, .cons hhigh hlow hbyte hspells⟩

theorem readPairs_of_spells (hspells : Spells digits bytes) (position : Nat) :
    readPairs position digits = .ok bytes := by
  induction hspells generalizing position with
  | nil => rfl
  | cons hhigh hlow hbyte _ ih =>
    simp only [readPairs, readDigit_of_writes hhigh, readDigit_of_writes hlow, ih, bind,
      Except.bind, pure, Except.pure, ← hbyte, UInt8.ofNat_toNat]

-- The digits in front are taken two at a time, so the bad byte comes first or second in its pair.
theorem readPairs_of_not_isDigit {byte : UInt8} (hbad : ¬ IsDigit byte) (position : Nat) :
    ∀ front rest : List UInt8, (front ++ byte :: rest).length % 2 = 0 →
      (∀ digit ∈ front, IsDigit digit) → readPairs position (front ++ byte :: rest) =
        .error (.badByte byte (position + front.length))
  | [], [], heven, _ => by
    rw [List.nil_append, List.length_singleton] at heven
    omega
  | [], low :: rest, _, _ => by
    simp only [List.nil_append, readPairs, readDigit_of_not_isDigit hbad, bind, Except.bind,
      List.length_nil, Nat.add_zero]
  | [digit], rest, _, hfront => by
    obtain ⟨half, hdigit⟩ := hfront digit List.mem_cons_self
    simp only [List.cons_append, List.nil_append, readPairs, readDigit_of_writes hdigit,
      readDigit_of_not_isDigit hbad, bind, Except.bind, List.length_singleton]
  | high :: low :: front, rest, heven, hfront => by
    obtain ⟨⟨h, hhigh⟩, hmore⟩ := List.forall_mem_cons.mp hfront
    obtain ⟨⟨l, hlow⟩, hrest⟩ := List.forall_mem_cons.mp hmore
    rw [List.cons_append, List.cons_append, List.length_cons, List.length_cons] at heven
    have ih := readPairs_of_not_isDigit hbad (position + 2) front rest (by omega) hrest
    have hplace : position + 2 + front.length = position + (front.length + 1 + 1) := by omega
    simp only [List.cons_append, readPairs, readDigit_of_writes hhigh, readDigit_of_writes hlow,
      ih, bind, Except.bind, List.length_cons, hplace]

end Pairs

section Bytes

variable {digits bytes front rest : List UInt8} {byte : UInt8}

theorem decode_of_odd (hodd : digits.length % 2 = 1) : decode digits = .error .oddLength := by
  rw [decode, if_pos hodd]

theorem decode_of_spells (hspells : Spells digits bytes) : decode digits = .ok bytes := by
  have hlength := hspells.length_eq
  rw [decode, if_neg (by omega), readPairs_of_spells hspells]

theorem decode_of_not_isDigit (heven : (front ++ byte :: rest).length % 2 = 0)
    (hfront : ∀ digit ∈ front, IsDigit digit) (hbad : ¬ IsDigit byte) :
    decode (front ++ byte :: rest) = .error (.badByte byte front.length) := by
  rw [decode, if_neg (by omega), readPairs_of_not_isDigit hbad 0 front rest heven hfront,
    Nat.zero_add]

-- Without a first bad byte there is none.
theorem isDigit_or_exists_first (digits : List UInt8) : (∀ byte ∈ digits, IsDigit byte) ∨
    ∃ front byte rest, digits = front ++ byte :: rest ∧ (∀ digit ∈ front, IsDigit digit) ∧
      ¬ IsDigit byte := by
  induction digits with
  | nil =>
    left
    intro byte hmem
    cases hmem
  | cons first more ih =>
    by_cases hfirst : IsDigit first
    · rcases ih with hall | ⟨front, byte, rest, rfl, hfront, hbad⟩
      · exact .inl (List.forall_mem_cons.mpr ⟨hfirst, hall⟩)
      · have hmore := List.forall_mem_cons.mpr ⟨hfirst, hfront⟩
        exact .inr ⟨first :: front, byte, rest, rfl, hmore, hbad⟩
    · exact .inr ⟨[], first, more, rfl, List.forall_mem_nil _, hfirst⟩

end Bytes

section Letters

theorem upperDigit_mem : ∀ half < 16, upperDigit half ∈ upperDigits := by
  decide

-- A digit in upper case is the one that writing gives.
theorem toUpper_of_writes {c : Char} {byte : UInt8} {half : Nat} (hcode : c.toNat = byte.toNat)
    (hwrites : Writes byte half) : c.toUpper = upperDigit half := by
  have hupper : ∀ half < 16, upperDigits[half]?.map Char.toUpper = some (upperDigit half) := by
    decide
  have hlower : ∀ half < 16, lowerDigits[half]?.map Char.toUpper = some (upperDigit half) := by
    decide
  have hhalf := half_lt_of_writes hwrites
  obtain ⟨digit, hdigit, hplace⟩ := hwrites
  have hsame : c = digit := by
    rw [← Char.ofNat_toNat c, hcode, ← hdigit, Char.ofNat_toNat]
  subst hsame
  rcases hplace with hplace | hplace
  · have hvalue := hupper half hhalf
    rw [hplace] at hvalue
    exact Option.some.inj hvalue
  · have hvalue := hlower half hhalf
    rw [hplace] at hvalue
    exact Option.some.inj hvalue

-- Whatever case the digits of some bytes are in, in upper case they are what writing the bytes
-- gives.
theorem Spells.encodeUpper_eq {digits bytes : List UInt8} (hspells : Spells digits bytes) :
    ∀ letters : List Char, letters.map Char.toNat = digits.map UInt8.toNat →
      encodeUpper bytes = letters.map Char.toUpper := by
  induction hspells with
  | nil =>
    intro letters hcodes
    rw [List.map_eq_nil_iff.mp hcodes]
    rfl
  | @cons high low byte h l digits bytes hhigh hlow hbyte _ ih =>
    intro letters hcodes
    rw [List.map_cons, List.map_cons, List.map_eq_cons_iff] at hcodes
    obtain ⟨first, more, rfl, hfirst, hmore⟩ := hcodes
    obtain ⟨second, rest, rfl, hsecond, hrest⟩ := List.map_eq_cons_iff.mp hmore
    have hl := half_lt_of_writes hlow
    have hhalves : byte.toNat / 16 = h ∧ byte.toNat % 16 = l := by omega
    rw [encodeUpper, List.flatMap_cons, upperPair, hhalves.1, hhalves.2, List.map_cons,
      List.map_cons, toUpper_of_writes hfirst hhigh, toUpper_of_writes hsecond hlow,
      ← ih rest hrest]
    rfl

-- Every byte is the code of a character.
theorem toNat_ofNat_toNat (byte : UInt8) : (Char.ofNat byte.toNat).toNat = byte.toNat := by
  have hbyte := byte.toNat_lt
  have hvalid : byte.toNat.isValidChar := .inl (by omega)
  rw [Char.ofNat, dif_pos hvalid]
  rfl

-- Beyond ASCII the first byte of a character is too large for a digit.
theorem exists_lead {c : Char} (hbeyond : 127 < c.toNat) :
    ∃ byte ∈ String.utf8EncodeChar c, 192 ≤ byte.toNat := by
  have hlong : ¬ c.val.toNat ≤ 127 := Nat.not_le_of_lt hbeyond
  simp only [String.utf8EncodeChar, if_neg hlong]
  repeat' split
  all_goals
    refine ⟨_, List.mem_cons_self, ?_⟩
    rw [UInt8.toNat_ofNat']
    omega

theorem codes_of_isDigit_char {c : Char}
    (hdigits : ∀ byte ∈ String.utf8EncodeChar c, IsDigit byte) :
    (String.utf8EncodeChar c).map UInt8.toNat = [c.toNat] := by
  rcases Nat.lt_or_ge 127 c.toNat with hbeyond | hascii
  · obtain ⟨byte, hmem, hlead⟩ := exists_lead hbeyond
    obtain ⟨half, hwrites⟩ := hdigits byte hmem
    have hcode := writes_iff.mp hwrites
    omega
  · have hshort : c.val.toNat ≤ 127 := hascii
    simp only [String.utf8EncodeChar, if_pos hshort, List.map_singleton, UInt8.toNat_ofNat']
    rw [Nat.mod_eq_of_lt (by omega)]
    rfl

-- Letters whose UTF-8 bytes are all digits are ASCII.
theorem codes_of_isDigit (letters : List Char)
    (hdigits : ∀ byte ∈ letters.flatMap String.utf8EncodeChar, IsDigit byte) :
    letters.map Char.toNat = (letters.flatMap String.utf8EncodeChar).map UInt8.toNat := by
  induction letters with
  | nil => rfl
  | cons c rest ih =>
    rw [List.flatMap_cons] at hdigits ⊢
    rw [List.forall_mem_append] at hdigits
    rw [List.map_append, codes_of_isDigit_char hdigits.1, ← ih hdigits.2]
    rfl

end Letters

end Parley.Hex
