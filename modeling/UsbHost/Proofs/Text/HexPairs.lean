import UsbHost.Proofs.Config.DeviceId
import UsbHost.Proofs.Text.HexData

/-!
Which texts are byte strings. Each byte is read as a numeral of two characters, and a numeral may
have a plus sign; so besides the spellings there are the texts in which a plus sign and one digit
stand for a byte. Nothing else is accepted.
-/

namespace UsbHost.HexData

/-- Two digits, the high one first, or a plus sign and one digit. -/
def IsPair (high low : Char) (byte : UInt8) : Prop :=
  Numeral.IsDigit 16 high (byte.toNat / 16) ∧ Numeral.IsDigit 16 low (byte.toNat % 16) ∨
    high = '+' ∧ Numeral.IsDigit 16 low byte.toNat

inductive Pairs : List Char → Bytes → Prop
  | nil : Pairs [] []
  | cons {high low byte rest bytes} (isPair : IsPair high low byte) (pairs : Pairs rest bytes) :
      Pairs (high :: low :: rest) (byte :: bytes)

def SpellsPairs (text : List Char) (bytes : Bytes) : Prop :=
  ∃ sign digits, sign ∈ [[], ['0', 'x'], ['0', 'X']] ∧ Pairs digits bytes ∧
    Loosened (sign ++ digits) text

theorem read_pair_eq_ok_iff {high low : Char} {byte : UInt8} :
    Numeral.read 16 255 [high, low] = .ok byte.toNat ↔ IsPair high low byte := by
  rw [Numeral.read_eq_ok_iff, IsPair, ← denotes_pair_iff]
  have small : byte.toNat ≤ 255 := Nat.le_of_lt_succ byte.toNat_lt
  constructor
  · rintro ⟨spells | ⟨digits, same, spells⟩, -⟩
    · exact Or.inl spells.denotes
    · cases same
      exact Or.inr ⟨rfl, denotes_singleton_iff.mp spells.denotes⟩
  · rintro (denotes | ⟨rfl, isDigit⟩)
    · exact ⟨Or.inl ⟨nofun, denotes⟩, small⟩
    · exact ⟨Or.inr ⟨[low], rfl, nofun, denotes_singleton_iff.mpr isDigit⟩, small⟩

theorem pairs_of_readPairs {digits : List Char} {bytes : Bytes} (even : ¬digits.length % 2 = 1)
    (read : readPairs digits = .ok bytes) : Pairs digits bytes := by
  fun_induction readPairs digits generalizing bytes with
  | case1 | case2 => cases read
  | case3 high low rest value readFirst later readRest ih =>
      cases read
      have small : value ≤ 255 := (Numeral.read_eq_ok_iff.mp readFirst).2
      have whole : (UInt8.ofNat value).toNat = value :=
        UInt8.toNat_ofNat_of_lt (Nat.lt_succ_of_le small)
      have isPair : IsPair high low (UInt8.ofNat value) :=
        read_pair_eq_ok_iff.mp (whole.symm ▸ readFirst)
      have evenToo : ¬rest.length % 2 = 1 := by
        simp only [List.length_cons] at even
        omega
      exact .cons isPair (ih evenToo readRest)
  | case4 text short =>
      cases read
      cases text with
      | nil => exact .nil
      | cons c rest =>
          cases rest with
          | nil => exact absurd rfl even
          | cons next rest => exact (short c next rest rfl).elim

namespace Pairs

variable {digits : List Char} {bytes : Bytes}

theorem readPairs (pairs : Pairs digits bytes) : readPairs digits = .ok bytes := by
  induction pairs with
  | nil => rfl
  | @cons high low byte rest bytes isPair _ ih =>
      rw [HexData.readPairs, read_pair_eq_ok_iff.mpr isPair]
      simp only [ih, UInt8.ofNat_toNat]

theorem length (pairs : Pairs digits bytes) : digits.length = 2 * bytes.length := by
  induction pairs with
  | nil => rfl
  | cons _ _ ih =>
      simp only [List.length_cons, ih]
      omega

theorem isDigit (pairs : Pairs digits bytes) :
    ∀ c ∈ digits, c = '+' ∨ ∃ value, Numeral.IsDigit 16 c value := by
  induction pairs with
  | nil => nofun
  | cons isPair _ ih =>
      simp only [List.forall_mem_cons]
      rcases isPair with ⟨isHigh, isLow⟩ | ⟨plus, isLow⟩
      · exact ⟨Or.inr ⟨_, isHigh⟩, Or.inr ⟨_, isLow⟩, ih⟩
      · exact ⟨Or.inl plus, Or.inr ⟨_, isLow⟩, ih⟩

theorem bare (pairs : Pairs digits bytes) : ∀ c ∈ digits, isSeparator c = false := by
  intro c member
  rcases pairs.isDigit c member with rfl | ⟨value, isDigit⟩
  · decide
  · exact isSeparator_of_isDigit isDigit

theorem afterHexSign?_eq_none (pairs : Pairs digits bytes) :
    Numeral.afterHexSign? digits = none := by
  refine Numeral.afterHexSign?_eq_none fun c member => ?_
  rcases pairs.isDigit c member with rfl | ⟨value, isDigit⟩
  · decide
  · exact isDigit.ne_hexSign

theorem digits_of_unsigned (pairs : Pairs digits bytes) (unsigned : '+' ∉ digits) :
    Digits digits bytes := by
  induction pairs with
  | nil => exact .nil
  | cons isPair _ ih =>
      simp only [List.mem_cons, not_or] at unsigned
      rcases isPair with ⟨isHigh, isLow⟩ | ⟨plus, -⟩
      · exact .cons isHigh isLow (ih unsigned.2.2)
      · exact absurd plus.symm unsigned.1

end Pairs

theorem Digits.pairs {digits : List Char} {bytes : Bytes} (spelled : Digits digits bytes) :
    Pairs digits bytes := by
  induction spelled with
  | nil => exact .nil
  | cons isHigh isLow _ ih => exact .cons (Or.inl ⟨isHigh, isLow⟩) ih

theorem loosened_payload (text : List Char) :
    ∃ sign ∈ [[], ['0', 'x'], ['0', 'X']], Loosened (sign ++ payload text) text := by
  have loosened := loosened_filter text
  unfold payload
  generalize (text.filter fun c => !isSeparator c) = kept at loosened ⊢
  dsimp only
  cases signed : Numeral.afterHexSign? kept with
  | none => exact ⟨[], by decide, loosened⟩
  | some rest =>
      rcases Numeral.afterHexSign?_eq_some_iff.mp signed with rfl | rfl
      · exact ⟨['0', 'x'], by decide, loosened⟩
      · exact ⟨['0', 'X'], by decide, loosened⟩

theorem spellsPairs_iff {text : List Char} {bytes : Bytes} :
    SpellsPairs text bytes ↔ Pairs (payload text) bytes := by
  constructor
  · rintro ⟨sign, digits, isSign, pairs, loosened⟩
    rwa [payload_of_loosened isSign pairs.bare pairs.afterHexSign?_eq_none loosened]
  · intro pairs
    obtain ⟨sign, isSign, loosened⟩ := loosened_payload text
    exact ⟨sign, payload text, isSign, pairs, loosened⟩

theorem read_eq_ok_iff {text : String} {bytes : Bytes} :
    read text = .ok bytes ↔ SpellsPairs text.toList bytes := by
  rw [spellsPairs_iff]
  unfold read
  dsimp only
  by_cases foreign : ((payload text.toList).any fun c => decide (0x7f < c.toNat)) = true
  · rw [if_pos foreign]
    refine iff_of_false nofun fun pairs => ?_
    obtain ⟨c, member, large⟩ := List.any_eq_true.mp foreign
    have large := of_decide_eq_true large
    rcases pairs.isDigit c member with rfl | ⟨value, isDigit⟩
    · exact absurd large (by decide)
    · have below := isDigit.toNat_lt
      omega
  · rw [if_neg foreign]
    by_cases odd : (payload text.toList).length % 2 = 1
    · rw [if_pos odd]
      refine iff_of_false nofun fun pairs => ?_
      rw [pairs.length] at odd
      omega
    · rw [if_neg odd]
      exact ⟨pairs_of_readPairs odd, Pairs.readPairs⟩

theorem Loosened.mem_iff {core text : List Char} (loosened : Loosened core text) {c : Char}
    (bare : isSeparator c = false) : c ∈ text ↔ c ∈ core := by
  induction loosened with
  | nil => rfl
  | keep _ ih => rw [List.mem_cons, List.mem_cons, ih]
  | @insert other core text separates _ ih =>
      have different : c ≠ other := by
        rintro rfl
        rw [isSeparator_iff.mpr separates] at bare
        cases bare
      rw [List.mem_cons, ih]
      exact or_iff_right different

theorem spells_iff {text : List Char} {bytes : Bytes} :
    Spells text bytes ↔ SpellsPairs text bytes ∧ '+' ∉ text := by
  have bare : isSeparator '+' = false := by decide
  constructor
  · rintro ⟨sign, digits, isSign, spelled, loosened⟩
    refine ⟨⟨sign, digits, isSign, spelled.pairs, loosened⟩, ?_⟩
    rw [loosened.mem_iff bare, List.mem_append, not_or]
    have unsigned : ∀ sign ∈ [[], ['0', 'x'], ['0', 'X']], '+' ∉ sign := by decide
    refine ⟨unsigned sign isSign, fun member => ?_⟩
    obtain ⟨value, isDigit⟩ := spelled.isDigit '+' member
    exact isDigit.ne_plus rfl
  · rintro ⟨⟨sign, digits, isSign, pairs, loosened⟩, unsigned⟩
    rw [loosened.mem_iff bare, List.mem_append, not_or] at unsigned
    exact ⟨sign, digits, isSign, pairs.digits_of_unsigned unsigned.2, loosened⟩

theorem foreign_or_ascii (text : String) :
    read text = .error (.foreignCharacters text) ∨ ∀ c ∈ payload text.toList, c.toNat < 0x80 := by
  by_cases foreign : ((payload text.toList).any fun c => decide (0x7f < c.toNat)) = true
  · exact Or.inl (if_pos foreign)
  · refine Or.inr fun c member => ?_
    rw [Bool.not_eq_true, List.any_eq_false] at foreign
    have below := foreign c member
    rw [decide_eq_true_eq] at below
    omega

/-- A text is read as bytes exactly if it spells a pair for each of them, and without a plus sign
exactly if it spells their digits. Where nothing foreign is found, a character ends at every byte,
so a pair can be cut off anywhere. -/
theorem bytes_may_have_plus (text : String) (bytes : Bytes) :
    (read text = .ok bytes ↔ SpellsPairs text.toList bytes) ∧
      (read text = .ok bytes ∧ '+' ∉ text.toList ↔ Spells text.toList bytes) ∧
      (read text = .error (.foreignCharacters text) ∨
        ∀ position, utf8Length ((payload text.toList).take position) =
          min position (utf8Length (payload text.toList))) := by
  refine ⟨read_eq_ok_iff, ?_, ?_⟩
  · rw [read_eq_ok_iff, spells_iff]
  · refine (foreign_or_ascii text).imp_right fun ascii position => ?_
    have asciiTaken : ∀ c ∈ (payload text.toList).take position, c.toNat < 0x80 :=
      fun c member => ascii c (List.mem_of_mem_take member)
    rw [utf8Length_eq_length ascii, utf8Length_eq_length asciiTaken, List.length_take]

theorem plus_passes_for_half : read "+1" = .ok [1] ∧ ¬∃ bytes, Spells "+1".toList bytes := by
  refine ⟨rfl, ?_⟩
  rintro ⟨bytes, spells⟩
  exact (spells_iff.mp spells).2 (by decide)

end UsbHost.HexData
