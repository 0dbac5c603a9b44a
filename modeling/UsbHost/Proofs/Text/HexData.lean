import UsbHost.Text.HexData
import UsbHost.Proofs.Text.Numeral

/-!
Every spelling of a byte string is read as that byte string: two digits for each byte in either
case, behind one sign or none, with separators anywhere. One of the spellings is the one that is
printed, so what is printed can be read again.
-/

namespace UsbHost.HexData

inductive Digits : List Char → Bytes → Prop
  | nil : Digits [] []
  | cons {high low byte rest bytes} (isHigh : Numeral.IsDigit 16 high (byte.toNat / 16))
      (isLow : Numeral.IsDigit 16 low (byte.toNat % 16)) (digits : Digits rest bytes) :
      Digits (high :: low :: rest) (byte :: bytes)

inductive Loosened : List Char → List Char → Prop
  | nil : Loosened [] []
  | keep {c core text} (loosened : Loosened core text) : Loosened (c :: core) (c :: text)
  | insert {c core text} (separates : isBlank c = true ∨ c = ':' ∨ c = ',')
      (loosened : Loosened core text) : Loosened core (c :: text)

/-- A text is a sign or none and the digits of bytes, with separators anywhere. -/
def Spells (text : List Char) (bytes : Bytes) : Prop :=
  ∃ sign digits, sign ∈ [[], ['0', 'x'], ['0', 'X']] ∧ Digits digits bytes ∧
    Loosened (sign ++ digits) text

theorem isSeparator_iff {c : Char} :
    isSeparator c = true ↔ isBlank c = true ∨ c = ':' ∨ c = ',' := by
  simp only [isSeparator, Bool.or_eq_true, beq_iff_eq, or_assoc]

theorem Loosened.filter {core text : List Char} (loosened : Loosened core text)
    (bare : ∀ c ∈ core, isSeparator c = false) :
    text.filter (fun c => !isSeparator c) = core := by
  induction loosened with
  | nil => rfl
  | keep _ ih =>
      rw [List.forall_mem_cons] at bare
      rw [List.filter_cons, bare.1, ih bare.2]
      rfl
  | insert separates _ ih =>
      rw [List.filter_cons, isSeparator_iff.mpr separates]
      exact ih bare

theorem loosened_filter (text : List Char) :
    Loosened (text.filter fun c => !isSeparator c) text := by
  induction text with
  | nil => exact .nil
  | cons c rest ih =>
      rw [List.filter_cons]
      cases separates : isSeparator c with
      | true => exact .insert (isSeparator_iff.mp separates) ih
      | false => exact .keep ih

theorem isSeparator_of_isDigit {c : Char} {value : Nat} (isDigit : Numeral.IsDigit 16 c value) :
    isSeparator c = false := by
  have bare : (Numeral.lowerDigits ++ Numeral.upperDigits).all fun c => !isSeparator c := by decide
  simpa using List.all_eq_true.mp bare c isDigit.mem

theorem isSeparator_of_mem_sign {sign : List Char} (isSign : sign ∈ [[], ['0', 'x'], ['0', 'X']])
    {c : Char} (member : c ∈ sign) : isSeparator c = false := by
  have bare : [[], ['0', 'x'], ['0', 'X']].all fun sign => sign.all fun c => !isSeparator c := by
    decide
  simpa using List.all_eq_true.mp (List.all_eq_true.mp bare sign isSign) c member

theorem denotes_singleton_iff {base value : Nat} {c : Char} :
    Numeral.Denotes base [c] value ↔ Numeral.IsDigit base c value := by
  constructor
  · intro denotes
    cases denotes with
    | cons isDigit empty =>
        cases empty
        simpa using isDigit
  · intro isDigit
    simpa using Numeral.Denotes.cons isDigit .nil

theorem denotes_pair_iff {high low : Char} {byte : UInt8} :
    Numeral.Denotes 16 [high, low] byte.toNat ↔
      Numeral.IsDigit 16 high (byte.toNat / 16) ∧ Numeral.IsDigit 16 low (byte.toNat % 16) := by
  generalize byte.toNat = value
  constructor
  · intro denotes
    cases denotes with
    | @cons _ top _ bottom isHigh rest =>
        have isLow := denotes_singleton_iff.mp rest
        have below := isLow.1
        rw [List.length_singleton, Nat.pow_one, show (top * 16 + bottom) / 16 = top by omega,
          show (top * 16 + bottom) % 16 = bottom by omega]
        exact ⟨isHigh, isLow⟩
  · rintro ⟨isHigh, isLow⟩
    have total : value / 16 * 16 ^ [low].length + value % 16 = value := by
      rw [List.length_singleton]
      omega
    exact total ▸ .cons isHigh (denotes_singleton_iff.mpr isLow)

namespace Digits

variable {digits : List Char} {bytes : Bytes}

theorem isDigit (spelled : Digits digits bytes) :
    ∀ c ∈ digits, ∃ value, Numeral.IsDigit 16 c value := by
  induction spelled with
  | nil => nofun
  | cons isHigh isLow _ ih =>
      rw [List.forall_mem_cons, List.forall_mem_cons]
      exact ⟨⟨_, isHigh⟩, ⟨_, isLow⟩, ih⟩

theorem length (spelled : Digits digits bytes) : digits.length = 2 * bytes.length := by
  induction spelled with
  | nil => rfl
  | cons _ _ _ ih =>
      simp only [List.length_cons, ih]
      omega

theorem afterHexSign?_eq_none (spelled : Digits digits bytes) :
    Numeral.afterHexSign? digits = none := by
  refine Numeral.afterHexSign?_eq_none fun c member => ?_
  obtain ⟨value, isDigit⟩ := spelled.isDigit c member
  exact isDigit.ne_hexSign

theorem readPairs (spelled : Digits digits bytes) : readPairs digits = .ok bytes := by
  induction spelled with
  | nil => rfl
  | @cons high low byte rest bytes isHigh isLow _ ih =>
      have denotes := denotes_pair_iff.mpr ⟨isHigh, isLow⟩
      have read : Numeral.read 16 255 [high, low] = .ok byte.toNat :=
        Numeral.read_eq_ok_iff.mpr ⟨Or.inl ⟨nofun, denotes⟩, Nat.le_of_lt_succ byte.toNat_lt⟩
      rw [HexData.readPairs, read]
      simp only [ih, UInt8.ofNat_toNat]

end Digits

theorem payload_of_loosened {sign digits text : List Char}
    (isSign : sign ∈ [[], ['0', 'x'], ['0', 'X']]) (bare : ∀ c ∈ digits, isSeparator c = false)
    (unsigned : Numeral.afterHexSign? digits = none) (loosened : Loosened (sign ++ digits) text) :
    payload text = digits := by
  have bareToo : ∀ c ∈ sign ++ digits, isSeparator c = false := by
    intro c member
    rcases List.mem_append.mp member with member | member
    · exact isSeparator_of_mem_sign isSign member
    · exact bare c member
  have signed : (Numeral.afterHexSign? (sign ++ digits)).getD (sign ++ digits) = digits := by
    simp only [List.mem_cons, List.not_mem_nil, or_false] at isSign
    rcases isSign with rfl | rfl | rfl
    · rw [List.nil_append, unsigned]
      rfl
    · rfl
    · rfl
  rw [payload, loosened.filter bareToo]
  exact signed

theorem Spells.payload {text : List Char} {bytes : Bytes} (spells : Spells text bytes) :
    Digits (payload text) bytes := by
  obtain ⟨sign, digits, isSign, spelled, loosened⟩ := spells
  have bare : ∀ c ∈ digits, isSeparator c = false := by
    intro c member
    obtain ⟨value, isDigit⟩ := spelled.isDigit c member
    exact isSeparator_of_isDigit isDigit
  rw [payload_of_loosened isSign bare spelled.afterHexSign?_eq_none loosened]
  exact spelled

theorem Spells.read {text : String} {bytes : Bytes} (spells : Spells text.toList bytes) :
    read text = .ok bytes := by
  have spelled := spells.payload
  have plain : ((HexData.payload text.toList).any fun c => decide (0x7f < c.toNat)) = false := by
    rw [List.any_eq_false]
    intro c member
    obtain ⟨value, isDigit⟩ := spelled.isDigit c member
    have below := isDigit.toNat_lt
    simp only [decide_eq_true_eq]
    omega
  have even : ¬(HexData.payload text.toList).length % 2 = 1 := by
    rw [spelled.length]
    omega
  unfold HexData.read
  simp only [plain, Bool.false_eq_true, if_false, if_neg even]
  exact spelled.readPairs

theorem isDigit_hexDigit : ∀ value < 16, Numeral.IsDigit 16 (Bytes.hexDigit value) value := by
  have lower : ∀ value < 16, Numeral.lowerDigits[value]? = some (Bytes.hexDigit value) := by decide
  exact fun value small => ⟨small, Or.inl (lower value small)⟩

theorem digits_packedChars (bytes : Bytes) : Digits (Bytes.packedChars bytes) bytes := by
  induction bytes with
  | nil => exact .nil
  | cons byte rest ih =>
      have bound := byte.toNat_lt
      exact .cons (isDigit_hexDigit _ (by omega)) (isDigit_hexDigit _ (by omega)) ih

theorem loosened_spacedChars (bytes : Bytes) :
    Loosened (Bytes.packedChars bytes) (Bytes.spacedChars bytes) := by
  fun_induction Bytes.spacedChars bytes with
  | case1 => exact .nil
  | case2 byte => exact .keep (.keep .nil)
  | case3 byte rest _ ih => exact .keep (.keep (.insert (Or.inl rfl) ih))

theorem spells_spacedChars (bytes : Bytes) : Spells (Bytes.spacedChars bytes) bytes :=
  ⟨[], Bytes.packedChars bytes, by decide, digits_packedChars bytes, loosened_spacedChars bytes⟩

/-- Every spelling of a byte string is read as it, the printed one among them. -/
theorem spellings_read :
    (∀ (text : String) (bytes : Bytes), Spells text.toList bytes → read text = .ok bytes) ∧
      ∀ bytes, read (Bytes.spaced bytes) = .ok bytes := by
  refine ⟨fun text bytes => Spells.read, fun bytes => Spells.read ?_⟩
  rw [Bytes.spaced, String.toList_ofList]
  exact spells_spacedChars bytes

def looseText : String := "\u30000 ,X:0\t0 fF:0\u00859"

theorem loose_text_read :
    Spells looseText.toList [0x00, 0xff, 0x09] ∧ read looseText = .ok [0x00, 0xff, 0x09] := by
  have spelled : Digits ['0', '0', 'f', 'F', '0', '9'] [0x00, 0xff, 0x09] :=
    .cons ⟨by decide, by decide⟩ ⟨by decide, by decide⟩ <|
      .cons ⟨by decide, by decide⟩ ⟨by decide, by decide⟩ <|
        .cons ⟨by decide, by decide⟩ ⟨by decide, by decide⟩ .nil
  have core : looseText.toList.filter (fun c => !isSeparator c) =
      ['0', 'X'] ++ ['0', '0', 'f', 'F', '0', '9'] := by decide
  have spells : Spells looseText.toList [0x00, 0xff, 0x09] :=
    ⟨['0', 'X'], _, by decide, spelled, core ▸ loosened_filter looseText.toList⟩
  exact ⟨spells, spellings_read.1 looseText _ spells⟩

end UsbHost.HexData
