import UsbHost.Config.DeviceId
import UsbHost.Proofs.Text.Numeral

/-!
Which texts are identifiers. After the sign come one to four hexadecimal digits, and also a plus
sign with one to three digits, since what follows the sign is read as a numeral and a numeral may
have one.
-/

namespace UsbHost

theorem length_le_utf8Length (text : List Char) : text.length ≤ utf8Length text := by
  induction text with
  | nil => exact Nat.le_refl 0
  | cons c rest ih =>
      have positive := c.utf8Size_pos
      rw [utf8Length, List.length_cons]
      omega

theorem utf8Length_eq_length {text : List Char} (ascii : ∀ c ∈ text, c.toNat < 0x80) :
    utf8Length text = text.length := by
  induction text with
  | nil => rfl
  | cons c rest ih =>
      have single : c.utf8Size = 1 := by
        have below := ascii c List.mem_cons_self
        exact Char.utf8Size_eq_one_iff.mpr (UInt32.le_iff_toNat_le.mpr (Nat.le_of_lt_succ below))
      rw [utf8Length, List.length_cons, single, Nat.add_comm,
        ih fun later member => ascii later (List.mem_cons_of_mem c member)]

theorem readId_eq_ok_iff {name text : String} {id : UInt16} :
    readId name text = .ok id ↔
      ∃ rest, Numeral.afterHexSign? text.toList = some rest ∧ utf8Length rest ≤ 4 ∧
        Numeral.read 16 0xffff rest = .ok id.toNat := by
  unfold readId
  cases Numeral.afterHexSign? text.toList with
  | none => simp
  | some rest =>
      simp only [Option.some.injEq, exists_eq_left']
      by_cases misfit : rest.isEmpty ∨ 4 < utf8Length rest
      · rw [if_pos misfit]
        refine iff_of_false nofun ?_
        rintro ⟨short, read⟩
        rcases misfit with empty | long
        · rw [List.isEmpty_iff.mp empty] at read
          cases read
        · omega
      · have short : utf8Length rest ≤ 4 := by omega
        rw [if_neg misfit]
        cases read : Numeral.read 16 0xffff rest with
        | error cause => exact iff_of_false nofun nofun
        | ok value =>
            have small : value ≤ 0xffff := (Numeral.read_eq_ok_iff.mp read).2
            have whole : (UInt16.ofNat value).toNat = value :=
              UInt16.toNat_ofNat_of_lt (Nat.lt_succ_of_le small)
            simp only [short, true_and, Except.ok.injEq]
            rw [← UInt16.toNat_inj, whole]

/-- A text is a sign and then `lead` and hexadecimal digits, four characters at most, and the digits
denote the identifier. -/
def SpellsId (lead : List Char) (text : String) (id : UInt16) : Prop :=
  ∃ digits, (text.toList = '0' :: 'x' :: (lead ++ digits) ∨
      text.toList = '0' :: 'X' :: (lead ++ digits)) ∧
    (lead ++ digits).length ≤ 4 ∧ Numeral.Spells 16 digits id.toNat

theorem SpellsId.readId {lead : List Char} {name text : String} {id : UInt16}
    (isLead : lead = [] ∨ lead = ['+']) (spells : SpellsId lead text id) :
    readId name text = .ok id := by
  obtain ⟨digits, signed, short, spells⟩ := spells
  refine readId_eq_ok_iff.mpr
    ⟨lead ++ digits, Numeral.afterHexSign?_eq_some_iff.mpr signed, ?_, ?_⟩
  · have ascii : ∀ c ∈ lead ++ digits, c.toNat < 0x80 := by
      intro c member
      rcases List.mem_append.mp member with member | member
      · rcases isLead with rfl | rfl
        · cases member
        · rw [List.mem_singleton.mp member]
          decide
      · obtain ⟨digit, isDigit⟩ := spells.denotes.digits c member
        exact isDigit.toNat_lt
    rwa [utf8Length_eq_length ascii]
  · refine Numeral.read_eq_ok_iff.mpr ⟨?_, Nat.le_of_lt_succ id.toNat_lt⟩
    rcases isLead with rfl | rfl
    · exact Or.inl spells
    · exact Or.inr ⟨digits, rfl, spells⟩

theorem SpellsId.plus_notMem {text : String} {id : UInt16} (spells : SpellsId [] text id) :
    '+' ∉ text.toList := by
  obtain ⟨digits, signed, -, spells⟩ := spells
  have none : '+' ∉ digits := by
    intro member
    obtain ⟨digit, isDigit⟩ := spells.denotes.digits '+' member
    exact isDigit.ne_plus rfl
  rcases signed with signed | signed
  · rw [signed]
    simpa using none
  · rw [signed]
    simpa using none

/-- A text is read as an identifier exactly if it is a sign and one to four hexadecimal digits that
denote it, or a sign, a plus sign and one to three of them. Without the plus sign only the former
are. -/
theorem identifiers_may_have_plus (name text : String) (id : UInt16) :
    (readId name text = .ok id ↔ SpellsId [] text id ∨ SpellsId ['+'] text id) ∧
      (readId name text = .ok id ∧ '+' ∉ text.toList ↔ SpellsId [] text id) := by
  have accepts : readId name text = .ok id ↔ SpellsId [] text id ∨ SpellsId ['+'] text id := by
    constructor
    · intro read
      obtain ⟨rest, signed, short, read⟩ := readId_eq_ok_iff.mp read
      have signed := Numeral.afterHexSign?_eq_some_iff.mp signed
      have short := Nat.le_trans (length_le_utf8Length rest) short
      rcases (Numeral.read_eq_ok_iff.mp read).1 with spells | ⟨digits, rfl, spells⟩
      · exact Or.inl ⟨rest, signed, short, spells⟩
      · exact Or.inr ⟨digits, signed, short, spells⟩
    · rintro (spells | spells)
      · exact spells.readId (Or.inl rfl)
      · exact spells.readId (Or.inr rfl)
  refine ⟨accepts, ?_, fun spells => ⟨accepts.mpr (Or.inl spells), spells.plus_notMem⟩⟩
  rintro ⟨read, unsigned⟩
  rcases accepts.mp read with spells | ⟨digits, signed, -⟩
  · exact spells
  · rcases signed with signed | signed <;> simp [signed] at unsigned

theorem plus_passes_for_digit :
    readId "VID" "0x+12" = .ok 0x12 ∧ ¬∃ id, SpellsId [] "0x+12" id := by
  refine ⟨rfl, ?_⟩
  rintro ⟨id, spells⟩
  exact spells.plus_notMem (by decide)

end UsbHost
