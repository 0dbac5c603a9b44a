import UsbHost.Command.Line
import UsbHost.Proofs.Text.Numeral

/-!
What a number among the arguments denotes. Its value is the exact one, however many digits it has,
and a value that does not fit the argument is refused and never cut.
-/

namespace UsbHost

namespace Numeral

/-- One or more digits that denote a value, behind one plus sign or none. -/
def IsNumeral (base : Nat) (text : List Char) (value : Nat) : Prop :=
  Spells base text value ∨ ∃ digits, text = '+' :: digits ∧ Spells base digits value

theorem append_eq_tooLarge {base limit start tail : Nat} {text : List Char}
    (denotes : Denotes base text tail) (within : start ≤ limit)
    (large : limit < start * base ^ text.length + tail) :
    append base limit start text = .error .tooLarge := by
  induction denotes generalizing start with
  | nil =>
      rw [List.length_nil, Nat.pow_zero] at large
      omega
  | @cons c digit rest value isDigit _ ih =>
      rw [append, digit?_eq_some_iff.mpr isDigit]
      dsimp only
      -- Either this digit passes the limit, or the excess shows among those that are left.
      by_cases passes : limit < start * base + digit
      · rw [if_pos passes]
      · rw [if_neg passes]
        refine ih (Nat.le_of_not_lt passes) ?_
        rw [List.length_cons] at large
        rw [appended_mul_pow]
        omega

theorem append_zero_eq_tooLarge {base limit value : Nat} {digits : List Char}
    (spells : Spells base digits value) (large : limit < value) :
    append base limit 0 digits = .error .tooLarge :=
  append_eq_tooLarge spells.denotes (Nat.zero_le limit) (by omega)

theorem IsNumeral.read_eq_tooLarge {base limit value : Nat} {text : List Char}
    (numeral : IsNumeral base text value) (large : limit < value) :
    read base limit text = .error .tooLarge := by
  fun_cases read base limit text with
  | case1 =>
      rcases numeral with spells | ⟨digits, same, -⟩
      · exact absurd rfl spells.nonempty
      · cases same
  | case2 =>
      rcases numeral with spells | ⟨digits, same, spells⟩
      · exact spells.not_plus.elim
      · cases same
        exact absurd rfl spells.nonempty
  | case3 rest =>
      rcases numeral with spells | ⟨digits, same, spells⟩
      · exact spells.not_plus.elim
      · cases same
        exact append_zero_eq_tooLarge spells large
  | case4 text _ _ unsigned =>
      rcases numeral with spells | ⟨digits, same, -⟩
      · exact append_zero_eq_tooLarge spells large
      · exact (unsigned digits same).elim

theorem IsNumeral.afterHexSign?_eq_none {base value : Nat} {text : List Char}
    (numeral : IsNumeral base text value) : afterHexSign? text = none := by
  have plain {digits : List Char} (spells : Spells base digits value) :
      ∀ c ∈ digits, c ≠ 'x' ∧ c ≠ 'X' := by
    intro c member
    obtain ⟨digit, isDigit⟩ := spells.denotes.digits c member
    exact isDigit.ne_hexSign
  refine Numeral.afterHexSign?_eq_none ?_
  rcases numeral with spells | ⟨digits, rfl, spells⟩
  · exact plain spells
  · exact List.forall_mem_cons.mpr ⟨by decide, plain spells⟩

end Numeral

inductive SpellsNumber (text : String) (value : Nat) : Prop
  | hexadecimal {rest}
      (signed : text.toList = '0' :: 'x' :: rest ∨ text.toList = '0' :: 'X' :: rest)
      (numeral : Numeral.IsNumeral 16 rest value)
  | decimal (numeral : Numeral.IsNumeral 10 text.toList value)

def numeralOf (text : String) : Nat × List Char :=
  match Numeral.afterHexSign? text.toList with
  | some rest => (16, rest)
  | none => (10, text.toList)

theorem spellsNumber_iff {text : String} {value : Nat} :
    SpellsNumber text value ↔ Numeral.IsNumeral (numeralOf text).1 (numeralOf text).2 value := by
  unfold numeralOf
  constructor
  · rintro (⟨signed, numeral⟩ | numeral)
    · rw [Numeral.afterHexSign?_eq_some_iff.mpr signed]
      exact numeral
    · rw [numeral.afterHexSign?_eq_none]
      exact numeral
  · intro numeral
    cases sign : Numeral.afterHexSign? text.toList with
    | some rest =>
        rw [sign] at numeral
        exact .hexadecimal (Numeral.afterHexSign?_eq_some_iff.mp sign) numeral
    | none =>
        rw [sign] at numeral
        exact .decimal numeral

theorem readNumber_eq (limit : Nat) (text : String) :
    readNumber limit text =
      match Numeral.read (numeralOf text).1 widestNumber (numeralOf text).2 with
      | .error cause => .error (.invalid text cause)
      | .ok number => if number ≤ limit then .ok number else .error (.outOfRange text) := by
  unfold readNumber numeralOf
  cases Numeral.afterHexSign? text.toList with
  | some rest => rfl
  | none => rfl

theorem readNumber_eq_ok_iff {limit value : Nat} {text : String} (narrow : limit ≤ widestNumber) :
    readNumber limit text = .ok value ↔ SpellsNumber text value ∧ value ≤ limit := by
  rw [readNumber_eq, spellsNumber_iff]
  generalize numeralOf text = numeral
  cases read : Numeral.read numeral.1 widestNumber numeral.2 with
  | error cause =>
      refine iff_of_false nofun ?_
      rintro ⟨spelled, bounded⟩
      cases read.symm.trans (Numeral.read_eq_ok_iff.mpr ⟨spelled, Nat.le_trans bounded narrow⟩)
  | ok number =>
      have spelled := Numeral.read_eq_ok_iff.mp read
      dsimp only
      constructor
      · intro same
        split at same
        · rename_i bounded
          cases same
          exact ⟨spelled.1, bounded⟩
        · cases same
      · rintro ⟨spelledToo, bounded⟩
        have readToo := Numeral.read_eq_ok_iff.mpr ⟨spelledToo, Nat.le_trans bounded narrow⟩
        cases read.symm.trans readToo
        exact if_pos bounded

theorem SpellsNumber.outOfRange {limit value : Nat} {text : String}
    (spells : SpellsNumber text value) (large : limit < value) (wide : value ≤ widestNumber) :
    readNumber limit text = .error (.outOfRange text) := by
  rw [readNumber_eq, Numeral.read_eq_ok_iff.mpr ⟨spellsNumber_iff.mp spells, wide⟩]
  exact if_neg (Nat.not_le_of_lt large)

theorem SpellsNumber.tooLarge {limit value : Nat} {text : String}
    (spells : SpellsNumber text value) (large : widestNumber < value) :
    readNumber limit text = .error (.invalid text .tooLarge) := by
  rw [readNumber_eq, (spellsNumber_iff.mp spells).read_eq_tooLarge large]

theorem limit_of_rule {kind : CommandKind} {rule : OptionRule} {limit : Nat}
    (isRule : rule ∈ kind.rules) (isNumber : rule.kind = .number limit) :
    limit ∈ [8, 16, 64].map fun width => 2 ^ width - 1 := by
  have limited : ∀ kind ∈ CommandKind.all, ∀ rule ∈ kind.rules, ∀ limit,
      rule.kind = .number limit → limit ∈ [8, 16, 64].map fun width => 2 ^ width - 1 := by
    simp [CommandKind.all, CommandKind.rules, CommandKind.targetRules, CommandKind.setupRules,
      CommandKind.json, CommandKind.help, CommandKind.pipe, CommandKind.data, widestNumber]
  exact limited kind (by cases kind <;> decide) rule isRule limit isNumber

/-- For each width of an argument, a text is read as a number exactly if it denotes that number and
the number fits. A number that does not fit is refused, within 64 bits and beyond. -/
theorem numbers_read_exactly (width : Nat) (isWidth : width ∈ [8, 16, 64]) (text : String) :
    (∀ value, readNumber (2 ^ width - 1) text = .ok value ↔
        SpellsNumber text value ∧ value < 2 ^ width) ∧
      (∀ value, SpellsNumber text value → 2 ^ width ≤ value → value < 2 ^ 64 →
        readNumber (2 ^ width - 1) text = .error (.outOfRange text)) ∧
      (∀ value, SpellsNumber text value → 2 ^ 64 ≤ value →
        readNumber (2 ^ width - 1) text = .error (.invalid text .tooLarge)) ∧
      ∀ kind, ∀ rule ∈ CommandKind.rules kind, ∀ limit, rule.kind = .number limit →
        limit ∈ [8, 16, 64].map fun width => 2 ^ width - 1 := by
  have positive : 0 < 2 ^ width := Nat.two_pow_pos width
  have narrow : 2 ^ width - 1 ≤ widestNumber := by
    revert isWidth width
    decide
  have widest : widestNumber = 2 ^ 64 - 1 := rfl
  refine ⟨fun value => ?_, fun value spells large wide => ?_, fun value spells large => ?_, ?_⟩
  · rw [readNumber_eq_ok_iff narrow, Nat.le_sub_one_iff_lt positive]
  · exact spells.outOfRange (by omega) (by omega)
  · exact spells.tooLarge (by omega)
  · intro kind rule isRule limit isNumber
    exact limit_of_rule isRule isNumber

theorem padded_numbers_read :
    readNumber (2 ^ 8 - 1) "0X+00fF" = .ok 255 ∧
      readNumber (2 ^ 8 - 1) "+0256" = .error (.outOfRange "+0256") ∧
      readNumber (2 ^ 8 - 1) "18446744073709551616" =
        .error (.invalid "18446744073709551616" .tooLarge) := by
  have byte : Numeral.read 16 (2 ^ 64) "+00fF".toList = .ok 255 := rfl
  have wide : Numeral.read 10 (2 ^ 64) "+0256".toList = .ok 256 := rfl
  have wider : Numeral.read 10 (2 ^ 64) "18446744073709551616".toList = .ok (2 ^ 64) := rfl
  refine ⟨?_, ?_, ?_⟩
  · exact ((numbers_read_exactly 8 (by decide) _).1 255).mpr
      ⟨.hexadecimal (Or.inr rfl) (Numeral.read_eq_ok_iff.mp byte).1, by decide⟩
  · exact (numbers_read_exactly 8 (by decide) _).2.1 256
      (.decimal (Numeral.read_eq_ok_iff.mp wide).1) (by decide) (by decide)
  · exact (numbers_read_exactly 8 (by decide) _).2.2.1 (2 ^ 64)
      (.decimal (Numeral.read_eq_ok_iff.mp wider).1) (by decide)

end UsbHost
