import Mathlib.Algebra.Ring.Nat
import UsbHost.Text.Numeral

/-!
What numerals denote. A digit stands for its place in the row of digits, in either case, and digits
in a row for the sum of their values times powers of the base. Reading accepts one or more digits,
with or without a plus sign, that denote a value within the limit, and nothing else.
-/

namespace UsbHost.Numeral

def lowerDigits : List Char :=
  ['0', '1', '2', '3', '4', '5', '6', '7', '8', '9', 'a', 'b', 'c', 'd', 'e', 'f']

def upperDigits : List Char :=
  ['0', '1', '2', '3', '4', '5', '6', '7', '8', '9', 'A', 'B', 'C', 'D', 'E', 'F']

def IsDigit (base : Nat) (c : Char) (value : Nat) : Prop :=
  value < base ∧ (lowerDigits[value]? = some c ∨ upperDigits[value]? = some c)

/-- Digits of a base, the highest first, and the value that they denote. -/
inductive Denotes (base : Nat) : List Char → Nat → Prop
  | nil : Denotes base [] 0
  | cons {c digit rest value} (isDigit : IsDigit base c digit) (denotes : Denotes base rest value) :
      Denotes base (c :: rest) (digit * base ^ rest.length + value)

theorem eq_some_iff_toNat {row : List Char} {code : Nat → Nat} (size : row.length = 16)
    (codes : ∀ value < 16, row[value]?.map Char.toNat = some (code value)) {value : Nat}
    {c : Char} : row[value]? = some c ↔ value < 16 ∧ c.toNat = code value := by
  constructor
  · intro found
    have below : value < 16 := size ▸ (List.getElem?_eq_some_iff.mp found).1
    have coded := codes value below
    rw [found] at coded
    exact ⟨below, Option.some.inj coded⟩
  · rintro ⟨below, coded⟩
    obtain ⟨other, found, same⟩ := Option.map_eq_some_iff.mp (codes value below)
    rw [found, Char.toNat_inj.mp (same.trans coded.symm)]

theorem isDigit_iff_toNat {base value : Nat} {c : Char} :
    IsDigit base c value ↔
      value < base ∧ (value < 10 ∧ c.toNat = 48 + value ∨
        10 ≤ value ∧ value < 16 ∧ (c.toNat = 87 + value ∨ c.toNat = 55 + value)) := by
  have lower := @eq_some_iff_toNat lowerDigits
    (fun value => if value < 10 then 48 + value else 87 + value) rfl (by decide) value c
  have upper := @eq_some_iff_toNat upperDigits
    (fun value => if value < 10 then 48 + value else 55 + value) rfl (by decide) value c
  rw [IsDigit, lower, upper]
  by_cases decimal : value < 10
  · simp only [if_pos decimal]
    omega
  · simp only [if_neg decimal]
    omega

theorem digit?_eq_some_iff {base value : Nat} {c : Char} :
    digit? base c = some value ↔ IsDigit base c value := by
  have decimal : '0' ≤ c ∧ c ≤ '9' ↔ 48 ≤ c.toNat ∧ c.toNat ≤ 57 := Iff.rfl
  have lower : 'a' ≤ c ∧ c ≤ 'f' ↔ 97 ≤ c.toNat ∧ c.toNat ≤ 102 := Iff.rfl
  have upper : 'A' ≤ c ∧ c ≤ 'F' ↔ 65 ≤ c.toNat ∧ c.toNat ≤ 70 := Iff.rfl
  have codes : '0'.toNat = 48 ∧ 'a'.toNat = 97 ∧ 'A'.toNat = 65 := ⟨rfl, rfl, rfl⟩
  rw [isDigit_iff_toNat, digit?]
  simp only [decimal, lower, upper, codes, Option.ite_none_right_eq_some, Option.some.injEq]
  split
  · omega
  split
  · omega
  split
  · omega
  · omega

theorem IsDigit.unique {base value other : Nat} {c : Char} (isDigit : IsDigit base c value)
    (too : IsDigit base c other) : value = other :=
  Option.some.inj ((digit?_eq_some_iff.mpr isDigit).symm.trans (digit?_eq_some_iff.mpr too))

theorem IsDigit.toNat_lt {base value : Nat} {c : Char} (isDigit : IsDigit base c value) :
    c.toNat < 0x80 := by
  rw [isDigit_iff_toNat] at isDigit
  omega

theorem IsDigit.mem {base value : Nat} {c : Char} (isDigit : IsDigit base c value) :
    c ∈ lowerDigits ++ upperDigits := by
  rcases isDigit.2 with lower | upper
  · exact List.mem_append_left _ (List.mem_of_getElem? lower)
  · exact List.mem_append_right _ (List.mem_of_getElem? upper)

theorem IsDigit.ne_plus {base value : Nat} {c : Char} (isDigit : IsDigit base c value) :
    c ≠ '+' := by
  rintro rfl
  have code : '+'.toNat = 43 := rfl
  rw [isDigit_iff_toNat, code] at isDigit
  omega

theorem IsDigit.ne_hexSign {base value : Nat} {c : Char} (isDigit : IsDigit base c value) :
    c ≠ 'x' ∧ c ≠ 'X' := by
  have letters : 'x' ∉ lowerDigits ++ upperDigits ∧ 'X' ∉ lowerDigits ++ upperDigits := by decide
  refine ⟨?_, ?_⟩
  · rintro rfl
    exact letters.1 isDigit.mem
  · rintro rfl
    exact letters.2 isDigit.mem

theorem denotes_cons_iff {base digit value : Nat} {c : Char} {rest : List Char}
    (isDigit : IsDigit base c digit) :
    Denotes base (c :: rest) value ↔
      ∃ below, Denotes base rest below ∧ value = digit * base ^ rest.length + below := by
  constructor
  · intro denotes
    cases denotes with
    | cons isDigitToo denotes =>
        rw [isDigit.unique isDigitToo]
        exact ⟨_, denotes, rfl⟩
  · rintro ⟨below, denotes, rfl⟩
    exact .cons isDigit denotes

theorem Denotes.digits {base value : Nat} {text : List Char} (denotes : Denotes base text value) :
    ∀ c ∈ text, ∃ digit, IsDigit base c digit := by
  induction denotes with
  | nil => nofun
  | cons isDigit _ ih =>
      intro c member
      rcases List.mem_cons.mp member with rfl | member
      · exact ⟨_, isDigit⟩
      · exact ih c member

theorem appended_mul_pow (base start digit length : Nat) :
    (start * base + digit) * base ^ length =
      start * base ^ (length + 1) + digit * base ^ length := by
  rw [Nat.add_mul, Nat.mul_assoc, ← Nat.pow_succ']

theorem append_eq_ok_iff {base limit start value : Nat} {text : List Char}
    (within : start ≤ limit) :
    append base limit start text = .ok value ↔
      ∃ tail, Denotes base text tail ∧ value = start * base ^ text.length + tail ∧
        value ≤ limit := by
  induction text generalizing start with
  | nil =>
      rw [append, Except.ok.injEq]
      constructor
      · rintro rfl
        exact ⟨0, .nil, by simp, within⟩
      · rintro ⟨tail, denotes, rfl, -⟩
        cases denotes
        simp
  | cons c rest ih =>
      rw [append]
      cases read : digit? base c with
      | none =>
          refine iff_of_false nofun ?_
          rintro ⟨tail, denotes, -⟩
          cases denotes with
          | cons isDigit => cases read.symm.trans (digit?_eq_some_iff.mpr isDigit)
      | some digit =>
          have isDigit := digit?_eq_some_iff.mp read
          have next := appended_mul_pow base start digit rest.length
          have grows : start * base + digit ≤ (start * base + digit) * base ^ rest.length := by
            have positive : 0 < base := Nat.zero_lt_of_lt isDigit.1
            exact Nat.le_mul_of_pos_right _ (Nat.pow_pos positive)
          dsimp only
          by_cases large : limit < start * base + digit
          · rw [if_pos large]
            refine iff_of_false nofun ?_
            rintro ⟨tail, denotes, total, bounded⟩
            obtain ⟨below, -, rfl⟩ := (denotes_cons_iff isDigit).mp denotes
            rw [List.length_cons] at total
            omega
          · rw [if_neg large, ih (Nat.le_of_not_lt large), next, List.length_cons]
            constructor
            · rintro ⟨tail, denotes, total, bounded⟩
              exact ⟨_, .cons isDigit denotes, by omega, bounded⟩
            · rintro ⟨tail, denotes, total, bounded⟩
              obtain ⟨below, denotesBelow, rfl⟩ := (denotes_cons_iff isDigit).mp denotes
              exact ⟨below, denotesBelow, by omega, bounded⟩

structure Spells (base : Nat) (digits : List Char) (value : Nat) : Prop where
  nonempty : digits ≠ []
  denotes : Denotes base digits value

theorem append_zero_eq_ok_iff {base limit value : Nat} {text : List Char} (nonempty : text ≠ []) :
    append base limit 0 text = .ok value ↔ Spells base text value ∧ value ≤ limit := by
  rw [append_eq_ok_iff (Nat.zero_le limit)]
  simp only [Nat.zero_mul, Nat.zero_add]
  constructor
  · rintro ⟨tail, denotes, rfl, bounded⟩
    exact ⟨⟨nonempty, denotes⟩, bounded⟩
  · rintro ⟨spells, bounded⟩
    exact ⟨value, spells.denotes, rfl, bounded⟩

theorem Spells.not_plus {base value : Nat} {rest : List Char}
    (spells : Spells base ('+' :: rest) value) : False := by
  cases spells.denotes with
  | cons isDigit => exact isDigit.ne_plus rfl

theorem read_eq_ok_iff {base limit value : Nat} {text : List Char} :
    read base limit text = .ok value ↔
      (Spells base text value ∨ ∃ digits, text = '+' :: digits ∧ Spells base digits value) ∧
        value ≤ limit := by
  fun_cases read base limit text with
  | case1 =>
      refine iff_of_false nofun ?_
      rintro ⟨spells | ⟨digits, same, -⟩, -⟩
      · exact spells.nonempty rfl
      · cases same
  | case2 =>
      refine iff_of_false nofun ?_
      rintro ⟨spells | ⟨digits, same, spells⟩, -⟩
      · exact spells.not_plus
      · cases same
        exact spells.nonempty rfl
  | case3 rest nonempty =>
      rw [append_zero_eq_ok_iff nonempty]
      constructor
      · rintro ⟨spells, bounded⟩
        exact ⟨Or.inr ⟨rest, rfl, spells⟩, bounded⟩
      · rintro ⟨spells | ⟨digits, same, spells⟩, bounded⟩
        · exact spells.not_plus.elim
        · cases same
          exact ⟨spells, bounded⟩
  | case4 text nonempty _ unsigned =>
      rw [append_zero_eq_ok_iff nonempty]
      constructor
      · rintro ⟨spells, bounded⟩
        exact ⟨Or.inl spells, bounded⟩
      · rintro ⟨spells | ⟨digits, same, -⟩, bounded⟩
        · exact ⟨spells, bounded⟩
        · exact (unsigned digits same).elim

theorem afterHexSign?_eq_some_iff {text rest : List Char} :
    afterHexSign? text = some rest ↔ text = '0' :: 'x' :: rest ∨ text = '0' :: 'X' :: rest := by
  fun_cases afterHexSign? text with
  | case1 | case2 => simp
  | case3 _ lower upper =>
      refine iff_of_false nofun ?_
      rintro (same | same)
      · exact lower rest same
      · exact upper rest same

theorem afterHexSign?_eq_none {text : List Char} (plain : ∀ c ∈ text, c ≠ 'x' ∧ c ≠ 'X') :
    afterHexSign? text = none := by
  rw [Option.eq_none_iff_forall_ne_some]
  intro rest signed
  rcases afterHexSign?_eq_some_iff.mp signed with rfl | rfl
  · exact (plain 'x' (by simp)).1 rfl
  · exact (plain 'X' (by simp)).2 rfl

/-! Decimal digits -/

theorem IsDigit.toNat_eq {c : Char} {digit : Nat} (isDigit : IsDigit 10 c digit) :
    c.toNat = 48 + digit := by
  rw [isDigit_iff_toNat] at isDigit
  omega

theorem IsDigit.isDigit {c : Char} {digit : Nat} (isDigit : IsDigit 10 c digit) :
    c.isDigit = true := by
  have code := isDigit.toNat_eq
  have small := isDigit.1
  have range : c.isDigit = (decide (48 ≤ c.toNat) && decide (c.toNat ≤ 57)) := rfl
  rw [range, Bool.and_eq_true, decide_eq_true_eq, decide_eq_true_eq]
  omega

theorem isDigit_digitChar : ∀ digit < 10, IsDigit 10 (Nat.digitChar digit) digit := by
  have lower : ∀ digit < 10, lowerDigits[digit]? = some (Nat.digitChar digit) := by decide
  exact fun digit small => ⟨small, Or.inl (lower digit small)⟩

theorem Denotes.concat {base top digit : Nat} {digits : List Char} {c : Char}
    (denotes : Denotes base digits top) (isDigit : IsDigit base c digit) :
    Denotes base (digits ++ [c]) (top * base + digit) := by
  induction denotes with
  | nil => simpa using Denotes.cons isDigit .nil
  | @cons first firstDigit rest value isFirst _ ih =>
      have value_eq : (firstDigit * base ^ rest.length + value) * base + digit =
          firstDigit * base ^ (rest ++ [c]).length + (value * base + digit) := by
        rw [List.length_append, List.length_singleton, Nat.pow_succ, Nat.add_mul, Nat.mul_assoc,
          Nat.add_assoc]
      rw [value_eq]
      exact .cons isFirst ih

theorem denotes_toDigits (value : Nat) : Denotes 10 (Nat.toDigits 10 value) value := by
  induction value using Nat.strongRecOn with
  | ind value ih =>
      have last : value % 10 < 10 := Nat.mod_lt value (by decide)
      by_cases small : value < 10
      · rw [Nat.toDigits_of_lt_base small]
        simpa using Denotes.cons (isDigit_digitChar value small) .nil
      · have above : 10 ≤ value := Nat.le_of_not_lt small
        have top : value / 10 < value := Nat.div_lt_self (by omega) (by decide)
        have appended := (ih _ top).concat (isDigit_digitChar _ last)
        rw [Nat.div_add_mod'] at appended
        rwa [Nat.toDigits_of_base_le (by decide) above]

end UsbHost.Numeral
