import UsbHost.Json.Lexer
import UsbHost.Json.Writer
import UsbHost.Proofs.Text.Numeral

/-!
Numbers in JSON: whole digits behind a minus sign or none, with a fraction and an exponent that may
be missing. All of them are read, and a plain sequence of digits is read as the number that it
denotes.
-/

namespace UsbHost.Json

def AllDigits (digits : List Char) : Prop := digits ≠ [] ∧ ∀ c ∈ digits, c.isDigit = true

def WholePart (digits : List Char) : Prop :=
  AllDigits digits ∧ (digits.head? = some '0' → digits = ['0'])

def FractionPart (text : List Char) : Prop :=
  text = [] ∨ ∃ digits, text = '.' :: digits ∧ AllDigits digits

def ExponentPart (text : List Char) : Prop :=
  text = [] ∨ ∃ letter sign digits, text = letter :: (sign ++ digits) ∧
    (letter = 'e' ∨ letter = 'E') ∧ (sign = [] ∨ sign = ['+'] ∨ sign = ['-']) ∧ AllDigits digits

/-- The texts of numbers. One that has a sign, a fraction or an exponent has no value here. -/
inductive IsNumber : List Char → Option Nat → Prop
  | natural {digits value} (whole : WholePart digits)
      (denotes : Numeral.Denotes 10 digits value) : IsNumber digits (some value)
  | other {sign digits fraction exponent} (isSign : sign = [] ∨ sign = ['-'])
      (whole : WholePart digits) (isFraction : FractionPart fraction)
      (isExponent : ExponentPart exponent) (more : sign ++ (fraction ++ exponent) ≠ []) :
      IsNumber (sign ++ (digits ++ (fraction ++ exponent))) none

def StopsDigits (text : List Char) : Prop := ∀ c ∈ text.head?, c.isDigit = false

theorem takeWhile_digits {digits tail : List Char} (all : ∀ c ∈ digits, c.isDigit = true)
    (stops : StopsDigits tail) :
    (digits ++ tail).takeWhile Char.isDigit = digits ∧
      (digits ++ tail).dropWhile Char.isDigit = tail := by
  rw [List.takeWhile_append_of_pos all, List.dropWhile_append_of_pos all]
  cases tail with
  | nil => simp
  | cons c rest =>
      have stop : c.isDigit = false := stops c rfl
      rw [List.takeWhile_cons_of_neg (by simp [stop]), List.dropWhile_cons_of_neg (by simp [stop])]
      exact ⟨List.append_nil _, rfl⟩

theorem AllDigits.allDigits {digits : List Char} (all : AllDigits digits) :
    allDigits digits = true := by
  rw [Json.allDigits, List.all_eq_true.mpr all.2, List.isEmpty_eq_false_iff.mpr all.1]
  rfl

theorem WholePart.isWhole {digits : List Char} (whole : WholePart digits) :
    isWhole digits = true := by
  fun_cases Json.isWhole digits with
  | case1 => exact absurd rfl whole.1.1
  | case2 => rfl
  | case3 first rest other =>
      rw [bne_iff_ne]
      rintro rfl
      cases whole.2 rfl
      exact other rfl rfl

theorem ExponentPart.stops {exponent : List Char} (isExponent : ExponentPart exponent) :
    StopsDigits exponent := by
  rcases isExponent with rfl | ⟨letter, sign, digits, rfl, rfl | rfl, -⟩
  · nofun
  · rintro c ⟨⟩
    decide
  · rintro c ⟨⟩
    decide

theorem ExponentPart.isExponent {exponent : List Char} (part : ExponentPart exponent) :
    isExponent exponent = true := by
  rcases part with rfl | ⟨letter, sign, digits, rfl, isLetter, isSign, all⟩
  · rfl
  · have named : (letter == 'e' || letter == 'E') = true := by simpa using isLetter
    unfold Json.isExponent
    rw [Bool.and_eq_true]
    refine ⟨named, ?_⟩
    rcases isSign with rfl | rfl | rfl
    · rw [List.nil_append]
      split
      · exact absurd (all.2 '+' List.mem_cons_self) (by decide)
      · exact absurd (all.2 '-' List.mem_cons_self) (by decide)
      · exact all.allDigits
    · exact all.allDigits
    · exact all.allDigits

theorem FractionPart.stops {fraction exponent : List Char} (isFraction : FractionPart fraction)
    (isExponent : ExponentPart exponent) : StopsDigits (fraction ++ exponent) := by
  rcases isFraction with rfl | ⟨digits, rfl, -⟩
  · exact isExponent.stops
  · rintro c ⟨⟩
    decide

theorem FractionPart.isTail {fraction exponent : List Char} (isFraction : FractionPart fraction)
    (part : ExponentPart exponent) : isTail (fraction ++ exponent) = true := by
  rcases isFraction with rfl | ⟨digits, rfl, nonempty, all⟩
  · rw [List.nil_append]
    fun_cases Json.isTail exponent with
    | case1 rest =>
        rcases part with absent | ⟨letter, sign, digits, same, rfl | rfl, -⟩
        · cases absent
        · cases same
        · cases same
    | case2 => exact part.isExponent
  · obtain ⟨taken, left⟩ := takeWhile_digits all part.stops
    rw [List.cons_append, Json.isTail, taken, left, part.isExponent,
      List.isEmpty_eq_false_iff.mpr nonempty]
    rfl

def unsigned : List Char → List Char
  | '-' :: rest => rest
  | rest => rest

theorem number?_eq (text : List Char) :
    number? text =
      if isWhole ((unsigned text).takeWhile Char.isDigit) &&
          isTail ((unsigned text).dropWhile Char.isDigit) then
        some (if ((unsigned text).dropWhile Char.isDigit).isEmpty &&
            (unsigned text).length == text.length then
          some (valueOfDigits ((unsigned text).takeWhile Char.isDigit)) else none)
      else none := by
  unfold number? unsigned
  rfl

theorem unsigned_append {sign text : List Char} (isSign : sign = [] ∨ sign = ['-'])
    (starts : ∃ c rest, text = c :: rest ∧ c ≠ '-') : unsigned (sign ++ text) = text := by
  rcases isSign with rfl | rfl
  · obtain ⟨c, rest, rfl, plain⟩ := starts
    unfold unsigned
    split
    · rename_i same
      cases same
      exact absurd rfl plain
    · rfl
  · rfl

theorem number?_parts {sign digits fraction exponent : List Char}
    (isSign : sign = [] ∨ sign = ['-']) (whole : WholePart digits)
    (isFraction : FractionPart fraction) (isExponent : ExponentPart exponent) :
    number? (sign ++ (digits ++ (fraction ++ exponent))) =
      some (if sign ++ (fraction ++ exponent) = [] then some (valueOfDigits digits) else none) := by
  have starts : ∃ c rest, digits ++ (fraction ++ exponent) = c :: rest ∧ c ≠ '-' := by
    obtain ⟨c, rest, rfl⟩ := List.exists_cons_of_ne_nil whole.1.1
    refine ⟨c, _, rfl, ?_⟩
    rintro rfl
    exact absurd (whole.1.2 '-' List.mem_cons_self) (by decide)
  obtain ⟨taken, left⟩ := takeWhile_digits whole.1.2 (isFraction.stops isExponent)
  rw [number?_eq, unsigned_append isSign starts, taken, left, whole.isWhole,
    isFraction.isTail isExponent]
  simp [and_comm]

theorem valueOfDigits_eq {digits : List Char} {value : Nat}
    (denotes : Numeral.Denotes 10 digits value) : valueOfDigits digits = value := by
  have folded (start : Nat) : digits.foldl (fun value c => value * 10 + (c.toNat - '0'.toNat))
      start = start * 10 ^ digits.length + value := by
    induction denotes generalizing start with
    | nil => simp
    | @cons c digit rest value isDigit _ ih =>
        have code : c.toNat - '0'.toNat = digit := by
          rw [isDigit.toNat_eq]
          exact Nat.add_sub_cancel_left 48 digit
        rw [List.foldl_cons, ih, code, Numeral.appended_mul_pow, List.length_cons, Nat.add_assoc]
  rw [valueOfDigits, folded, Nat.zero_mul, Nat.zero_add]

namespace IsNumber

variable {text : List Char} {natural : Option Nat}

theorem number? (isNumber : IsNumber text natural) : number? text = some natural := by
  cases isNumber with
  | natural whole denotes =>
      have parts := number?_parts (Or.inl rfl) whole (Or.inl rfl) (Or.inl rfl)
      rw [List.append_nil, List.append_nil, List.nil_append] at parts
      rw [parts, valueOfDigits_eq denotes]
      rfl
  | other isSign whole isFraction isExponent more =>
      rw [number?_parts isSign whole isFraction isExponent, if_neg more]

theorem isNumberChar (isNumber : IsNumber text natural) :
    ∀ c ∈ text, isNumberChar c = true := by
  have digit {digits : List Char} (all : AllDigits digits) :
      ∀ c ∈ digits, Json.isNumberChar c = true := by
    intro c member
    simp [Json.isNumberChar, all.2 c member]
  cases isNumber with
  | natural whole => exact digit whole.1
  | @other sign digits fraction exponent isSign whole isFraction isExponent =>
      have signed : ∀ c ∈ sign, Json.isNumberChar c = true := by
        rcases isSign with rfl | rfl
        · nofun
        · exact List.forall_mem_singleton.mpr rfl
      have fractional : ∀ c ∈ fraction, Json.isNumberChar c = true := by
        rcases isFraction with rfl | ⟨after, rfl, all⟩
        · nofun
        · exact List.forall_mem_cons.mpr ⟨by decide, digit all⟩
      have raised : ∀ c ∈ exponent, Json.isNumberChar c = true := by
        rcases isExponent with rfl | ⟨letter, turn, after, rfl, isLetter, isTurn, all⟩
        · nofun
        · refine List.forall_mem_cons.mpr ⟨?_, List.forall_mem_append.mpr ⟨?_, digit all⟩⟩
          · rcases isLetter with rfl | rfl <;> decide
          · rcases isTurn with rfl | rfl | rfl
            · nofun
            · exact List.forall_mem_singleton.mpr rfl
            · exact List.forall_mem_singleton.mpr rfl
      simp only [List.forall_mem_append]
      exact ⟨signed, digit whole.1, fractional, raised⟩

theorem nonempty (isNumber : IsNumber text natural) : text ≠ [] := by
  cases isNumber with
  | natural whole => exact whole.1.1
  | other _ whole => simp [whole.1.1]

end IsNumber

theorem allDigits_toDigits (value : Nat) : AllDigits (Nat.toDigits 10 value) := by
  refine ⟨Nat.toDigits_ne_nil, ?_⟩
  intro c member
  obtain ⟨digit, isDigit⟩ := (Numeral.denotes_toDigits value).digits c member
  exact isDigit.isDigit

theorem head?_toDigits {value : Nat} (positive : 0 < value) :
    (Nat.toDigits 10 value).head? ≠ some '0' := by
  have notZero : ∀ digit < 10, 0 < digit → Nat.digitChar digit ≠ '0' := by decide
  induction value using Nat.strongRecOn with
  | ind value ih =>
      by_cases small : value < 10
      · rw [Nat.toDigits_of_lt_base small, List.head?_singleton]
        exact fun same => notZero value small positive (Option.some.inj same)
      · have above : 10 ≤ value := Nat.le_of_not_lt small
        have top : value / 10 < value := Nat.div_lt_self positive (by decide)
        have first := ih _ top (Nat.div_pos above (by decide))
        obtain ⟨c, rest, parts⟩ :=
          List.exists_cons_of_ne_nil (Nat.toDigits_ne_nil : Nat.toDigits 10 (value / 10) ≠ [])
        rw [parts] at first
        rw [Nat.toDigits_of_base_le (by decide) above, parts]
        exact first

theorem wholePart_toDigits (value : Nat) : WholePart (Nat.toDigits 10 value) := by
  refine ⟨allDigits_toDigits value, ?_⟩
  intro zeroFirst
  rcases Nat.eq_zero_or_pos value with rfl | positive
  · rfl
  · exact absurd zeroFirst (head?_toDigits positive)

theorem isNumber_decimal (natural : Option Nat) : IsNumber (decimal natural) natural := by
  cases natural with
  | some value => exact .natural (wholePart_toDigits value) (Numeral.denotes_toDigits value)
  | none =>
      have zero : WholePart ['0'] := wholePart_toDigits 0
      exact .other (Or.inr rfl) zero (Or.inl rfl) (Or.inl rfl) (List.cons_ne_nil _ _)

end UsbHost.Json
