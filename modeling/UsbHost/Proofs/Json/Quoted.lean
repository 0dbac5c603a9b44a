import UsbHost.Json.Lexer
import UsbHost.Json.Writer
import UsbHost.Proofs.Text.Numeral

/-!
Texts in JSON: plain characters, short escapes and escapes of a code unit between quotes. Two halves
of a surrogate pair in a row are one character; a half alone leaves the text unknown, and what
follows is read all the same.
-/

namespace UsbHost.Json

def shortEscapes : List (Char × Char) :=
  [('"', '"'), ('\\', '\\'), ('/', '/'), ('b', '\x08'), ('f', '\x0c'), ('n', '\n'), ('r', '\r'),
    ('t', '\t')]

def UnitDigits (digits : List Char) (unit : Nat) : Prop :=
  digits.length = 4 ∧ Numeral.Denotes 16 digits unit

/-- What stands between the quotes, with its pieces before any pair is joined. -/
inductive Body : List Char → List Piece → Prop
  | nil : Body [] []
  | plain {c rest pieces} (notQuote : c ≠ '"') (notBackslash : c ≠ '\\') (visible : 0x20 ≤ c.toNat)
      (body : Body rest pieces) : Body (c :: rest) (.char c :: pieces)
  | short {letter c rest pieces} (escaped : (letter, c) ∈ shortEscapes) (body : Body rest pieces) :
      Body ('\\' :: letter :: rest) (.char c :: pieces)
  | unicode {c digits rest pieces} (isUnit : UnitDigits digits c.toNat) (body : Body rest pieces) :
      Body ('\\' :: 'u' :: (digits ++ rest)) (.char c :: pieces)
  | high {half digits rest pieces} (isUnit : UnitDigits digits half)
      (isHigh : 0xd800 ≤ half ∧ half < 0xdc00) (body : Body rest pieces) :
      Body ('\\' :: 'u' :: (digits ++ rest)) (.high half :: pieces)
  | low {half digits rest pieces} (isUnit : UnitDigits digits half)
      (isLow : 0xdc00 ≤ half ∧ half < 0xe000) (body : Body rest pieces) :
      Body ('\\' :: 'u' :: (digits ++ rest)) (.low half :: pieces)

def pairOf (high low : Nat) : Piece :=
  .char (Char.ofNat (0x10000 + (high - 0xd800) * 0x400 + (low - 0xdc00)))

def paired : List Piece → List Piece
  | .high high :: .low low :: rest => pairOf high low :: paired rest
  | piece :: rest => piece :: paired rest
  | [] => []

def joined (pieces : List Piece) : Option String :=
  ((paired pieces).mapM Piece.char?).map String.ofList

inductive IsQuoted : List Char → Option String → Prop
  | between {text pieces} (body : Body text pieces) :
      IsQuoted ('"' :: text ++ ['"']) (joined pieces)

/-! Pieces in a row -/

def addPiece (pieces : List Piece) : Piece → List Piece
  | .low low =>
    match pieces with
    | .high high :: rest => pairOf high low :: rest
    | _ => .low low :: pieces
  | piece => piece :: pieces

theorem addUnit_char (c : Char) (pieces : List Piece) :
    addUnit c.toNat pieces = addPiece pieces (.char c) := by
  have scalar : c.toNat < 0xd800 ∨ 0xdfff < c.toNat ∧ c.toNat < 0x110000 := c.valid
  unfold addUnit
  rw [if_neg (by omega), if_neg (by omega), Char.ofNat_toNat]
  rfl

theorem addUnit_high {half : Nat} (isHigh : 0xd800 ≤ half ∧ half < 0xdc00) (pieces : List Piece) :
    addUnit half pieces = addPiece pieces (.high half) := by
  unfold addUnit
  rw [if_pos isHigh]
  rfl

theorem addUnit_low {half : Nat} (isLow : 0xdc00 ≤ half ∧ half < 0xe000) (pieces : List Piece) :
    addUnit half pieces = addPiece pieces (.low half) := by
  unfold addUnit
  rw [if_neg (by omega), if_pos isLow]
  rfl

def Completes : List Piece → List Piece → Prop
  | .high _ :: _, .low _ :: _ => True
  | _, _ => False

theorem addPiece_eq_cons {pieces rest : List Piece} {piece : Piece}
    (apart : ¬ Completes pieces (piece :: rest)) : addPiece pieces piece = piece :: pieces := by
  fun_cases addPiece pieces piece with
  | case1 => exact absurd trivial apart
  | case2 | case3 => rfl

theorem foldl_addPiece {pieces added : List Piece} (apart : ¬ Completes pieces added) :
    added.foldl addPiece pieces = (paired added).reverse ++ pieces := by
  fun_induction paired added generalizing pieces with
  | case1 high low rest ih =>
      have next := @ih (pairOf high low :: pieces) id
      rw [List.reverse_cons, List.append_assoc]
      exact next
  | case2 piece rest alone ih =>
      have stillApart : ¬ Completes (piece :: pieces) rest := by
        intro completes
        unfold Completes at completes
        split at completes
        · rename_i high _ low tail starts
          cases starts
          exact alone high low tail rfl rfl
        · exact completes
      rw [List.foldl_cons, addPiece_eq_cons apart, ih stillApart, List.reverse_cons,
        List.append_assoc]
      rfl
  | case3 => rfl

theorem textOf_foldl (added : List Piece) : textOf (added.foldl addPiece []) = joined added := by
  rw [foldl_addPiece id, textOf, List.append_nil, List.reverse_reverse]
  rfl

/-! The lexer inside a text -/

theorem scan_silent {state next : LexState} {c : Char} {rest : List Char}
    (silent : step state c = some ([], next)) : scan state (c :: rest) = scan next rest := by
  rw [scan, silent]
  exact Option.map_id'

theorem scan_unit {digits : List Char} {unit : Nat} (nonempty : digits ≠ [])
    (denotes : Numeral.Denotes 16 digits unit) (pieces : List Piece) (value : Nat)
    (rest : List Char) :
    scan (.unit pieces digits.length value) (digits ++ rest) =
      scan (.string (addUnit (value * 16 ^ digits.length + unit) pieces)) rest := by
  induction denotes generalizing value with
  | nil => exact absurd rfl nonempty
  | @cons c digit left below isDigit denotes ih =>
      have read := Numeral.digit?_eq_some_iff.mpr isDigit
      rw [List.length_cons, ← Nat.add_assoc, ← Numeral.appended_mul_pow]
      by_cases last : left = []
      · subst last
        cases denotes
        have taken : step (.unit pieces 1 value) c =
            some ([], .string (addUnit (value * 16 + digit) pieces)) := by
          rw [step, read]
          rfl
        simpa using scan_silent taken
      · have more : ¬ left.length + 1 ≤ 1 := by
          have := List.length_pos_iff.mpr last
          omega
        have taken : step (.unit pieces (left.length + 1) value) c =
            some ([], .unit pieces left.length (value * 16 + digit)) := by
          rw [step, read, Option.map_some, if_neg more]
          rfl
        rw [List.cons_append, scan_silent taken, ih last]

theorem scan_unitEscape {digits rest : List Char} {unit : Nat} {pieces : List Piece}
    (isUnit : UnitDigits digits unit) :
    scan (.string pieces) ('\\' :: 'u' :: (digits ++ rest)) =
      scan (.string (addUnit unit pieces)) rest := by
  have nonempty : digits ≠ [] := List.ne_nil_of_length_pos (by rw [isUnit.1]; decide)
  have read := scan_unit nonempty isUnit.2 pieces 0 rest
  rw [Nat.zero_mul, Nat.zero_add, isUnit.1] at read
  rw [scan_silent rfl, scan_silent rfl, read]

theorem step_escape {letter c : Char} {pieces : List Piece} (escaped : (letter, c) ∈ shortEscapes) :
    step (.escape pieces) letter = some ([], .string (.char c :: pieces)) := by
  have table : ∀ pair ∈ shortEscapes, pair.1 ≠ 'u' ∧ shortEscape? pair.1 = some pair.2 := by decide
  obtain ⟨notUnit, short⟩ := table _ escaped
  rw [step, if_neg (by simpa using notUnit), short]
  rfl

theorem Body.scan {body rest : List Char} {added pieces : List Piece} (isBody : Body body added) :
    scan (.string pieces) (body ++ rest) =
      scan (.string (added.foldl addPiece pieces)) rest := by
  induction isBody generalizing pieces with
  | nil => rfl
  | @plain c _ _ notQuote notBackslash visible _ ih =>
      have taken : step (.string pieces) c = some ([], .string (.char c :: pieces)) := by
        rw [step, if_neg (by simpa using notQuote), if_neg (by simpa using notBackslash),
          if_neg (Nat.not_lt.mpr visible)]
      rw [List.cons_append, scan_silent taken, ih]
      rfl
  | short escaped _ ih =>
      rw [List.cons_append, List.cons_append, scan_silent rfl, scan_silent (step_escape escaped),
        ih]
      rfl
  | unicode isUnit _ ih =>
      simp only [List.cons_append, List.append_assoc, List.foldl_cons]
      rw [scan_unitEscape isUnit, addUnit_char, ih]
  | high isUnit isHigh _ ih =>
      simp only [List.cons_append, List.append_assoc, List.foldl_cons]
      rw [scan_unitEscape isUnit, addUnit_high isHigh, ih]
  | low isUnit isLow _ ih =>
      simp only [List.cons_append, List.append_assoc, List.foldl_cons]
      rw [scan_unitEscape isUnit, addUnit_low isLow, ih]

theorem IsQuoted.scan {text : List Char} {value : Option String} (quoted : IsQuoted text value)
    (rest : List Char) :
    scan .between (text ++ rest) = (Json.scan .between rest).map (.string value :: ·) := by
  cases quoted with
  | @between text pieces body =>
      rw [List.cons_append, List.cons_append, scan_silent rfl, List.append_assoc, body.scan,
        ← textOf_foldl pieces]
      rfl

/-! Texts as they are written -/

theorem unitDigits_hexUnit : ∀ value < 0x20,
    ∃ digits, hexUnit value = '\\' :: 'u' :: digits ∧ UnitDigits digits value := by
  intro value control
  have written : ∀ value < 0x20, hexUnit value = '\\' :: 'u' :: (hexUnit value).drop 2 ∧
      ((hexUnit value).drop 2).length = 4 ∧
      Numeral.append 16 0xffff 0 ((hexUnit value).drop 2) = .ok value := by decide
  obtain ⟨starts, four, appended⟩ := written value control
  obtain ⟨unit, denotes, same, -⟩ := (Numeral.append_eq_ok_iff (Nat.zero_le _)).mp appended
  rw [Nat.zero_mul, Nat.zero_add] at same
  exact ⟨_, starts, four, same ▸ denotes⟩

theorem Body.escape {c : Char} {rest : List Char} {pieces : List Piece} (body : Body rest pieces) :
    Body (escape c ++ rest) (.char c :: pieces) := by
  fun_cases Json.escape c with
  | case1 | case2 | case3 | case4 | case5 | case6 | case7 => exact .short (by decide) body
  | case8 c notQuote notBackslash _ _ _ _ _ control =>
      obtain ⟨digits, written, isUnit⟩ := unitDigits_hexUnit c.toNat control
      rw [written]
      exact .unicode isUnit body
  | case9 c notQuote notBackslash _ _ _ _ _ visible =>
      exact .plain notQuote notBackslash (Nat.le_of_not_lt visible) body

theorem joined_chars (chars : List Char) :
    joined (chars.map .char) = some (String.ofList chars) := by
  have alone : paired (chars.map .char) = chars.map .char := by
    induction chars with
    | nil => rfl
    | cons c rest ih => rw [List.map_cons, paired, ih]; nofun
  have known : (chars.map Piece.char).mapM Piece.char? = some chars := by
    rw [List.mapM_map]
    exact List.mapM_pure.trans (congrArg some (List.map_id chars))
  rw [joined, alone, known]
  rfl

theorem isQuoted_quote (text : String) : IsQuoted (quote (some text)) (some text) := by
  have body (chars : List Char) : Body (chars.flatMap Json.escape) (chars.map .char) := by
    induction chars with
    | nil => exact .nil
    | cons c rest ih => exact ih.escape
  have quoted := IsQuoted.between (body text.toList)
  rwa [joined_chars, String.ofList_toList] at quoted

end UsbHost.Json
