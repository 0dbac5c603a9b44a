import UsbHost.Toml.Text

/-!
A text reads back as it was written, in whichever form. An escape gives its character back in both
basic forms, a literal form shows its characters as they are, and a long form does not close before
its end although quotes may stand right before its last ones.
-/

namespace UsbHost.Toml

def takeNext (state : TextState) (c : Char) : Option (TextState × Option Char) :=
  match state with
  | .escape => takeEscape c
  | .unit digitsLeft value => takeUnit digitsLeft value c
  | .plain _ | .lineEnd => none

/-- A sequence of characters that an escape goes on with, and the character that it stands for. -/
inductive Unescapes : TextState → List Char → Char → Prop
  | last {state c shown} (takes : takeNext state c = some (.plain false, some shown)) :
      Unescapes state [c] shown
  | next {state later c rest shown} (takes : takeNext state c = some (later, none))
      (unescapes : Unescapes later rest shown) : Unescapes state (c :: rest) shown

inductive Shows (c : Char) : List Char → Prop
  | plain (isText : isTextChar c = true) (unquoted : c ≠ '"') (unescaped : c ≠ '\\') : Shows c [c]
  | escaped {rest} (unescapes : Unescapes .escape rest c) : Shows c ('\\' :: rest)

theorem digit?_hexDigitUpper :
    ∀ value < 16, Numeral.digit? 16 (hexDigitUpper value) = some value := by
  decide

theorem scalar?_toNat (c : Char) : scalar? c.toNat = some c := by
  have valid : c.toNat.isValidChar := c.valid
  rw [scalar?, if_pos valid, Char.ofNat_toNat]

theorem unescapes_code {c : Char} (small : c.toNat < 0x100) :
    Unescapes .escape
      ['u', '0', '0', hexDigitUpper (c.toNat / 16), hexDigitUpper (c.toNat % 16)] c := by
  have high : takeNext (.unit 2 0) (hexDigitUpper (c.toNat / 16)) =
      some (.unit 1 (c.toNat / 16), none) := by
    simp [takeNext, takeUnit, digit?_hexDigitUpper (c.toNat / 16) (by omega)]
  have low : takeNext (.unit 1 (c.toNat / 16)) (hexDigitUpper (c.toNat % 16)) =
      some (.plain false, some c) := by
    have whole : c.toNat / 16 * 16 + c.toNat % 16 = c.toNat := by omega
    simp [takeNext, takeUnit, digit?_hexDigitUpper (c.toNat % 16) (by omega), whole, scalar?_toNat]
  exact .next rfl (.next rfl (.next rfl (.next high (.last low))))

theorem escape_shows {c : Char} (unquoted : c ≠ '"') (onLine : c ≠ '\n') : Shows c (escape c) := by
  unfold escape
  split
  · exact .escaped (.last rfl)
  · exact .escaped (.last rfl)
  · exact .escaped (.last rfl)
  · exact .escaped (.last rfl)
  · exact .escaped (.last rfl)
  · rename_i unescaped _ _ _ _
    split
    · exact .escaped (unescapes_code (by omega))
    · rename_i shown
      refine .plain ?_ unquoted unescaped
      simp [isTextChar, isControl, onLine]
      omega

theorem escapeShort_shows (c : Char) : Shows c (escapeShort c) := by
  unfold escapeShort
  split
  · exact .escaped (.last rfl)
  · exact .escaped (.last rfl)
  · rename_i unquoted onLine
    exact escape_shows unquoted onLine

theorem readBasic_takeNext {state later : TextState} {c : Char} {shown : Option Char}
    (takes : takeNext state c = some (later, shown)) (done rest : List Char) :
    readBasic state done (c :: rest) = readBasic later (push shown done) rest := by
  cases state with
  | plain | lineEnd => cases takes
  | escape =>
      change takeEscape c = _ at takes
      simp [readBasic, takes]
  | unit digitsLeft value =>
      change takeUnit digitsLeft value c = _ at takes
      simp [readBasic, takes]

theorem readBasic_unescapes {state : TextState} {sequence : List Char} {c : Char}
    (unescapes : Unescapes state sequence c) (done rest : List Char) :
    readBasic state done (sequence ++ rest) = readBasic (.plain false) (c :: done) rest := by
  induction unescapes with
  | last takes => exact readBasic_takeNext takes done rest
  | next takes unescapes ih =>
      rw [List.cons_append, readBasic_takeNext takes]
      exact ih

theorem readBasic_shows {c : Char} {written : List Char} (shown : Shows c written)
    (done rest : List Char) :
    readBasic (.plain false) done (written ++ rest) =
      readBasic (.plain false) (c :: done) rest := by
  cases shown with
  | plain isText unquoted unescaped => simp [readBasic, isText, unquoted, unescaped]
  | escaped unescapes =>
      have opens (sequence : List Char) : readBasic (.plain false) done ('\\' :: sequence) =
          readBasic .escape done sequence := by
        simp [readBasic]
      rw [List.cons_append, opens, readBasic_unescapes unescapes]

theorem readBasic_escapeShort (text done rest : List Char) :
    readBasic (.plain false) done (text.flatMap escapeShort ++ '"' :: rest) =
      some (done.reverse ++ text, rest) := by
  induction text generalizing done with
  | nil => simp [readBasic]
  | cons c text ih =>
      rw [List.flatMap_cons, List.append_assoc, readBasic_shows (escapeShort_shows c), ih]
      simp

theorem readLiteral_plain {text : List Char} (plain : ∀ c ∈ text, isTextChar c = true ∧ c ≠ '\'')
    (done rest : List Char) :
    readLiteral done (text ++ '\'' :: rest) = some (done.reverse ++ text, rest) := by
  induction text generalizing done with
  | nil => simp [readLiteral]
  | cons c text ih =>
      obtain ⟨isText, unquoted⟩ := plain c List.mem_cons_self
      have later := ih (fun c member => plain c (List.mem_cons_of_mem _ member)) (c :: done)
      simp [readLiteral, isText, unquoted, later]

theorem takeNext_ne {state : TextState} {c other : Char} {taken : TextState × Option Char}
    (takes : takeNext state c = some taken) (refuses : takeNext state other = none) :
    c ≠ other := by
  rintro rfl
  rw [takes] at refuses
  cases refuses

theorem readLongBasic_takeNext {state later : TextState} {c : Char} {shown : Option Char}
    (takes : takeNext state c = some (later, shown)) (done rest : List Char) :
    readLongBasic state done (c :: rest) = readLongBasic later (push shown done) rest := by
  cases state with
  | plain | lineEnd => cases takes
  | escape =>
      have unreturned : c ≠ '\r' := takeNext_ne takes rfl
      have unbroken : c ≠ '\n' := takeNext_ne takes rfl
      have unspaced : c ≠ ' ' := takeNext_ne takes rfl
      have untabbed : c ≠ '\t' := takeNext_ne takes rfl
      change takeEscape c = _ at takes
      simp [readLongBasic, takes, unreturned, unbroken, unspaced, untabbed]
  | unit digitsLeft value =>
      have unreturned : c ≠ '\r' := takeNext_ne takes rfl
      change takeUnit digitsLeft value c = _ at takes
      simp [readLongBasic, takes, unreturned]

theorem readLongBasic_unescapes {state : TextState} {sequence : List Char} {c : Char}
    (unescapes : Unescapes state sequence c) (done rest : List Char) :
    readLongBasic state done (sequence ++ rest) =
      readLongBasic (.plain false) (c :: done) rest := by
  induction unescapes with
  | last takes => exact readLongBasic_takeNext takes done rest
  | next takes unescapes ih =>
      rw [List.cons_append, readLongBasic_takeNext takes]
      exact ih

theorem isClosing_ne {quote first : Char} (different : first ≠ quote) (rest : List Char) :
    isClosing quote first rest = false := by
  unfold isClosing
  split
  · simp [different]
  · rfl

theorem isClosing_cons_ne {quote first second : Char} (different : second ≠ quote)
    (rest : List Char) : isClosing quote first (second :: rest) = false := by
  unfold isClosing
  split
  · rename_i same
    cases same
    simp [different]
  · rfl

theorem isTextChar_ne {c other : Char} (isText : isTextChar c = true)
    (noText : isTextChar other = false) : c ≠ other := by
  rintro rfl
  rw [isText] at noText
  cases noText

theorem readLongBasic_shows {c : Char} {written : List Char} (shown : Shows c written)
    (done rest : List Char) :
    readLongBasic (.plain false) done (written ++ rest) =
      readLongBasic (.plain false) (c :: done) rest := by
  cases shown with
  | plain isText unquoted unescaped =>
      have unreturned : c ≠ '\r' := isTextChar_ne isText rfl
      simp [readLongBasic, isText, unescaped, isClosing_ne unquoted, unreturned]
  | escaped unescapes =>
      have opens (sequence : List Char) : readLongBasic (.plain false) done ('\\' :: sequence) =
          readLongBasic .escape done sequence := by
        simp [readLongBasic, isClosing_ne]
      rw [List.cons_append, opens, readLongBasic_unescapes unescapes]

theorem readLongBasic_quote {rest : List Char} (stays : isClosing '"' '"' rest = false)
    (done : List Char) :
    readLongBasic (.plain false) done ('"' :: rest) =
      readLongBasic (.plain false) ('"' :: done) rest := by
  simp [readLongBasic, stays, isTextChar, isControl]

theorem readLongBasic_break (done rest : List Char) :
    readLongBasic (.plain false) done ('\n' :: rest) =
      readLongBasic (.plain false) ('\n' :: done) rest := by
  simp [readLongBasic, isClosing_ne]

theorem Shows.head {c : Char} {written : List Char} (shown : Shows c written) :
    ∃ first rest, written = first :: rest ∧ first ≠ '"' ∧ first ≠ '\n' ∧ first ≠ '\r' := by
  cases shown with
  | plain isText unquoted unescaped =>
      exact ⟨c, [], rfl, unquoted, isTextChar_ne isText rfl, isTextChar_ne isText rfl⟩
  | escaped unescapes => exact ⟨'\\', _, rfl, by decide, by decide, by decide⟩

theorem escapeLong_cons_ne {c : Char} (unquoted : c ≠ '"') (quotes : Nat) (text : List Char) :
    escapeLong quotes (c :: text) =
      (if c = '\n' then ['\n'] else escape c) ++ escapeLong 0 text := by
  rw [escapeLong, if_neg unquoted]
  split
  · rfl
  · rfl

theorem escapeLong_head {c : Char} {quotes : Nat} (apart : c = '"' → 2 ≤ quotes)
    (text : List Char) :
    ∃ first rest, escapeLong quotes (c :: text) = first :: rest ∧ first ≠ '"' := by
  by_cases quoted : c = '"'
  · rw [escapeLong, if_pos quoted, if_neg (by have := apart quoted; omega)]
    exact ⟨'\\', _, rfl, by decide⟩
  · rw [escapeLong_cons_ne quoted]
    by_cases broken : c = '\n'
    · rw [if_pos broken]
      exact ⟨'\n', _, rfl, by decide⟩
    · rw [if_neg broken]
      obtain ⟨first, rest, written, unquoted, -⟩ := (escape_shows quoted broken).head
      exact ⟨first, rest ++ escapeLong 0 text, by rw [written]; rfl, unquoted⟩

theorem isClosing_escapeLong {quotes : Nat} {text : List Char} (remains : text ≠ [])
    (more : quotes = 0 → text ≠ ['"']) (rest : List Char) :
    isClosing '"' '"' (escapeLong (quotes + 1) text ++ rest) = false := by
  cases text with
  | nil => exact absurd rfl remains
  | cons c text =>
      by_cases apart : c = '"' → 2 ≤ quotes + 1
      · obtain ⟨first, others, written, unquoted⟩ := escapeLong_head apart text
        rw [written, List.cons_append]
        exact isClosing_cons_ne unquoted _
      · -- This is the second quote of a row, so what follows it is no quote.
        obtain ⟨rfl, few⟩ := Classical.not_imp.mp apart
        cases text with
        | nil => exact absurd rfl (more (by omega))
        | cons d text =>
            have third : d = '"' → 2 ≤ quotes + 1 + 1 := by omega
            obtain ⟨first, others, written, unquoted⟩ := escapeLong_head third text
            rw [escapeLong, if_pos rfl, if_pos (by omega), written]
            simp [isClosing, unquoted]

theorem readLongBasic_escapeLong (text : List Char) (quotes : Nat) (done rest : List Char) :
    readLongBasic (.plain false) done
        (escapeLong quotes text ++ '"' :: '"' :: '"' :: '\n' :: rest) =
      some (done.reverse ++ text, '\n' :: rest) := by
  induction text generalizing quotes done with
  | nil => simp [escapeLong, readLongBasic, isClosing, closeLong]
  | cons c text ih =>
      by_cases quoted : c = '"'
      · subst quoted
        by_cases few : quotes < 2
        · rw [escapeLong, if_pos rfl, if_pos few, List.cons_append]
          by_cases one : text = []
          · subst one
            simp [escapeLong, readLongBasic, isClosing, closeLong]
          · by_cases two : quotes = 0 ∧ text = ['"']
            · obtain ⟨rfl, rfl⟩ := two
              simp [escapeLong, readLongBasic, isClosing, closeLong]
            · have more : quotes = 0 → text ≠ ['"'] := fun zero same => two ⟨zero, same⟩
              have stays := isClosing_escapeLong one more ('"' :: '"' :: '"' :: '\n' :: rest)
              rw [readLongBasic_quote stays, ih]
              simp
        · have shown : Shows '"' ['\\', '"'] := .escaped (.last rfl)
          have written : escapeLong quotes ('"' :: text) =
              ['\\', '"'] ++ escapeLong 0 text := by
            rw [escapeLong, if_pos rfl, if_neg few]
            rfl
          rw [written, List.append_assoc, readLongBasic_shows shown, ih]
          simp
      · rw [escapeLong_cons_ne quoted, List.append_assoc]
        by_cases broken : c = '\n'
        · subst broken
          rw [if_pos rfl, List.singleton_append, readLongBasic_break, ih]
          simp
        · rw [if_neg broken, readLongBasic_shows (escape_shows quoted broken), ih]
          simp

theorem hasTriple_tail {quote c : Char} {text : List Char}
    (none : hasTriple quote (c :: text) = false) : hasTriple quote text = false := by
  match text, none with
  | [], _ => rfl
  | [_], _ => rfl
  | second :: third :: rest, none =>
      rw [hasTriple, Bool.or_eq_false_iff] at none
      exact none.2

theorem isClosing_literal {text : List Char} (remains : text ≠ []) (more : text ≠ ['\''])
    (single : hasTriple '\'' ('\'' :: text) = false) (rest : List Char) :
    isClosing '\'' '\'' (text ++ rest) = false := by
  match text, remains, more with
  | [c], _, more =>
      have apart : c ≠ '\'' := fun same => more (by rw [same])
      exact isClosing_cons_ne apart rest
  | second :: third :: text, _, _ =>
      rw [hasTriple, Bool.or_eq_false_iff] at single
      simpa [isClosing] using single.1

theorem readLongLiteral_plain {text : List Char}
    (plain : ∀ c ∈ text, isTextChar c = true ∨ c = '\n')
    (single : hasTriple '\'' text = false) (done rest : List Char) :
    readLongLiteral done (text ++ '\'' :: '\'' :: '\'' :: '\n' :: rest) =
      some (done.reverse ++ text, '\n' :: rest) := by
  induction text generalizing done with
  | nil => simp [readLongLiteral, isClosing, closeLong]
  | cons c text ih =>
      have later := ih (fun c member => plain c (List.mem_cons_of_mem _ member))
        (hasTriple_tail single) (c :: done)
      have shown : (isTextChar c || c == '\n') = true := by
        simpa using plain c List.mem_cons_self
      have unreturned : c ≠ '\r' := by
        rintro rfl
        cases shown
      rw [List.cons_append]
      by_cases quoted : c = '\''
      · subst quoted
        by_cases one : text = []
        · subst one
          simp [readLongLiteral, isClosing, closeLong]
        · by_cases two : text = ['\'']
          · subst two
            simp [readLongLiteral, isClosing, closeLong]
          · have stays := isClosing_literal one two single ('\'' :: '\'' :: '\'' :: '\n' :: rest)
            have isText : isTextChar '\'' = true := rfl
            simp [readLongLiteral, stays, isText, later]
      · simp [readLongLiteral, isClosing_ne quoted, shown, unreturned, later]

theorem readText_basic (text rest : List Char) :
    readText (writeForm .basic text ++ '\n' :: rest) = some (text, '\n' :: rest) := by
  have whole := readBasic_escapeShort text [] ('\n' :: rest)
  cases text with
  | nil => rfl
  | cons c text =>
      obtain ⟨first, others, written, unquoted, -⟩ := (escapeShort_shows c).head
      simp only [writeForm, List.flatMap_cons, written, List.cons_append, List.append_assoc,
        List.nil_append] at whole ⊢
      rw [readText, whole]
      · rfl
      · rintro _ same
        exact unquoted (List.cons.inj same).1

theorem readText_literal {text : List Char} (plain : ∀ c ∈ text, isTextChar c = true ∧ c ≠ '\'')
    (rest : List Char) :
    readText (writeForm .literal text ++ '\n' :: rest) = some (text, '\n' :: rest) := by
  have whole := readLiteral_plain plain [] ('\n' :: rest)
  cases text with
  | nil => rfl
  | cons c text =>
      obtain ⟨-, unquoted⟩ := plain c List.mem_cons_self
      simp only [writeForm, List.cons_append, List.append_assoc, List.nil_append] at whole ⊢
      rw [readText, whole]
      · rfl
      · rintro _ same
        exact unquoted (List.cons.inj same).1

theorem dropLeadingBreak_of_ne {first : Char} (unbroken : first ≠ '\n') (unreturned : first ≠ '\r')
    (rest : List Char) : dropLeadingBreak (first :: rest) = first :: rest := by
  unfold dropLeadingBreak
  split
  · rename_i same
    exact absurd (List.cons.inj same).1 unbroken
  · rename_i same
    exact absurd (List.cons.inj same).1 unreturned
  · rfl

theorem dropLeadingBreak_leadingBreak {text written : List Char}
    (head : '\n' ∉ text → ∃ first rest, written = first :: rest ∧ first ≠ '\n' ∧ first ≠ '\r') :
    dropLeadingBreak (leadingBreak text ++ written) = written := by
  unfold leadingBreak
  by_cases broken : '\n' ∈ text
  · rw [if_pos (by simpa using broken)]
    rfl
  · rw [if_neg (by simpa using broken)]
    obtain ⟨first, rest, rfl, unbroken, unreturned⟩ := head broken
    exact dropLeadingBreak_of_ne unbroken unreturned rest

theorem readText_longBasic (text rest : List Char) :
    readText (writeForm .longBasic text ++ '\n' :: rest) = some (text, '\n' :: rest) := by
  have head : '\n' ∉ text → ∃ first others,
      escapeLong 0 text ++ '"' :: '"' :: '"' :: '\n' :: rest = first :: others ∧
        first ≠ '\n' ∧ first ≠ '\r' := by
    intro unbroken
    cases text with
    | nil => exact ⟨'"', _, rfl, by decide, by decide⟩
    | cons c text =>
        by_cases quoted : c = '"'
        · rw [escapeLong, if_pos quoted, if_pos (by decide)]
          exact ⟨'"', _, rfl, by decide, by decide⟩
        · have onLine : c ≠ '\n' := fun same => unbroken (same ▸ List.mem_cons_self)
          obtain ⟨first, others, written, -, apart⟩ := (escape_shows quoted onLine).head
          rw [escapeLong_cons_ne quoted, if_neg onLine, written]
          exact ⟨first, _, rfl, apart⟩
  have whole := readLongBasic_escapeLong text 0 [] rest
  simp only [writeForm, List.cons_append, List.append_assoc, List.nil_append, readText]
  rw [dropLeadingBreak_leadingBreak head, whole]
  rfl

theorem readText_longLiteral {text : List Char}
    (plain : ∀ c ∈ text, isTextChar c = true ∨ c = '\n')
    (single : hasTriple '\'' text = false) (rest : List Char) :
    readText (writeForm .longLiteral text ++ '\n' :: rest) = some (text, '\n' :: rest) := by
  have head : '\n' ∉ text → ∃ first others,
      text ++ '\'' :: '\'' :: '\'' :: '\n' :: rest = first :: others ∧
        first ≠ '\n' ∧ first ≠ '\r' := by
    intro unbroken
    cases text with
    | nil => exact ⟨'\'', _, rfl, by decide, by decide⟩
    | cons c text =>
        have onLine : c ≠ '\n' := fun same => unbroken (same ▸ List.mem_cons_self)
        rcases plain c List.mem_cons_self with isText | broken
        · exact ⟨c, _, rfl, onLine, isTextChar_ne isText rfl⟩
        · exact absurd broken onLine
  have whole := readLongLiteral_plain plain single [] rest
  simp only [writeForm, List.cons_append, List.append_assoc, List.nil_append, readText]
  rw [dropLeadingBreak_leadingBreak head, whole]
  rfl

theorem isTextChar_or_break {text : List Char} (controls : text.any isControl = false) :
    ∀ c ∈ text, isTextChar c = true ∨ c = '\n' := by
  intro c member
  have shown := List.any_eq_false.mp controls c member
  by_cases broken : c = '\n'
  · exact Or.inr broken
  · exact Or.inl (by simp [isTextChar, shown, broken])

/-- Any text at all reads back as it was written, up to the end of its line. -/
theorem readText_writeText (text : String) (rest : List Char) :
    readText (writeText text ++ '\n' :: rest) = some (text.toList, '\n' :: rest) := by
  unfold writeText chooseForm
  generalize text.toList = text
  simp only
  split
  · exact readText_basic text rest
  split
  · rename_i chosen
    simp only [Bool.and_eq_true, Bool.not_eq_true', List.contains_eq_mem,
      decide_eq_false_iff_not] at chosen
    refine readText_literal ?_ rest
    intro c member
    have unquoted : c ≠ '\'' := fun same => chosen.2 (same ▸ member)
    have onLine : c ≠ '\n' := fun same => chosen.1.2 (same ▸ member)
    exact ⟨(isTextChar_or_break chosen.1.1 c member).resolve_right onLine, unquoted⟩
  split
  · exact readText_longBasic text rest
  split
  · rename_i chosen
    simp only [Bool.and_eq_true, Bool.not_eq_true'] at chosen
    exact readText_longLiteral (isTextChar_or_break chosen.1) chosen.2 rest
  split
  · exact readText_longBasic text rest
  · exact readText_basic text rest

end UsbHost.Toml
