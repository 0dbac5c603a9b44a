import UsbHost.Proofs.Toml.Text
import UsbHost.Toml.Statement

/-!
The lines that a written document consists of, read one by one: headers of a single bare key, and
bare keys with a text. A document is read to its end whatever its fuel, as long as there is more of
it than there are characters.
-/

namespace UsbHost.Toml

structure IsBare (key : String) : Prop where
  nonempty : key.toList ≠ []
  bare : ∀ c ∈ key.toList, isBareKey c = true

theorem takeWhile_append_stop {keeps : Char → Bool} {front : List Char}
    (kept : ∀ c ∈ front, keeps c = true) {stop : Char} (stops : keeps stop = false)
    (rest : List Char) :
    (front ++ stop :: rest).takeWhile keeps = front ∧
      (front ++ stop :: rest).dropWhile keeps = stop :: rest := by
  constructor
  · rw [List.takeWhile_append_of_pos kept, List.takeWhile_cons_of_neg (by simp [stops]),
      List.append_nil]
  · rw [List.dropWhile_append_of_pos kept, List.dropWhile_cons_of_neg (by simp [stops])]

theorem isBareKey_ne {c other : Char} (bare : isBareKey c = true)
    (unbare : isBareKey other = false) : c ≠ other := by
  rintro rfl
  rw [bare] at unbare
  cases unbare

theorem readKey_unquoted {first : Char} (unquoted : first ≠ '"') (unmarked : first ≠ '\'')
    (rest : List Char) :
    readKey (first :: rest) =
      if ((first :: rest).takeWhile isBareKey).isEmpty then none
      else some (String.ofList ((first :: rest).takeWhile isBareKey),
        (first :: rest).dropWhile isBareKey) := by
  unfold readKey
  split
  · rename_i same
    exact absurd (List.cons.inj same).1 unquoted
  · rename_i same
    exact absurd (List.cons.inj same).1 unmarked
  · rfl

namespace IsBare

variable {key : String}

theorem head (isBare : IsBare key) :
    ∃ first rest, key.toList = first :: rest ∧ isBareKey first = true := by
  cases chars : key.toList with
  | nil => exact absurd chars isBare.nonempty
  | cons first rest => exact ⟨first, rest, rfl, isBare.bare first (chars ▸ List.mem_cons_self)⟩

theorem readKey_eq (isBare : IsBare key) {stop : Char} (stops : isBareKey stop = false)
    (rest : List Char) : readKey (key.toList ++ stop :: rest) = some (key, stop :: rest) := by
  obtain ⟨taken, left⟩ := takeWhile_append_stop isBare.bare stops rest
  obtain ⟨first, others, chars, bare⟩ := isBare.head
  have nonempty : key.toList.isEmpty = false := by rw [chars]; rfl
  have read := readKey_unquoted (isBareKey_ne bare rfl) (isBareKey_ne bare rfl)
    (others ++ stop :: rest)
  rw [← List.cons_append, ← chars, taken, left, nonempty, if_neg Bool.false_ne_true,
    String.ofList_toList] at read
  exact read

theorem skipGap_eq (isBare : IsBare key) (rest : List Char) :
    skipGap (key.toList ++ rest) = key.toList ++ rest := by
  obtain ⟨first, others, chars, bare⟩ := isBare.head
  have shown : isGap first = false := by
    have unspaced : first ≠ ' ' := isBareKey_ne bare rfl
    have untabbed : first ≠ '\t' := isBareKey_ne bare rfl
    simp [isGap, unspaced, untabbed]
  rw [chars, List.cons_append, skipGap, List.dropWhile_cons_of_neg (by simp [shown])]

theorem readPath_eq (isBare : IsBare key) {stop mark : Char} {rest left : List Char}
    (stops : isBareKey stop = false) (gap : skipGap (stop :: rest) = mark :: left)
    (unpointed : mark ≠ '.') (limit : Nat) :
    readPath (limit + 1) (key.toList ++ stop :: rest) = some ([key], mark :: left) := by
  rw [readPath, isBare.skipGap_eq, isBare.readKey_eq stops]
  simp only [gap]
  split
  · rename_i same
    exact absurd (List.cons.inj same).1 unpointed
  · rfl

end IsBare

theorem writeText_head (text : String) :
    ∃ first rest, writeText text = first :: rest ∧ (first = '"' ∨ first = '\'') := by
  unfold writeText
  cases chooseForm text.toList with
  | basic | longBasic => exact ⟨'"', _, rfl, Or.inl rfl⟩
  | literal | longLiteral => exact ⟨'\'', _, rfl, Or.inr rfl⟩

theorem readValue_writeText (fuel depth : Nat) (text : String) (rest : List Char) :
    readValue (fuel + 1) depth (writeText text ++ '\n' :: rest) =
      some (.text text, '\n' :: rest) := by
  have whole := readText_writeText text rest
  obtain ⟨first, others, written, quoted⟩ := writeText_head text
  rw [written, List.cons_append] at whole ⊢
  rcases quoted with rfl | rfl
  · rw [readValue, whole]
    simp only [Option.map_some, String.ofList_toList]
  · rw [readValue, whole]
    simp only [Option.map_some, String.ofList_toList]

theorem readValue_noItems (fuel depth : Nat) (rest : List Char) :
    readValue (fuel + 2) (depth + 1) ('[' :: ']' :: rest) = some (.array [], rest) := by
  rw [readValue, readItems]
  rfl

namespace Statement

theorem readOne_key {key : String} (isBare : IsBare key) (rest : List Char) :
    readOne (key.toList ++ ' ' :: '=' :: rest) =
      match readValue (2 * rest.length + 2) depthLimit (skipGap rest) with
      | none => none
      | some (value, rest) => (afterLine? rest).map fun rest => (.assign [key] value, rest) := by
  have path := isBare.readPath_eq (rfl : isBareKey ' ' = false)
    (rfl : skipGap (' ' :: '=' :: rest) = '=' :: rest) (by decide) 78
  obtain ⟨first, others, chars, bare⟩ := isBare.head
  have unbracketed : first ≠ '[' := isBareKey_ne bare rfl
  rw [chars, List.cons_append] at path ⊢
  rw [readOne, depthLimit, path]
  · rfl
  · exact fun _ same => unbracketed (List.cons.inj same).1
  · exact fun _ same => unbracketed (List.cons.inj same).1

theorem readOne_text {key : String} (isBare : IsBare key) (text : String) (rest : List Char) :
    readOne (key.toList ++ ' ' :: '=' :: ' ' :: (writeText text ++ '\n' :: rest)) =
      some (.assign [key] (.text text), rest) := by
  have visible : skipGap (' ' :: (writeText text ++ '\n' :: rest)) =
      writeText text ++ '\n' :: rest := by
    obtain ⟨first, others, written, quoted⟩ := writeText_head text
    rw [written]
    rcases quoted with rfl | rfl
    · rfl
    · rfl
  rw [readOne_key isBare, visible, readValue_writeText]
  rfl

theorem readOne_noItems {key : String} (isBare : IsBare key) (rest : List Char) :
    readOne (key.toList ++ ' ' :: '=' :: ' ' :: '[' :: ']' :: '\n' :: rest) =
      some (.assign [key] (.array []), rest) := by
  have visible : skipGap (' ' :: '[' :: ']' :: '\n' :: rest) = '[' :: ']' :: '\n' :: rest := rfl
  rw [readOne_key isBare, visible, depthLimit, readValue_noItems]
  rfl

theorem readOne_table {key : String} (isBare : IsBare key) (rest : List Char) :
    readOne ('[' :: (key.toList ++ ']' :: '\n' :: rest)) = some (.table [key], rest) := by
  have path := isBare.readPath_eq (rfl : isBareKey ']' = false)
    (rfl : skipGap (']' :: '\n' :: rest) = ']' :: '\n' :: rest) (by decide) 78
  obtain ⟨first, others, chars, bare⟩ := isBare.head
  have unbracketed : first ≠ '[' := isBareKey_ne bare rfl
  rw [readOne, depthLimit, path]
  · rfl
  · intro rest' same
    rw [chars] at same
    exact unbracketed (List.cons.inj same).1

theorem readOne_element {key : String} (isBare : IsBare key) (rest : List Char) :
    readOne ('[' :: '[' :: (key.toList ++ ']' :: ']' :: '\n' :: rest)) =
      some (.element [key], rest) := by
  have path := isBare.readPath_eq (rfl : isBareKey ']' = false)
    (rfl : skipGap (']' :: ']' :: '\n' :: rest) = ']' :: ']' :: '\n' :: rest) (by decide) 78
  rw [readOne, depthLimit, path]
  rfl

/-- What a document says; there is always enough fuel to read it to its end. -/
def Reads (text : List Char) (statements : List Statement) : Prop :=
  ∀ fuel, text.length < fuel → readLines fuel text = some statements

theorem Reads.nil : Reads [] [] := by
  intro fuel more
  cases fuel with
  | zero => cases more
  | succ fuel => rfl

theorem Reads.blank {text : List Char} {statements : List Statement}
    (reads : Reads text statements) : Reads ('\n' :: text) statements := by
  intro fuel more
  cases fuel with
  | zero => cases more
  | succ fuel => exact reads fuel (Nat.lt_of_succ_lt_succ more)

def isLineStart (c : Char) : Bool := !isGap c && c != '#' && c != '\n' && c != '\r'

theorem Reads.line {first : Char} {text rest : List Char} {statement : Statement}
    {statements : List Statement} (starts : isLineStart first = true)
    (one : readOne (first :: text) = some (statement, rest))
    (shorter : rest.length ≤ text.length) (reads : Reads rest statements) :
    Reads (first :: text) (statement :: statements) := by
  simp only [isLineStart, Bool.and_eq_true, Bool.not_eq_true', bne_iff_ne, ne_eq] at starts
  obtain ⟨⟨⟨visible, uncommented⟩, unbroken⟩, unreturned⟩ := starts
  have shown : skipGap (first :: text) = first :: text :=
    List.dropWhile_cons_of_neg (by simp [visible])
  have said : afterLine? (first :: text) = none := by
    simp [afterLine?, shown, skipComment, afterBreak?, uncommented, unbroken, unreturned]
  intro fuel more
  cases fuel with
  | zero => cases more
  | succ fuel =>
      have enough : rest.length < fuel := by
        rw [List.length_cons] at more
        omega
      simp [readLines, shown, said, one, reads fuel enough]

end Statement

end UsbHost.Toml
