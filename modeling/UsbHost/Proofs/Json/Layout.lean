import Mathlib.Data.List.Chain
import UsbHost.Proofs.Json.Number
import UsbHost.Proofs.Json.Quoted

/-!
Tokens laid out as text, with any blanks between them. The lexer reads them back, provided that no
two numbers or words touch, which no value has side by side.
-/

namespace UsbHost.Json

def blanks : List Char := [' ', '\n', '\t', '\r']

def Spelled : JsonToken → List Char → Prop
  | .number natural, text => IsNumber text natural
  | .string value, text => IsQuoted text value
  | token, text => text = token.spell

inductive Layout : List JsonToken → List Char → Prop
  | nil : Layout [] []
  | blank {tokens c text} (isBlank : c ∈ blanks) (layout : Layout tokens text) :
      Layout tokens (c :: text)
  | token {token tokens spelling text} (spelled : Spelled token spelling)
      (layout : Layout tokens text) : Layout (token :: tokens) (spelling ++ text)

def IsBare : JsonToken → Prop
  | .null | .boolean _ | .number _ => True
  | _ => False

def Apart (token next : JsonToken) : Prop := ¬ (IsBare token ∧ IsBare next)

/-! The end of a number or a word -/

def separators : List Char := blanks ++ ['\x7b', '\x7d', '[', ']', ':', ',', '"']

def StartsApart (text : List Char) : Prop := ∀ c ∈ text.head?, c ∈ separators

theorem Spelled.startsApart {token : JsonToken} {spelling : List Char}
    (spelled : Spelled token spelling) (notBare : ¬ IsBare token) (rest : List Char) :
    StartsApart (spelling ++ rest) := by
  cases token with
  | null | boolean | number => exact absurd trivial notBare
  | string =>
      obtain ⟨body⟩ := spelled
      rintro c ⟨⟩
      decide
  | leftBrace | rightBrace | leftBracket | rightBracket | colon | comma =>
      cases spelled
      rintro c ⟨⟩
      decide

theorem Layout.startsApart {tokens : List JsonToken} {text : List Char}
    (layout : Layout tokens text) (notBare : ∀ token ∈ tokens.head?, ¬ IsBare token) :
    StartsApart text := by
  cases layout with
  | nil => nofun
  | blank isBlank =>
      rintro c ⟨⟩
      exact List.mem_append_left _ isBlank
  | token spelled => exact spelled.startsApart (notBare _ rfl) _

theorem not_inside_of_mem_separators {c : Char} (isSeparator : c ∈ separators) :
    isNumberChar c = false ∧ c.isLower = false := by
  have table : (separators.all fun c => !isNumberChar c && !c.isLower) = true := rfl
  simpa using List.all_eq_true.mp table c isSeparator

theorem begin_of_notMem {c : Char} (notSeparator : c ∉ separators) :
    begin c =
      if isNumberChar c then some ([], .number [c])
      else if c.isLower then some ([], .word [c]) else none := by
  have noMark : punctuation? c = none := by
    fun_cases punctuation? c with
    | case7 => rfl
    | case1 | case2 | case3 | case4 | case5 | case6 => exact absurd (by decide) notSeparator
  have noSpace : isSpace c = false := by
    rw [← Bool.not_eq_true]
    intro space
    simp only [isSpace, Bool.or_eq_true, beq_iff_eq] at space
    rcases space with ((rfl | rfl) | rfl) | rfl <;> exact notSeparator (by decide)
  have noQuote : (c == '"') = false := by
    rw [beq_eq_false_iff_ne]
    rintro rfl
    exact notSeparator (by decide)
  simp only [begin, noMark, noSpace, noQuote, Bool.false_eq_true, if_false]

theorem begin_number {c : Char} (isInside : isNumberChar c = true) :
    begin c = some ([], .number [c]) := by
  have notSeparator : c ∉ separators := by
    intro isSeparator
    rw [(not_inside_of_mem_separators isSeparator).1] at isInside
    cases isInside
  rw [begin_of_notMem notSeparator, if_pos isInside]

theorem begin_word {c : Char} (lower : c.isLower = true) (notNumber : isNumberChar c = false) :
    begin c = some ([], .word [c]) := by
  have notSeparator : c ∉ separators := by
    intro isSeparator
    rw [(not_inside_of_mem_separators isSeparator).2] at lower
    cases lower
  rw [begin_of_notMem notSeparator, notNumber, lower]
  rfl

/-- A token that the next character cannot be part of is there before that character is read. -/
theorem scan_completed {state : LexState} {token : JsonToken} {rest : List Char}
    (ends : finish state = some [token])
    (follows : ∀ c ∈ rest.head?, step state c = finishWith (some token) c) :
    scan state rest = (scan .between rest).map (token :: ·) := by
  cases rest with
  | nil => exact ends
  | cons c rest =>
      have between : step .between c = begin c := rfl
      rw [scan, scan, follows c rfl, finishWith.eq_def, between]
      cases begin c with
      | none => rfl
      | some started => simp [Function.comp_def]

section Collect

variable (collect : List Char → LexState) (inside : Char → Bool)

theorem scan_grown (grows : ∀ seen c, inside c = true →
      step (collect seen) c = some ([], collect (c :: seen)))
    {text : List Char} (all : ∀ c ∈ text, inside c = true) (seen rest : List Char) :
    scan (collect seen) (text ++ rest) = scan (collect (text.reverse ++ seen)) rest := by
  induction text generalizing seen with
  | nil => rfl
  | cons c text ih =>
      obtain ⟨isInside, all⟩ := List.forall_mem_cons.mp all
      rw [List.cons_append, scan_silent (grows seen c isInside), ih all, List.reverse_cons,
        List.append_assoc]
      rfl

theorem scan_collected (grows : ∀ seen c, inside c = true →
      step (collect seen) c = some ([], collect (c :: seen)))
    {text rest : List Char} {token : JsonToken} (nonempty : text ≠ [])
    (begins : ∀ c ∈ text.head?, begin c = some ([], collect [c]))
    (all : ∀ c ∈ text, inside c = true) (ends : finish (collect text.reverse) = some [token])
    (turns : ∀ c, inside c = false → step (collect text.reverse) c = finishWith (some token) c)
    (outside : ∀ c ∈ rest.head?, inside c = false) :
    scan .between (text ++ rest) = (scan .between rest).map (token :: ·) := by
  obtain ⟨c, text, rfl⟩ := List.exists_cons_of_ne_nil nonempty
  have begun : step .between c = some ([], collect [c]) := begins c rfl
  have grown := scan_grown collect inside grows (List.forall_mem_cons.mp all).2 [c] rest
  rw [← List.reverse_cons] at grown
  rw [List.cons_append, scan_silent begun, grown]
  exact scan_completed ends fun c first => turns c (outside c first)

end Collect

theorem scan_number {text rest : List Char} {natural : Option Nat}
    (isNumber : IsNumber text natural) (apart : StartsApart rest) :
    scan .between (text ++ rest) = (scan .between rest).map (.number natural :: ·) := by
  have read : number? text.reverse.reverse = some natural := by
    rw [List.reverse_reverse, isNumber.number?]
  have all := isNumber.isNumberChar
  refine scan_collected .number isNumberChar ?_ isNumber.nonempty ?_ all ?_ ?_ ?_
  · intro seen c isInside
    rw [step, if_pos isInside]
  · exact fun c first => begin_number (all c (List.mem_of_mem_head? first))
  · rw [finish, read, Option.map_some]
  · intro c outside
    rw [step, outside, read]
    rfl
  · exact fun c first => (not_inside_of_mem_separators (apart c first)).1

theorem scan_word {text rest : List Char} {token : JsonToken} (isWord : word? text = some token)
    (lower : text.all Char.isLower = true) (notNumber : text.head?.all isNumberChar = false)
    (apart : StartsApart rest) :
    scan .between (text ++ rest) = (scan .between rest).map (token :: ·) := by
  have read : word? text.reverse.reverse = some token := by
    rw [List.reverse_reverse, isWord]
  have nonempty : text ≠ [] := by
    rintro rfl
    cases isWord
  have all := List.all_eq_true.mp lower
  refine scan_collected .word Char.isLower ?_ nonempty ?_ all ?_ ?_ ?_
  · intro seen c isInside
    rw [step, if_pos isInside]
  · intro c first
    rw [Option.mem_def.mp first] at notNumber
    exact begin_word (all c (List.mem_of_mem_head? first)) notNumber
  · rw [finish, read, Option.map_some]
  · intro c outside
    rw [step, outside, read]
    rfl
  · exact fun c first => (not_inside_of_mem_separators (apart c first)).2

theorem Spelled.scan {token : JsonToken} {spelling rest : List Char}
    (spelled : Spelled token spelling) (apart : IsBare token → StartsApart rest) :
    scan .between (spelling ++ rest) = (Json.scan .between rest).map (token :: ·) := by
  cases token with
  | number => exact scan_number spelled (apart trivial)
  | string => exact IsQuoted.scan spelled rest
  | null =>
      cases spelled
      exact scan_word rfl rfl rfl (apart trivial)
  | boolean value =>
      cases spelled
      cases value with
      | false => exact scan_word rfl rfl rfl (apart trivial)
      | true => exact scan_word rfl rfl rfl (apart trivial)
  | leftBrace | rightBrace | leftBracket | rightBracket | colon | comma =>
      cases spelled
      rfl

theorem step_blank {c : Char} (isBlank : c ∈ blanks) : step .between c = some ([], .between) := by
  have table : (blanks.all fun c => (punctuation? c).isNone && isSpace c) = true := rfl
  have listed := List.all_eq_true.mp table c isBlank
  rw [Bool.and_eq_true, Option.isNone_iff_eq_none] at listed
  rw [step, begin, listed.1]
  exact if_pos listed.2

theorem Layout.tokens? {tokens : List JsonToken} {text : List Char} (layout : Layout tokens text)
    (chain : tokens.IsChain Apart) : tokens? text = some tokens := by
  unfold Json.tokens?
  induction layout with
  | nil => rfl
  | blank isBlank _ ih =>
      rw [scan_silent (step_blank isBlank), ih chain]
  | @token token tokens spelling text spelled layout ih =>
      have apart : IsBare token → StartsApart text := by
        intro bare
        refine layout.startsApart fun next isNext nextBare => ?_
        exact List.isChain_cons.mp chain |>.1 next isNext ⟨bare, nextBare⟩
      rw [spelled.scan apart, ih (List.isChain_cons.mp chain).2, Option.map_some]

theorem spelled_spell {token : JsonToken} (known : token ≠ .string none) :
    Spelled token token.spell := by
  cases token with
  | number natural => exact isNumber_decimal natural
  | string value =>
      cases value with
      | none => exact absurd rfl known
      | some text => exact isQuoted_quote text
  | null | boolean | leftBrace | rightBrace | leftBracket | rightBracket | colon | comma => rfl

theorem layout_spell {tokens : List JsonToken} (known : .string none ∉ tokens) :
    Layout tokens (tokens.flatMap JsonToken.spell) := by
  induction tokens with
  | nil => exact .nil
  | cons token rest ih =>
      rw [List.mem_cons, not_or] at known
      exact .token (spelled_spell (Ne.symm known.1)) (ih known.2)

end UsbHost.Json
