import UsbHost.Pattern.Atom
import UsbHost.Pattern.Siblings

/-!
Sets of characters in brackets. Members are characters, ranges, named sets and sets in brackets of
their own, and between operands stand the signs of intersection and of the two differences.
-/

namespace UsbHost.Pattern.CharacterSet

def names : List String :=
  ["alnum", "alpha", "ascii", "blank", "cntrl", "digit", "graph", "lower", "print", "punct",
    "space", "upper", "word", "xdigit"]

def readNamed? : List Char → Option (Bool × List Char)
  | ':' :: rest =>
    let isNegated := rest.head? == some '^'
    let rest := if isNegated then rest.tail else rest
    match rest.dropWhile (· != ':') with
    | ':' :: ']' :: after =>
      if names.contains (String.ofList (rest.takeWhile (· != ':'))) then some (isNegated, after)
      else none
    | _ => none
  | _ => none

def isNamedUsable (modes : Modes) (isNegated : Bool) : Bool :=
  if modes.isUnicode then !modes.ignoresCase else !isNegated

/-- The character behind a hyphen, which decides whether the hyphen makes a range. A comment counts
as the first character in it that is not blank. -/
def behindHyphen? (modes : Modes) (text : List Char) : Option Char :=
  if modes.ignoresBlanks then
    match text.dropWhile isBlank with
    | '#' :: comment => (comment.dropWhile isBlank).head?.or text.head?
    | rest => rest.head?.or text.head?
  else text.head?

def readAtom (modes : Modes) : List Char → Option (Atom × List Char)
  | [] => none
  | '\\' :: rest => Atom.readEscape modes rest
  | c :: rest => some (.literal c, rest)

def readMember (modes : Modes) (text : List Char) : Option (List Char) :=
  match readAtom modes text with
  | none => none
  | some (first, rest) =>
    if !first.isMember modes then none
    else
      match modes.skip rest with
      | [] => none
      | '-' :: rest =>
        match behindHyphen? modes rest with
        | some ']' | some '-' => some ('-' :: rest)
        | _ =>
          match readAtom modes (modes.skip rest) with
          | none => none
          | some (last, rest) =>
            match first.char?, last.char? with
            | some low, some high =>
              if last.isMember modes && low ≤ high then some rest else none
            | _, _ => none
      | rest => some rest

/-- What is waiting for the end of an operand: the set around it, or the operand left of it. -/
inductive Waiting where
  | set (members : Siblings)
  | operand (depth : Nat)

def close (members : Siblings) : List Waiting → Nat × List Waiting
  | .operand depth :: waiting => (max depth members.nesting + 1, waiting)
  | waiting => (members.nesting, waiting)

def isOperator (c : Char) (rest : List Char) : Bool :=
  (c == '&' || c == '-' || c == '~') && rest.head? == some c

/-- What follows an opening bracket and the sign of a negation. A negated set of bytes would hold
bytes above `0x7f`. -/
def openSet (modes : Modes) (text : List Char) : Option (List Char) :=
  match modes.skip text with
  | '^' :: rest => if modes.isUnicode then some rest else none
  | rest => some rest

/-- Reads up to the end of the outermost set and tells how deep it is nested. Hyphens in front are
members, and so is a closing bracket if nothing is before it. Each step takes at least one
character. -/
def readMembers (modes : Modes) : (fuel : Nat) → (waiting : List Waiting) →
    (members : Siblings) → (isFront : Bool) → List Char → Option (Nat × List Char)
  | 0, _, _, _, _ => none
  | fuel + 1, waiting, members, isFront, text =>
    match modes.skip text with
    | [] => none
    | c :: rest =>
      if isFront && (c = '-' || c = ']' && members.count = 0) then
        if (Atom.literal c).isMember modes then
          readMembers modes fuel waiting (members.add 0) (c = '-') rest
        else none
      else if c = '[' then
        match readNamed? rest with
        | some (isNegated, rest) =>
          if isNamedUsable modes isNegated then
            readMembers modes fuel waiting (members.add 0) false rest
          else none
        | none =>
          match openSet modes rest with
          | none => none
          | some rest => readMembers modes fuel (.set members :: waiting) {} true rest
      else if c = ']' then
        match close members waiting with
        | (depth, .set outer :: waiting) =>
          readMembers modes fuel waiting (outer.add (depth + 1)) false rest
        | (depth, _) => some (depth + 1, rest)
      else if isOperator c rest then
        let (depth, waiting) := close members waiting
        readMembers modes fuel (.operand depth :: waiting) {} false rest.tail
      else
        match readMember modes (c :: rest) with
        | none => none
        | some rest => readMembers modes fuel waiting (members.add 0) false rest

def read (modes : Modes) (text : List Char) : Option (Nat × List Char) :=
  match openSet modes text with
  | none => none
  | some rest => readMembers modes (rest.length + 1) [] {} true rest

end UsbHost.Pattern.CharacterSet
