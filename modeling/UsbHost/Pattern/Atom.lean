import UsbHost.Text.Blank
import UsbHost.Text.Numeral

/-!
The smallest pieces of a pattern: plain characters and escapes. Patterns are read without tables of
letters, digits and cases, so a piece that needs one cannot be used, and since the text to be
matched is always well formed, nothing in a pattern may stand for a byte above `0x7f` alone.
-/

namespace UsbHost.Pattern

structure Modes where
  ignoresCase : Bool := false
  isUnicode : Bool := true
  ignoresBlanks : Bool := false
deriving DecidableEq

def skipBlanks (isComment : Bool) : List Char → List Char
  | [] => []
  | c :: rest =>
    if isComment then skipBlanks (c != '\n') rest
    else if c = '#' then skipBlanks true rest
    else if isBlank c then skipBlanks false rest
    else c :: rest

def Modes.skip (modes : Modes) (text : List Char) : List Char :=
  if modes.ignoresBlanks then skipBlanks false text else text

inductive Atom where
  | literal (c : Char)
  | code (c : Char)
  | any
  | shorthand (isNegated : Bool)
  | edge (isWord : Bool)
deriving DecidableEq

namespace Atom

def char? : Atom → Option Char
  | literal c | code c => some c
  | any | shorthand _ | edge _ => none

/-- Whether an atom can be used on its own. To ignore case takes a table of cases where characters
are code points. -/
def isUsable (modes : Modes) : Atom → Bool
  | literal _ => !(modes.isUnicode && modes.ignoresCase)
  | code c => if modes.isUnicode then !modes.ignoresCase else c.toNat ≤ 0x7f
  | any => modes.isUnicode
  | shorthand isNegated => !modes.isUnicode && !isNegated
  | edge _ => true

def isMember (modes : Modes) : Atom → Bool
  | literal c | code c => if modes.isUnicode then !modes.ignoresCase else c.toNat ≤ 0x7f
  | shorthand isNegated => !modes.isUnicode && !isNegated
  | any | edge _ => false

def readCode (modes : Modes) :
    (digits : Nat) → (value : Nat) → List Char → Option (Char × List Char)
  | 0, value, text => if value.isValidChar then some (Char.ofNat value, text) else none
  | digits + 1, value, text =>
    match modes.skip text with
    | [] => none
    | c :: rest =>
      match Numeral.digit? 16 c with
      | none => none
      | some digit => readCode modes digits (value * 16 + digit) rest

def isPunctuation (c : Char) : Bool := c.toNat ≤ 0x7f && !c.isAlphanum

def readEscape (modes : Modes) : List Char → Option (Atom × List Char)
  | [] => none
  | 'x' :: rest => (readCode modes 2 0 rest).map fun (c, rest) => (code c, rest)
  | 'u' :: rest => (readCode modes 4 0 rest).map fun (c, rest) => (literal c, rest)
  | 'U' :: rest => (readCode modes 8 0 rest).map fun (c, rest) => (literal c, rest)
  | c :: rest =>
    match c with
    | 'a' => some (literal '\x07', rest)
    | 'f' => some (literal '\x0c', rest)
    | 'n' => some (literal '\n', rest)
    | 'r' => some (literal '\r', rest)
    | 't' => some (literal '\t', rest)
    | 'v' => some (literal '\x0b', rest)
    | 'd' | 's' | 'w' => some (shorthand false, rest)
    | 'D' | 'S' | 'W' => some (shorthand true, rest)
    | 'A' | 'z' => some (edge false, rest)
    | 'b' | 'B' | '<' | '>' => some (edge true, rest)
    | c => if isPunctuation c then some (literal c, rest) else none

end Atom

end UsbHost.Pattern
