import UsbHost.Pattern.Atom
import UsbHost.Text.Alphanumeric

/-!
What stands behind an opening parenthesis: the name of a group, or switches of modes for a group or
for the rest of the one around it.
-/

namespace UsbHost.Pattern

inductive Opening where
  | group (modes : Modes) (name? : Option String)
  | switches (modes : Modes)
deriving DecidableEq

namespace Opening

def isNameStart (c : Char) : Bool := c == '_' || isAlphabetic c

def isNamePart (c : Char) : Bool :=
  c == '_' || c == '.' || c == '[' || c == ']' || isAlphanumeric c

def isName : List Char → Bool
  | [] => false
  | c :: rest => isNameStart c && rest.all isNamePart

def readName (modes : Modes) (text : List Char) : Option (Opening × List Char) :=
  let name := text.takeWhile (· != '>')
  match text.dropWhile (· != '>') with
  | '>' :: rest => if isName name then some (group modes (String.ofList name), rest) else none
  | _ => none

def switch (letter : Char) (isOn : Bool) (modes : Modes) : Option Modes :=
  match letter with
  | 'i' => some { modes with ignoresCase := isOn }
  | 'u' => some { modes with isUnicode := isOn }
  | 'x' => some { modes with ignoresBlanks := isOn }
  | 'm' | 's' | 'U' | 'R' => some modes
  | _ => none

/-- Letters of modes; those behind a hyphen are switched off. No sign may come twice, and a hyphen
may not come last. -/
def readSwitches (modes : Modes) (seen : List Char) : List Char → Option (Opening × List Char)
  | [] => none
  | c :: rest =>
    if c = ':' then
      if seen.head? = some '-' then none else some (group modes none, rest)
    else if c = ')' then
      if seen.head? = some '-' || seen.isEmpty then none else some (switches modes, rest)
    else if seen.contains c then none
    else if c = '-' then readSwitches modes (c :: seen) rest
    else
      match switch c (!seen.contains '-') modes with
      | none => none
      | some modes => readSwitches modes (c :: seen) rest

def read (modes : Modes) (text : List Char) : Option (Opening × List Char) :=
  match modes.skip text with
  | '?' :: 'P' :: '<' :: rest => readName modes rest
  | '?' :: '<' :: rest => readName modes rest
  | '?' :: rest => readSwitches modes [] rest
  | rest => some (group modes none, rest)

end Opening

end UsbHost.Pattern
