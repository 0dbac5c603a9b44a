import UsbHost.Pattern.CharacterSet
import UsbHost.Pattern.Opening

/-!
Patterns as a whole: branches of pieces, groups and repetitions. Nothing is matched here; `check`
tells whether a pattern can be used at all. An opening brace outside a set would start a count, and
a count cannot end, because the text that holds a pattern ends at the first closing brace.
-/

namespace UsbHost.Pattern

inductive Fault where
  | unusable
  | wordEdge
deriving DecidableEq

def Fault.message : Fault → String
  | .unusable => "error building NFA"
  | .wordEdge =>
    "unsupported regex feature for DFAs: cannot build DFAs for regexes with Unicode word " ++
      "boundaries; switch to ASCII word boundaries, or heuristically enable Unicode word " ++
      "boundaries or use a different regex engine"

structure Piece where
  depth : Nat := 0
  isRepeatable : Bool := true

structure Level where
  modes : Modes := {}
  branches : Siblings := {}
  pieces : Siblings := {}
  last? : Option Piece := none

namespace Level

def allPieces (level : Level) : Siblings :=
  match level.last? with
  | none => level.pieces
  | some piece => level.pieces.add piece.depth

def addPiece (piece : Piece) (level : Level) : Level :=
  { level with pieces := level.allPieces, last? := some piece }

def closeBranch (level : Level) : Level :=
  { modes := level.modes, branches := level.branches.add level.allPieces.nesting }

def nesting (level : Level) : Nat := level.closeBranch.branches.nesting

def repeatLast (level : Level) : Option Level :=
  match level.last? with
  | none => none
  | some piece =>
    if piece.isRepeatable then some { level with last? := some { depth := piece.depth + 1 } }
    else none

end Level

structure Reader where
  level : Level := {}
  outer : List Level := []
  names : List String := []
  hasWordEdge : Bool := false

namespace Reader

def addPiece (piece : Piece) (reader : Reader) : Reader :=
  { reader with level := reader.level.addPiece piece }

def addAtom (atom : Atom) (reader : Reader) : Option Reader :=
  let modes := reader.level.modes
  if atom.isUsable modes then
    let needsWords := modes.isUnicode && atom == .edge true
    some { reader.addPiece {} with hasWordEdge := reader.hasWordEdge || needsWords }
  else none

def takeOpening (reader : Reader) : Opening → Option Reader
  | .switches modes =>
    let level := reader.level.addPiece { isRepeatable := false }
    some { reader with level := { level with modes } }
  | .group modes name? =>
    if name?.any reader.names.contains then none
    else some { reader with
      level := { modes }
      outer := reader.level :: reader.outer
      names := name?.toList ++ reader.names }

def closeGroup (reader : Reader) : Option Reader :=
  match reader.outer with
  | [] => none
  | level :: outer =>
    some { reader with
      level := level.addPiece { depth := reader.level.nesting + 1 }
      outer }

def repeatLast (reader : Reader) : Option Reader :=
  match reader.level.repeatLast with
  | none => none
  | some level => some { reader with level }

def afterRepetition : List Char → List Char
  | '?' :: rest => rest
  | rest => rest

def step (reader : Reader) (c : Char) (rest : List Char) : Option (Reader × List Char) :=
  let modes := reader.level.modes
  match c with
  | '(' =>
    match Opening.read modes rest with
    | none => none
    | some (opening, rest) => (reader.takeOpening opening).map (·, rest)
  | ')' => reader.closeGroup.map (·, rest)
  | '|' => some ({ reader with level := reader.level.closeBranch }, rest)
  | '[' =>
    match CharacterSet.read modes rest with
    | none => none
    | some (depth, rest) => some (reader.addPiece { depth }, rest)
  | '*' | '+' | '?' => reader.repeatLast.map (·, afterRepetition rest)
  | '\x7b' => none
  | '.' => (reader.addAtom .any).map (·, rest)
  | '^' | '$' => (reader.addAtom (.edge false)).map (·, rest)
  | '\\' =>
    match Atom.readEscape modes rest with
    | none => none
    | some (atom, rest) => (reader.addAtom atom).map (·, rest)
  | c => (reader.addAtom (.literal c)).map (·, rest)

/-- Each step takes at least one character. Every group has to be closed. -/
def readAll : (fuel : Nat) → Reader → List Char → Option Reader
  | 0, _, _ => none
  | fuel + 1, reader, text =>
    match reader.level.modes.skip text with
    | [] => if reader.outer.isEmpty then some reader else none
    | c :: rest =>
      match reader.step c rest with
      | none => none
      | some (reader, rest) => readAll fuel reader rest

end Reader

def deepestNesting : Nat := 250

def check (pattern : List Char) : Except Fault Unit :=
  match Reader.readAll (pattern.length + 1) {} pattern with
  | none => .error .unusable
  | some reader =>
    if deepestNesting < reader.level.nesting then .error .unusable
    else if reader.hasWordEdge then .error .wordEdge
    else .ok ()

end UsbHost.Pattern
