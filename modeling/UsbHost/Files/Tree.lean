import UsbHost.Files.Path

/-!
A tree of files. The place of a file is the list of names that leads to it from the root. The
working directory and everything above it are always there. A path is walked piece by piece, and
every piece but the last has to lead to a directory. The lengths of paths and names are limited.
-/

namespace UsbHost

abbrev Place := List String

inductive FileFault where
  | notFound
  | alreadyExists
  | notDirectory
  | isDirectory
  | nameTooLong
  | nullInName
  | notText
deriving DecidableEq

def FileFault.message : FileFault → String
  | .notFound => "No such file or directory (os error 2)"
  | .alreadyExists => "File exists (os error 17)"
  | .notDirectory => "Not a directory (os error 20)"
  | .isDirectory => "Is a directory (os error 21)"
  | .nameTooLong => "File name too long (os error 36)"
  | .nullInName => "file name contained an unexpected NUL byte"
  | .notText => "stream did not contain valid UTF-8"

inductive FileNode where
  | file (content : ByteArray)
  | directory

structure FileTree where
  working : Place
  nodes : List (Place × FileNode) := []

namespace FileTree

def node? (place : Place) (tree : FileTree) : Option FileNode :=
  if place.isPrefixOf tree.working then some .directory else tree.nodes.lookup place

def put (place : Place) (node : FileNode) (tree : FileTree) : FileTree :=
  { tree with nodes := (place, node) :: tree.nodes }

def longestName : Nat := 255

def longestPath : Nat := 4095

def isTooLong (piece : String) : Bool := longestName < piece.utf8ByteSize

/-- One piece of a walk. Whatever the piece is, it starts from a directory. -/
def step (tree : FileTree) (place : Place) (piece : String) : Except FileFault Place :=
  match tree.node? place with
  | none => .error .notFound
  | some (.file _) => .error .notDirectory
  | some .directory =>
    if Path.isIdle piece then .ok place
    else if piece = ".." then .ok place.dropLast
    else if isTooLong piece then .error .nameTooLong
    else .ok (place ++ [piece])

def start (path : String) (tree : FileTree) : Place :=
  if Path.isAbsolute path then [] else tree.working

def walk (place : Place) (pieces : List String) (tree : FileTree) : Except FileFault Place :=
  pieces.foldlM tree.step place

def pathFault? (path : String) : Option FileFault :=
  if path.contains '\x00' then some .nullInName
  else if path = "" then some .notFound
  else if longestPath < path.utf8ByteSize then some .nameTooLong
  else none

def resolve (path : String) (tree : FileTree) : Except FileFault Place :=
  match pathFault? path with
  | some fault => .error fault
  | none => tree.walk (tree.start path) (Path.pieces path)

def find (path : String) (tree : FileTree) : Except FileFault FileNode :=
  match tree.resolve path with
  | .error fault => .error fault
  | .ok place =>
    match tree.node? place with
    | none => .error .notFound
    | some node => .ok node

def isFound (path : String) (tree : FileTree) : Bool :=
  match tree.find path with
  | .ok _ => true
  | .error _ => false

def isDirectory (path : String) (tree : FileTree) : Bool :=
  match tree.find path with
  | .ok .directory => true
  | _ => false

def read (path : String) (tree : FileTree) : Except FileFault String :=
  match tree.find path with
  | .error fault => .error fault
  | .ok .directory => .error .isDirectory
  | .ok (.file content) =>
    match String.fromUTF8? content with
    | none => .error .notText
    | some text => .ok text

/-- The directory and the last piece of a path, with the slashes at its end taken off. -/
def resolveLast (path : String) (tree : FileTree) : Except FileFault (Place × String) :=
  match pathFault? path with
  | some fault => .error fault
  | none =>
    match (Path.pieces path).reverse.dropWhile (· == "") with
    | [] => .ok ([], ".")
    | last :: outer =>
      match tree.walk (tree.start path) (outer.reverse ++ ["."]) with
      | .error fault => .error fault
      | .ok place => .ok (place, last)

def isName (piece : String) : Bool := !Path.isIdle piece && piece != ".."

/-- Gives a file its content, and makes the file if it is not there. A path that ends in a slash
never means a file. -/
def write (path : String) (content : ByteArray) (tree : FileTree) : Except FileFault FileTree :=
  match tree.resolveLast path with
  | .error fault => .error fault
  | .ok (place, last) =>
    if !isName last || path.endsWith "/" then .error .isDirectory
    else if isTooLong last then .error .nameTooLong
    else
      match tree.node? (place ++ [last]) with
      | some .directory => .error .isDirectory
      | _ => .ok (tree.put (place ++ [last]) (.file content))

def makeDirectory (path : String) (tree : FileTree) : Except FileFault FileTree :=
  match tree.resolveLast path with
  | .error fault => .error fault
  | .ok (place, last) =>
    if !isName last then .error .alreadyExists
    else if isTooLong last then .error .nameTooLong
    else
      match tree.node? (place ++ [last]) with
      | some _ => .error .alreadyExists
      | none => .ok (tree.put (place ++ [last]) .directory)

/-- Makes a directory, and first those that are missing above it; each parent is a shorter path, so
the fuel is its length. What is there already is left alone. -/
def makeDirectoriesWithin : (fuel : Nat) → String → FileTree → Except FileFault FileTree
  | 0, _, _ => .error .notFound
  | fuel + 1, path, tree =>
    if path = "" then .ok tree
    else
      match tree.makeDirectory path with
      | .ok tree => .ok tree
      | .error .notFound =>
        match Path.parent? path with
        | none => .error .notFound
        | some outer =>
          match makeDirectoriesWithin fuel outer tree with
          | .error fault => .error fault
          | .ok tree =>
            match tree.makeDirectory path with
            | .ok tree => .ok tree
            | .error fault => if tree.isDirectory path then .ok tree else .error fault
      | .error fault => if tree.isDirectory path then .ok tree else .error fault

def makeDirectories (path : String) (tree : FileTree) : Except FileFault FileTree :=
  makeDirectoriesWithin (path.length + 1) path tree

end FileTree

end UsbHost
