/-!
Paths as texts. Slashes separate the pieces of a path; an empty piece, and a point that is not the
first piece, say nothing about where it leads.
-/

namespace UsbHost.Path

def pieces (path : String) : List String := (path.toList.splitOn '/').map String.ofList

def isAbsolute (path : String) : Bool := path.startsWith "/"

def isIdle (piece : String) : Bool := piece == "" || piece == "."

def trimEnd (pieces : List String) : List String := (pieces.reverse.dropWhile isIdle).reverse

def joinPieces (first : String) (rest : List String) : String :=
  "/".intercalate (first :: rest)

/-- The path without its last piece that says something, as far as it is written out. The root and
the empty path have none; a single piece leaves the empty path. -/
def parent? (path : String) : Option String :=
  match pieces path with
  | [] => none
  | first :: rest =>
    match trimEnd rest with
    | [] => if first = "" then none else some ""
    | body =>
      match trimEnd body.dropLast with
      | [] => some (if first = "" then "/" else first)
      | outer => some (joinPieces first outer)

def join (directory name : String) : String :=
  if directory.endsWith "/" then directory ++ name else directory ++ "/" ++ name

def expandHome (home path : String) : String :=
  match path.toList with
  | ['~'] => home
  | '~' :: '/' :: rest => home ++ String.ofList ('/' :: rest)
  | _ => path

end UsbHost.Path
