import UsbHost.Toml.Statement

/-!
The tables that the statements of a TOML document build. A table remembers how it came to be: only
one that is merely implied by a longer header may still get a header of its own, and only one that
comes from dotted keys may get more of them.
-/

namespace UsbHost.Toml

inductive TableKind where
  | header
  | implied
  | dotted
  | inline
deriving DecidableEq

inductive Item where
  | text (text : String)
  | scalar
  | array (items : List Item)
  | table (kind : TableKind) (entries : List (String × Item))
  | tables (elements : List (List (String × Item)))

/-- A table's entries, in the order in which their keys first came up. -/
abbrev Entries := List (String × Item)

namespace Entries

def update (key : String) (change : Option Item → Option Item) : Entries → Option Entries
  | [] => (change none).map fun item => [(key, item)]
  | (name, item) :: rest =>
    if name = key then (change (some item)).map fun item => (name, item) :: rest
    else (update key change rest).map ((name, item) :: ·)

def updateLast (change : Entries → Option Entries) : List Entries → Option (List Entries)
  | [] => none
  | [last] => (change last).map ([·])
  | first :: rest => (updateLast change rest).map (first :: ·)

/-- Changes the table at the end of a header's path, and creates what the path implies. An array of
tables stands for its last element; an inline table is closed. -/
def within (path : List String) (change : Entries → Option Entries) (entries : Entries) :
    Option Entries :=
  match path with
  | [] => change entries
  | key :: rest =>
    update key (fun
      | none => (within rest change []).map (.table .implied)
      | some (.table kind inner) =>
        if kind = .inline then none else (within rest change inner).map (.table kind)
      | some (.tables elements) => (updateLast (within rest change) elements).map .tables
      | some _ => none) entries

/-- Gives a dotted key its item. No key is ever given twice, and no table that has a header or
braces of its own is extended from outside. -/
def assign (path : List String) (item : Item) (entries : Entries) : Option Entries :=
  match path with
  | [] => none
  | [key] =>
    update key (fun
      | none => some item
      | some _ => none) entries
  | key :: next :: rest =>
    update key (fun
      | none => (assign (next :: rest) item []).map (.table .dotted)
      | some (.table .dotted inner) => (assign (next :: rest) item inner).map (.table .dotted)
      | some (.table .implied inner) =>
        if rest.isEmpty then none else (assign (next :: rest) item inner).map (.table .implied)
      | some (.tables elements) =>
        if rest.isEmpty then none
        else (updateLast (assign (next :: rest) item) elements).map .tables
      | some _ => none) entries

end Entries

mutual

def Value.toItem? : Value → Option Item
  | .text content => some (.text content)
  | .scalar => some .scalar
  | .array items => (Value.toItems? items).map .array
  | .table members => (Value.toEntries? [] members).map (.table .inline)

def Value.toItems? : List Value → Option (List Item)
  | [] => some []
  | value :: rest =>
    match Value.toItem? value, Value.toItems? rest with
    | some item, some items => some (item :: items)
    | _, _ => none

def Value.toEntries? (entries : Entries) : List (List String × Value) → Option Entries
  | [] => some entries
  | (path, value) :: rest =>
    match Value.toItem? value with
    | none => none
    | some item =>
      match Entries.assign path item entries with
      | none => none
      | some entries => Value.toEntries? entries rest

end

structure Document where
  entries : Entries := []
  current : List String := []

namespace Document

def splitLast? : List String → Option (List String × String)
  | [] => none
  | [key] => some ([], key)
  | key :: rest => (splitLast? rest).map fun (parents, last) => (key :: parents, last)

def openTable : Option Item → Option Item
  | none => some (.table .header [])
  | some (.table .implied entries) => some (.table .header entries)
  | some _ => none

def openElement : Option Item → Option Item
  | none => some (.tables [[]])
  | some (.tables elements) => some (.tables (elements ++ [[]]))
  | some _ => none

def enter (path : List String) (change : Option Item → Option Item) (document : Document) :
    Option Document :=
  match splitLast? path with
  | none => none
  | some (parents, key) =>
    (document.entries.within parents (Entries.update key change)).map fun entries =>
      ⟨entries, path⟩

def add (document : Document) : Statement → Option Document
  | .table path => document.enter path openTable
  | .element path => document.enter path openElement
  | .assign path value =>
    match value.toItem? with
    | none => none
    | some item =>
      (document.entries.within document.current (Entries.assign path item)).map fun entries =>
        { document with entries }

def ofStatements? (statements : List Statement) : Option Document :=
  statements.foldlM add {}

def read (text : List Char) : Option Entries :=
  match Statement.read text with
  | none => none
  | some statements => (ofStatements? statements).map Document.entries

end Document

end UsbHost.Toml
