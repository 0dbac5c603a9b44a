import UsbHost.Config.Basic
import UsbHost.Toml.Table

/-!
Configurations as TOML documents: a table `general` with the log level and an array `devices` with
the aliases. What is written reads back as it was, and what is read has been validated.
-/

namespace UsbHost

inductive DocumentFault where
  | malformed
  | invalid (fault : ConfigFault)
deriving DecidableEq

def DocumentFault.message : DocumentFault → String
  | .malformed => "<toml>"
  | .invalid fault => fault.message

def textLine (key text : String) : List Char :=
  key.toList ++ " = ".toList ++ Toml.writeText text ++ ['\n']

def Alias.toToml (entry : Alias) : List Char :=
  "\n[[devices]]\n".toList ++ textLine "name" entry.name ++
    textLine "vendor_id" entry.vendorId ++ textLine "product_id" entry.productId ++
    match entry.description with
    | none => []
    | some description => textLine "description" description

/-- The fields of a record by name, or by position where the record is an array. -/
def recordFields? (names : List String) : Toml.Item → Option (List (Option Toml.Item))
  | .table _ entries => some (names.map fun name => entries.lookup name)
  | .array items => some ((List.range names.length).map (items[·]?))
  | .tables elements =>
    some ((List.range names.length).map fun index => elements[index]?.map (.table .header))
  | _ => none

def textField? : Option Toml.Item → Option String
  | some (.text text) => some text
  | _ => none

def optionalTextField? : Option Toml.Item → Option (Option String)
  | none => some none
  | some (.text text) => some (some text)
  | some _ => none

def Alias.ofToml? (item : Toml.Item) : Option Alias :=
  match recordFields? ["name", "vendor_id", "product_id", "description"] item with
  | some [name, vendorId, productId, description] =>
    match textField? name, textField? vendorId, textField? productId,
      optionalTextField? description with
    | some name, some vendorId, some productId, some description =>
      some { name, vendorId, productId, description }
    | _, _, _, _ => none
  | _ => none

namespace Config

def generalToml (config : Config) : List Char :=
  "[general]\n".toList ++ textLine "log_level" config.logLevel

/-- Without devices the empty array comes first, since no key may follow the table. -/
def tomlChars (config : Config) : List Char :=
  if config.devices.isEmpty then "devices = []\n\n".toList ++ config.generalToml
  else config.generalToml ++ config.devices.flatMap Alias.toToml

def toToml (config : Config) : String := String.ofList config.tomlChars

def logLevelOfToml? (item : Option Toml.Item) : Option String :=
  match item.bind (recordFields? ["log_level"]) with
  | some [level] => textField? level
  | _ => none

def devicesOfToml? : Option Toml.Item → Option (List Alias)
  | none => some []
  | some (.array items) => items.mapM Alias.ofToml?
  | some (.tables elements) => elements.mapM fun entries => Alias.ofToml? (.table .header entries)
  | some _ => none

def ofEntries? (entries : Toml.Entries) : Option Config :=
  match logLevelOfToml? (entries.lookup "general"), devicesOfToml? (entries.lookup "devices") with
  | some logLevel, some devices => some { logLevel, devices }
  | _, _ => none

def ofToml (text : String) : Except DocumentFault Config :=
  match (Toml.Document.read text.toList).bind ofEntries? with
  | none => .error .malformed
  | some config =>
    match config.validate with
    | .error fault => .error (.invalid fault)
    | .ok () => .ok config

end Config

end UsbHost
