import UsbHost.Config.DeviceId

/-!
A configuration: a log level and named devices. It is valid when the level is one of five, no name
is empty or used twice, and every identifier reads; the first fault in the order of the file is the
one reported.
-/

namespace UsbHost

structure Alias where
  name : String
  vendorId : String
  productId : String
  description : Option String := none
deriving DecidableEq

namespace Alias

def ids (entry : Alias) : Except IdFault (UInt16 × UInt16) :=
  match readId IdKind.vendor.name entry.vendorId with
  | .error fault => .error fault
  | .ok vendorId =>
    match readId IdKind.product.name entry.productId with
    | .error fault => .error fault
    | .ok productId => .ok (vendorId, productId)

end Alias

structure Config where
  logLevel : String := "info"
  devices : List Alias := []
deriving DecidableEq

inductive ConfigFault where
  | badLogLevel (level : String)
  | emptyName
  | duplicateName (name : String)
  | badId (fault : IdFault)
deriving DecidableEq

def logLevels : List String := ["trace", "debug", "info", "warn", "error"]

def ConfigFault.message : ConfigFault → String
  | badLogLevel level =>
    "Invalid log level '" ++ level ++ "', must be one of: " ++ ", ".intercalate logLevels
  | emptyName => "Empty device name in devices list"
  | duplicateName name => "Duplicate device name '" ++ name ++ "'"
  | badId fault => fault.message

namespace Config

def find? (name : String) (config : Config) : Option Alias :=
  config.devices.find? fun entry => entry.name == name

def validateAliases (seen : List String) : List Alias → Except ConfigFault Unit
  | [] => .ok ()
  | entry :: rest =>
    if entry.name = "" then .error .emptyName
    else if entry.name ∈ seen then .error (.duplicateName entry.name)
    else
      match entry.ids with
      | .error fault => .error (.badId fault)
      | .ok _ => validateAliases (entry.name :: seen) rest

def validate (config : Config) : Except ConfigFault Unit :=
  if config.logLevel ∈ logLevels then validateAliases [] config.devices
  else .error (.badLogLevel config.logLevel)

end Config

end UsbHost
