import UsbHost.Json.Reader
import UsbHost.Json.Writer
import UsbHost.Native.Pipe
import UsbHost.Native.Request

/-!
Pipes and device summaries as JSON. A record is an object with its fields as members, in any order
and among any others, or the array of its fields in order. A field that is missing or there twice,
or a number that does not fit, is refused.
-/

namespace UsbHost

namespace Json

def fields? (names : List String) : JsonValue → Option (List JsonValue)
  | .array items => if items.length = names.length then some items else none
  | .object members =>
    if members.any fun member => member.1.isNone then none
    else names.mapM fun name =>
      match members.filter fun member => member.1 == some name with
      | [(_, value)] => some value
      | _ => none
  | _ => none

def natural? (limit : Nat) : JsonValue → Option Nat
  | .number (some value) => if value ≤ limit then some value else none
  | _ => none

def byte? (value : JsonValue) : Option UInt8 := (natural? 0xff value).map UInt8.ofNat

def half? (value : JsonValue) : Option UInt16 := (natural? 0xffff value).map UInt16.ofNat

def choice? {α : Type} (name : α → String) (choices : List α) : JsonValue → Option α
  | .string (some text) => choices.find? fun choice => name choice == text
  | .object [(some text, .null)] => choices.find? fun choice => name choice == text
  | _ => none

def ofByte (value : UInt8) : JsonValue := .number (some value.toNat)

def ofHalf (value : UInt16) : JsonValue := .number (some value.toNat)

end Json

namespace Pipe

def fieldNames : List String :=
  ["direction", "number", "transfer_type", "max_packet_size", "interval"]

def toJson (pipe : Pipe) : JsonValue :=
  .object [
    (some "direction", .string (some pipe.direction.name)),
    (some "number", Json.ofByte pipe.number),
    (some "transfer_type", .string (some pipe.kind.name)),
    (some "max_packet_size", Json.ofHalf pipe.maxPacketSize),
    (some "interval", Json.ofByte pipe.interval)]

def ofJson? (value : JsonValue) : Option Pipe :=
  match Json.fields? fieldNames value with
  | some [direction, number, kind, maxPacketSize, interval] => do
    let direction ← Json.choice? Direction.name Direction.all direction
    let number ← Json.byte? number
    let kind ← Json.choice? TransferKind.name TransferKind.all kind
    let maxPacketSize ← Json.half? maxPacketSize
    let interval ← Json.byte? interval
    return { direction, number, kind, maxPacketSize, interval }
  | _ => none

def readJson (text : String) : Option Pipe := (Json.read text).bind ofJson?

end Pipe

namespace DeviceSummary

def fieldNames : List String := ["bus_number", "address", "vendor_id", "product_id"]

def toJson (summary : DeviceSummary) : JsonValue :=
  .object [
    (some "bus_number", Json.ofByte summary.busNumber),
    (some "address", Json.ofByte summary.address),
    (some "vendor_id", Json.ofHalf summary.vendorId),
    (some "product_id", Json.ofHalf summary.productId)]

def ofJson? (value : JsonValue) : Option DeviceSummary :=
  match Json.fields? fieldNames value with
  | some [busNumber, address, vendorId, productId] => do
    let busNumber ← Json.byte? busNumber
    let address ← Json.byte? address
    let vendorId ← Json.half? vendorId
    let productId ← Json.half? productId
    return { busNumber, address, vendorId, productId }
  | _ => none

def readJson (text : String) : Option DeviceSummary := (Json.read text).bind ofJson?

end DeviceSummary

end UsbHost
