import UsbHost.Bytes
import UsbHost.Command.Line
import UsbHost.Json.Form

/-!
What the commands print: lists and tables for a person or as JSON, the data of requests in
hexadecimal, and failures with their causes below them.
-/

namespace UsbHost.Report

def padLeft (width : Nat) (fill : Char) (text : String) : String :=
  String.ofList (List.leftpad width fill text.toList)

def padRight (width : Nat) (text : String) : String :=
  String.ofList (List.rightpad width ' ' text.toList)

def line (text : String) : String := text ++ "\n"

def idText (id : UInt16) : String :=
  padLeft 4 '0' (String.ofList (Nat.toDigits 16 id.toNat))

def idPair (vendorId productId : UInt16) : String := idText vendorId ++ ":" ++ idText productId

def deviceLine (device : DeviceSummary) : String :=
  line ("  Bus " ++ padLeft 3 '0' (toString device.busNumber.toNat) ++
    " Device " ++ padLeft 3 '0' (toString device.address.toNat) ++
    ": " ++ idPair device.vendorId device.productId)

def deviceList (isJson : Bool) (devices : List DeviceSummary) : String :=
  if isJson then line (JsonValue.array (devices.map DeviceSummary.toJson)).indented
  else if devices.isEmpty then line "No USB devices found."
  else
    line ("Found " ++ toString devices.length ++ " USB device(s):") ++ line "" ++
      String.join (devices.map deviceLine)

def pipeLine (index : Nat) (pipe : Pipe) : String :=
  line ("  " ++ padLeft 4 ' ' (toString index) ++ "  " ++ padRight 3 pipe.direction.title ++
    "  " ++ padLeft 6 ' ' (toString pipe.number.toNat) ++ "  " ++ padRight 11 pipe.kind.title ++
    "  " ++ padLeft 4 ' ' (toString pipe.maxPacketSize.toNat) ++
    "  " ++ padLeft 8 ' ' (toString pipe.interval.toNat))

def pipeReport (vendorId productId : UInt16) (pipes : List Pipe) : JsonValue :=
  .object [
    (some "vendor_id", Json.ofHalf vendorId),
    (some "product_id", Json.ofHalf productId),
    (some "pipes", .array (pipes.map Pipe.toJson))]

def pipeTable (isJson : Bool) (vendorId productId : UInt16) (pipes : List Pipe) : String :=
  if isJson then line (pipeReport vendorId productId pipes).indented
  else
    line ("Interface 0 of " ++ idPair vendorId productId ++ ":") ++ line "" ++
      line "  pipe  dir  number  type         size  interval" ++
      String.join (pipes.mapIdx pipeLine)

def sent (count : Nat) : String := line ("Sent " ++ toString count ++ " byte(s)")

def controlData (setup : Setup) (data : Bytes) : String :=
  if setup.isInput then line (Bytes.spaced data) else sent data.length

/-- The whole data stage, since nothing says how much of it was transferred. -/
def requestData (setup : Setup) (data : Bytes) : String :=
  if setup.isInput then
    line (Bytes.spaced data) ++
      line ("(byte count not reported; showing all " ++ toString data.length ++
        " requested byte(s))")
  else sent data.length

def written (pipe : UInt8) (data : Bytes) : String :=
  line ("Wrote " ++ toString data.length ++ " byte(s) to pipe " ++ toString pipe.toNat)

def cause (heading indentation text : String) : String :=
  heading ++ ("\n" ++ indentation).intercalate (text.splitOn "\n")

def causes : List String → String
  | [] => ""
  | [only] => "\n\nCaused by:\n" ++ cause "    " "    " only
  | several =>
    "\n\nCaused by:\n" ++ "\n".intercalate (several.mapIdx fun index text =>
      cause (padLeft 5 ' ' (toString index) ++ ": ") "       " text)

def failure : List String → String
  | [] => line "Error"
  | message :: below => line ("Error: " ++ message ++ causes below)

end UsbHost.Report
