/-!
The words that give a stack program access to USB, with the names it calls them by.

| word                      | stack effect                                          |
|---------------------------|-------------------------------------------------------|
| `usb-find-device`         | `( vid pid -- handle -1 or 0 )`                       |
| `usb-close`               | `( handle -- )`                                       |
| `usb-control`             | `( type req value index length buf handle -- count )` |
| `usb-get-pipe-properties` | `( pipe handle -- dir number type size interval )`    |
| `usb-read`                | `( buf size pipe handle -- count )`                   |
| `usb-write`               | `( buf size pipe handle -- )`                         |
| `usb-device-find`         | `( vid pid -- dev -1 or 0 )`                          |
| `usb-device-close`        | `( dev -- )`                                          |
| `usb-device-request`      | `( type req value index length buf dev -- )`          |
-/

namespace UsbHost

inductive Word where
  | findInterface
  | closeInterface
  | control
  | pipeProperties
  | read
  | write
  | findDevice
  | closeDevice
  | request
deriving DecidableEq

namespace Word

def all : List Word :=
  [findInterface, closeInterface, control, pipeProperties, read, write, findDevice, closeDevice,
    request]

def name : Word → String
  | findInterface => "usb-find-device"
  | closeInterface => "usb-close"
  | control => "usb-control"
  | pipeProperties => "usb-get-pipe-properties"
  | read => "usb-read"
  | write => "usb-write"
  | findDevice => "usb-device-find"
  | closeDevice => "usb-device-close"
  | request => "usb-device-request"

def ofName? (name : String) : Option Word :=
  all.find? fun word => word.name == name

theorem ofName?_name (word : Word) : ofName? word.name = some word := by
  cases word <;> decide

end Word

end UsbHost
