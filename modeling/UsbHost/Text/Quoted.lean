import UsbHost.Text.Printable

/-!
A text between double quotes, with escapes for what could not be read off the page: quotes,
backslashes, line breaks, tabs, the null character, and every unprintable character by its code
point in braces.
-/

namespace UsbHost.Quoted

def codePoint (c : Char) : List Char :=
  "\\u\x7b".toList ++ Nat.toDigits 16 c.toNat ++ ['\x7d']

def escape (c : Char) : List Char :=
  match c with
  | '\x00' => ['\\', '0']
  | '\t' => ['\\', 't']
  | '\r' => ['\\', 'r']
  | '\n' => ['\\', 'n']
  | '"' => ['\\', '"']
  | '\\' => ['\\', '\\']
  | c => if isPrintable c then [c] else codePoint c

def write (text : String) : String :=
  String.ofList ('"' :: text.toList.flatMap escape ++ ['"'])

end UsbHost.Quoted
