import Courier.Text.Ascii
import Courier.Text.Hidden
/-!
Texts shown in double quotes. Quotes and backslashes are escaped, the common control characters
have escapes of one letter, and every other hidden character is written as its code point.
-/
namespace Courier.Quoted

def escape (c : Char) : List Char :=
  match c with
  | '"' => ['\\', '"']
  | '\\' => ['\\', '\\']
  | '\n' => ['\\', 'n']
  | '\r' => ['\\', 'r']
  | '\t' => ['\\', 't']
  | '\x00' => ['\\', '0']
  | _ => if isHidden c then '\\' :: 'u' :: '\x7b' :: lowerHex c.toNat ++ ['\x7d'] else [c]

def encode (text : List Char) : List Char := '"' :: text.flatMap escape ++ ['"']

def text (plain : String) : String := String.ofList (encode plain.toList)

end Courier.Quoted
