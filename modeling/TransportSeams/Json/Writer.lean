import TransportSeams.Json.Value
import TransportSeams.Text.Hexadecimal

/-!
Compact JSON text. Inside a string a quote, a backslash and the control characters are escaped,
with the short form where there is one, and every other character stands for itself.
-/

set_option autoImplicit false
set_option relaxedAutoImplicit false

namespace TransportSeams.Json

def escapedChar (c : Char) : List Char :=
  if c = '"' then ['\\', '"']
  else if c = '\\' then ['\\', '\\']
  else if c = '\x08' then ['\\', 'b']
  else if c = '\x0c' then ['\\', 'f']
  else if c = '\n' then ['\\', 'n']
  else if c = '\r' then ['\\', 'r']
  else if c = '\t' then ['\\', 't']
  else if c.toNat < 0x20 then ['\\', 'u', '0', '0'] ++ Text.hexByte (UInt8.ofNat c.toNat)
  else [c]

def writeString (text : String) : List Char :=
  '"' :: (text.toList.flatMap escapedChar ++ ['"'])

def writeNumber (value : Int) : List Char :=
  if value < 0 then '-' :: Nat.toDigits 10 value.natAbs else Nat.toDigits 10 value.natAbs

mutual

def write : Json → List Char
  | .null => "null".toList
  | .bool true => "true".toList
  | .bool false => "false".toList
  | .number value => writeNumber value
  | .decimal value => value.text
  | .string text => writeString text
  | .array items => '[' :: (writeItems items ++ [']'])
  | .object members => '\x7b' :: (writeMembers members ++ ['\x7d'])

def writeItems : List Json → List Char
  | [] => []
  | [item] => item.write
  | item :: next :: rest => item.write ++ ',' :: writeItems (next :: rest)

def writeMembers : List (String × Json) → List Char
  | [] => []
  | [(name, value)] => writeString name ++ ':' :: value.write
  | (name, value) :: next :: rest =>
    writeString name ++ ':' :: (value.write ++ ',' :: writeMembers (next :: rest))

end

def render (value : Json) : String :=
  String.ofList value.write

end TransportSeams.Json
