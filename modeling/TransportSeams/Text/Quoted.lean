import TransportSeams.Text.Hexadecimal
import TransportSeams.Text.Visible

/-!
Quoted text for diagnostics: double quotes around the text, a backslash before a quote or a
backslash, short escapes for the common controls, and the code point of any other hidden character.
-/

set_option autoImplicit false
set_option relaxedAutoImplicit false

namespace TransportSeams.Text

def quotedChar (c : Char) : List Char :=
  if c = '"' then ['\\', '"']
  else if c = '\\' then ['\\', '\\']
  else if c = '\n' then ['\\', 'n']
  else if c = '\r' then ['\\', 'r']
  else if c = '\t' then ['\\', 't']
  else if c = '\x00' then ['\\', '0']
  else if isVisible c then [c]
  else ['\\', 'u', '\x7b'] ++ hexNumber c.toNat ++ ['\x7d']

def quoted (text : String) : String :=
  String.ofList (['"'] ++ text.toList.flatMap quotedChar ++ ['"'])

end TransportSeams.Text
