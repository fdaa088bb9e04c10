/-
**Texts in quotes.**

`Quoted.quote` puts a text between double quotes. Quotes, backslashes, tabs, line ends and the null
character are written with a backslash, unprintable characters by their code point in hexadecimal,
and all others as they are.
-/

import PeerMesh.Text.Digits
import PeerMesh.Text.Unprintable

namespace PeerMesh.Quoted

/-- One character as it stands between quotes. -/
def escape (char : Char) : String :=
  if char = '"' then "\\\""
  else if char = '\\' then "\\\\"
  else if char = '\n' then "\\n"
  else if char = '\t' then "\\t"
  else if char = '\r' then "\\r"
  else if char = '\x00' then "\\0"
  else if Unprintable.test char then "\\u\x7b" ++ Digits.hexText char.toNat ++ "\x7d"
  else String.singleton char

/-- A text between quotes. -/
def quote (text : String) : String :=
  "\"" ++ String.join (text.toList.map escape) ++ "\""

end PeerMesh.Quoted
