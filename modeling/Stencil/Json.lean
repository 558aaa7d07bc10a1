import Stencil.Value

/-!
# Compact JSON

The JSON text of a value: no space between tokens, map entries in the order of their keys, and no
escape that is not needed.
-/

namespace Stencil

namespace Json

/-- The lower-case hexadecimal digits. -/
def hexDigits : Text := "0123456789abcdef".toList

/-- A digit of a hexadecimal number below sixteen. -/
def hexDigit (n : Nat) : Char := hexDigits.getD n '0'

/-- A character inside a string. The quotation mark, the backslash and the controls below the space
are escaped, five of the controls by a letter. -/
def escape (c : Char) : Text :=
  if c = '"' then ['\\', '"']
  else if c = '\\' then ['\\', '\\']
  else if c = '\x08' then ['\\', 'b']
  else if c = '\t' then ['\\', 't']
  else if c = '\n' then ['\\', 'n']
  else if c = '\x0c' then ['\\', 'f']
  else if c = '\r' then ['\\', 'r']
  else if c.toNat < 0x20 then
    "\\u00".toList ++ [hexDigit (c.toNat / 16), hexDigit (c.toNat % 16)]
  else [c]

/-- A string in quotation marks. -/
def quote (s : Text) : Text := '"' :: s.flatMap escape ++ ['"']

/-- The texts between commas. -/
def commas (texts : List Text) : Text := List.intercalate [','] texts

mutual

/-- The JSON text of a value. -/
def print : Value → Text
  | .null => "null".toList
  | .bool true => "true".toList
  | .bool false => "false".toList
  | .number n => n.text
  | .string s => quote s
  | .list items => '[' :: commas (printItems items) ++ [']']
  | .map entries => '\x7b' :: commas (printEntries entries) ++ ['\x7d']

/-- The JSON texts of list items. -/
def printItems : List Value → List Text
  | [] => []
  | v :: rest => print v :: printItems rest

/-- The JSON texts of map entries. -/
def printEntries : List (Text × Value) → List Text
  | [] => []
  | (key, v) :: rest => (quote key ++ ':' :: print v) :: printEntries rest

end

end Json

/-- The text that a token is replaced by: a string as it is, nothing for null, and JSON for lists and
maps. -/
def Value.display : Value → Text
  | .null => []
  | .string s => s
  | v => Json.print v

end Stencil
