import ReportGateway.Text.Radix
import ReportGateway.Text.Unprintable

/-!
Quoting of a client's text inside a message. The text stands between double quotes; quotes and
backslashes are escaped, common control characters by a letter, and every other character that
cannot be shown by its number.
-/

namespace ReportGateway.Text

/-- A character inside a quoted text. -/
def quoteChar (c : Char) : List Char :=
  if c = '\x00' then ['\\', '0']
  else if c = '\t' then ['\\', 't']
  else if c = '\r' then ['\\', 'r']
  else if c = '\n' then ['\\', 'n']
  else if c = '"' then ['\\', '"']
  else if c = '\\' then ['\\', '\\']
  else if isUnprintable c then ['\\', 'u', '\x7b'] ++ Radix.hexadecimal c.toNat ++ ['\x7d']
  else [c]

/-- A text in double quotes. -/
def quote (s : String) : String :=
  String.ofList ('"' :: (s.toList.flatMap quoteChar ++ ['"']))

end ReportGateway.Text
