-- Text between quotation marks as messages show it: quotation marks, backslashes and line controls
-- are escaped, and a character that cannot be seen is written by its code point.
import EntityPipeline.Text.Case
import EntityPipeline.Text.HiddenTable

namespace EntityPipeline.Text

/-- Whether a character is written by its code point. -/
def isHidden (c : Char) : Bool :=
  if isAscii c then c.toNat < 32 || c.toNat == 127 else inIntervals HiddenTable.hidden c.toNat

/-- The digits of a number in base sixteen, small letters. -/
def hexDigits (n : Nat) : List Char := Nat.toDigits 16 n

/-- A character as it stands between quotation marks. -/
def shownChar (c : Char) : List Char :=
  if c == '"' then ['\\', '"']
  else if c == '\\' then ['\\', '\\']
  else if c == '\n' then ['\\', 'n']
  else if c == '\r' then ['\\', 'r']
  else if c == '\t' then ['\\', 't']
  else if c.toNat == 0 then ['\\', '0']
  else if isHidden c then ['\\', 'u', '\x7b'] ++ hexDigits c.toNat ++ ['\x7d']
  else [c]

/-- A text between quotation marks. -/
def quoted (s : String) : String :=
  String.ofList ('"' :: s.toList.flatMap shownChar ++ ['"'])

end EntityPipeline.Text
