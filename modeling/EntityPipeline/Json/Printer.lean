-- Printing JSON values, either on one line or with every item and member on a line of its own,
-- indented by two blanks for each container around it.
import EntityPipeline.Json.Value

namespace EntityPipeline.Json

/-! ## Strings -/

/-- A digit of base sixteen, small letters. -/
def hexDigit (n : Nat) : Char := if n < 10 then Char.ofNat (48 + n) else Char.ofNat (87 + n)

/-- A character between quotation marks. Quotation marks, backslashes and controls are escaped;
all else stands as it is. -/
def escapedChar (c : Char) : List Char :=
  if c == '"' then ['\\', '"']
  else if c == '\\' then ['\\', '\\']
  else if c == '\x08' then ['\\', 'b']
  else if c == '\x0c' then ['\\', 'f']
  else if c == '\n' then ['\\', 'n']
  else if c == '\r' then ['\\', 'r']
  else if c == '\t' then ['\\', 't']
  else if c.toNat < 32 then ['\\', 'u', '0', '0', hexDigit (c.toNat / 16), hexDigit (c.toNat % 16)]
  else [c]

/-- A string between quotation marks. -/
def stringChars (s : String) : List Char := '"' :: s.toList.flatMap escapedChar ++ ['"']

/-- The text of a boolean. -/
def boolChars (b : Bool) : List Char :=
  if b then ['t', 'r', 'u', 'e'] else ['f', 'a', 'l', 's', 'e']

/-! ## One line -/

mutual

/-- A value on one line. -/
def compactChars : Json → List Char
  | .null => ['n', 'u', 'l', 'l']
  | .bool b => boolChars b
  | .number n => n.chars
  | .string s => stringChars s
  | .array items => '[' :: compactItems true items ++ [']']
  | .object members => '\x7b' :: compactMembers true members ++ ['\x7d']

/-- Items on one line, the first without a comma before it. -/
def compactItems : Bool → List Json → List Char
  | _, [] => []
  | isFirst, item :: rest =>
    (if isFirst then [] else [',']) ++ compactChars item ++ compactItems false rest

/-- Members on one line, the first without a comma before it. -/
def compactMembers : Bool → List (String × Json) → List Char
  | _, [] => []
  | isFirst, (key, value) :: rest =>
    (if isFirst then [] else [',']) ++ stringChars key ++ ':' :: compactChars value ++
      compactMembers false rest

end

/-- The text of a value on one line. -/
def compact (value : Json) : String := String.ofList value.compactChars

/-! ## Many lines -/

/-- A line break and the indentation of the next line. -/
def lineBreak (indent : Nat) : List Char := '\n' :: List.replicate (2 * indent) ' '

mutual

/-- A value over several lines, the first of which goes on at the given indentation. -/
def prettyChars (indent : Nat) : Json → List Char
  | .null => ['n', 'u', 'l', 'l']
  | .bool b => boolChars b
  | .number n => n.chars
  | .string s => stringChars s
  | .array [] => ['[', ']']
  | .array (item :: rest) =>
    '[' :: lineBreak (indent + 1) ++ prettyChars (indent + 1) item ++
      prettyItems (indent + 1) rest ++ lineBreak indent ++ [']']
  | .object [] => ['\x7b', '\x7d']
  | .object ((key, value) :: rest) =>
    '\x7b' :: lineBreak (indent + 1) ++ stringChars key ++ ':' :: ' ' ::
      prettyChars (indent + 1) value ++ prettyMembers (indent + 1) rest ++ lineBreak indent ++
      ['\x7d']

/-- The items after the first, each on a line of its own. -/
def prettyItems (indent : Nat) : List Json → List Char
  | [] => []
  | item :: rest =>
    ',' :: lineBreak indent ++ prettyChars indent item ++ prettyItems indent rest

/-- The members after the first, each on a line of its own. -/
def prettyMembers (indent : Nat) : List (String × Json) → List Char
  | [] => []
  | (key, value) :: rest =>
    ',' :: lineBreak indent ++ stringChars key ++ ':' :: ' ' :: prettyChars indent value ++
      prettyMembers indent rest

end

/-- The text of a value over several lines. -/
def pretty (value : Json) : String := String.ofList (value.prettyChars 0)

end EntityPipeline.Json
