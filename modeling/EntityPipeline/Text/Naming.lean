-- The names that are derived from an identifier: its first letter changed, its plural, its reading
-- for people, and its column name. Reserved words of SQL are known here too, since a table or
-- column named like one takes a distinguishing first part.
import EntityPipeline.Text.WordCase

namespace EntityPipeline.Text

/-- The words that no table and no column may be named, in capitals. -/
def reservedWords : List String := [
  "ALL", "ALTER", "AND", "ANY", "AS", "ASC", "BETWEEN", "BY", "CASE", "CHECK", "COLUMN",
  "CONSTRAINT", "CREATE", "CROSS", "CURRENT", "DEFAULT", "DELETE", "DESC", "DISTINCT", "DROP",
  "ELSE", "END", "EXISTS", "FALSE", "FETCH", "FOR", "FOREIGN", "FROM", "FULL", "GRANT",
  "GROUP", "HAVING", "IN", "INDEX", "INNER", "INSERT", "INTERSECT", "INTO", "IS", "JOIN",
  "KEY", "LEFT", "LIKE", "LIMIT", "NOT", "NULL", "OFFSET", "ON", "OR", "ORDER", "OUTER",
  "PRIMARY", "REFERENCES", "RIGHT", "ROW", "ROWS", "SELECT", "SESSION", "SET", "TABLE",
  "THEN", "TO", "TRUE", "UNION", "UNIQUE", "UPDATE", "USER", "USING", "VALUE", "VALUES",
  "WHEN", "WHERE", "WITH"]

/-- Whether a name is a reserved word, whatever the case of its ASCII letters. -/
def isReserved (name : String) : Bool :=
  reservedWords.contains (String.ofList (name.toList.map Char.toUpper))

/-! ## First letters -/

/-- A text with the capital of its first character. -/
def upperFirstChars : List Char → List Char
  | [] => []
  | c :: rest => upperChar c ++ rest

/-- A text with the small form of its first character. -/
def lowerFirstChars : List Char → List Char
  | [] => []
  | c :: rest => lowerChar c ++ rest

/-- A name with a capital first letter. -/
def upperFirst (s : String) : String := String.ofList (upperFirstChars s.toList)

/-- A name with a small first letter. -/
def lowerFirst (s : String) : String := String.ofList (lowerFirstChars s.toList)

/-! ## Plurals -/

/-- Whether a word takes `es` in the plural; the word is given in small letters. -/
def takesEs (small : List Char) : Bool :=
  ['s'].isSuffixOf small || ['s', 'h'].isSuffixOf small || ['c', 'h'].isSuffixOf small ||
    ['x'].isSuffixOf small

/-- Whether a word changes `y` to `ies` in the plural; the word is given in small letters. -/
def takesIes (small : List Char) : Bool :=
  ['y'].isSuffixOf small && !(['a', 'y'].isSuffixOf small) && !(['e', 'y'].isSuffixOf small) &&
    !(['o', 'y'].isSuffixOf small)

/-- The plural of a word, cut where the word itself ended. -/
def pluralParts (word : List Char) : List Char × List Char :=
  let small := lower word
  if takesEs small then (word, ['e', 's'])
  else if takesIes small then (word.dropLast ++ ['i'], ['e', 's'])
  else (word, ['s'])

/-- Whether a word of two or more characters ends in a capital. -/
def isShouted (word : List Char) : Bool :=
  word.length > 1 && word.getLast?.any isUppercase

/-- The plural of a word. What a shouted word gains past its own length is shouted too. -/
def pluralChars (word : List Char) : List Char :=
  let (kept, gained) := pluralParts word
  kept ++ (if isShouted word then upper gained else gained)

/-- The plural of a name. -/
def pluralize (s : String) : String := String.ofList (pluralChars s.toList)

/-! ## Reading and columns -/

/-- The rest of a readable name, given what is written and the character it continues. -/
def humanizeFrom (written : List Char) (previous : Option Char) : List Char → List Char
  | [] => written
  | c :: rest =>
    if c == '_' || c == '-' then
      let spaced := if written.isEmpty || written.getLast? == some ' ' then written
        else written ++ [' ']
      humanizeFrom spaced none rest
    else
      let starts := isUppercase c && previous.any fun p => isLowercase p || isAsciiDigit p
      humanizeFrom (written ++ (if starts then [' ', c] else [c])) (some c) rest

/-- A name as people read it: words apart, the first letter a capital. -/
def humanize (s : String) : String :=
  String.ofList (upperFirstChars (humanizeFrom [] none s.toList))

/-- The rest of a column name, given the character before it. A capital starts a word when small
letters stand on both sides of it. -/
def columnFrom (previous : Option Char) : List Char → List Char
  | [] => []
  | c :: rest =>
    let starts := isUppercase c && previous.any isLowercase && rest.head?.any isLowercase
    (if starts then ['_'] else []) ++ lowerChar c ++ columnFrom (some c) rest

/-- The column or table name of an identifier. -/
def columnName (s : String) : String := String.ofList (columnFrom none s.toList)

/-- A name, set apart by a first part when it is reserved. -/
def unreserved (distinction name : String) : String :=
  if isReserved name then distinction ++ "_" ++ name else name

/-- The accessor name of a property: a capital second letter keeps the first as it is. -/
def beanName (s : String) : String :=
  match s.toList with
  | _ :: second :: _ => if isUppercase second then s else upperFirst s
  | _ => upperFirst s

end EntityPipeline.Text
