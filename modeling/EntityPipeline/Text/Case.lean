-- Letter classes and case mappings of Unicode characters and texts. ASCII is decided by rule, all
-- else by table. Mapping a text may change its length: `ß` becomes `SS`, and the capital sigma has
-- one small form inside a word and another at its end.
import EntityPipeline.Text.CaseTable
import EntityPipeline.Text.LetterTable

namespace EntityPipeline.Text

/-! ## Look-up -/

/-- Whether a code point lies in one of the intervals. -/
def inIntervals (table : List (Nat × Nat)) (n : Nat) : Bool :=
  table.any fun (first, last) => first ≤ n && n ≤ last

/-- Whether a code point is hit by one of the strides. -/
def inStrides (table : List (Nat × Nat × Nat)) (n : Nat) : Bool :=
  table.any fun (first, last, step) => first ≤ n && n ≤ last && (n - first) % step == 0

/-- The image of a code point under a strided mapping. -/
def shifted (table : List (Nat × Nat × Nat × Int)) (n : Nat) : Option Char :=
  table.findSome? fun (first, last, step, distance) =>
    if first ≤ n && n ≤ last && (n - first) % step == 0 then
      some (Char.ofNat (n + distance).toNat)
    else none

/-- Whether a character is an ASCII character. -/
def isAscii (c : Char) : Bool := c.toNat < 128

/-! ## Letter classes -/

/-- Whether a character has the property Uppercase. -/
def isUppercase (c : Char) : Bool :=
  if isAscii c then c.isUpper else inStrides CaseTable.uppercase c.toNat

/-- Whether a character has the property Lowercase. -/
def isLowercase (c : Char) : Bool :=
  if isAscii c then c.isLower else inStrides CaseTable.lowercase c.toNat

/-- Whether a character has the property Alphabetic. -/
def isAlphabetic (c : Char) : Bool :=
  if isAscii c then c.isAlpha else inIntervals LetterTable.alphabetic c.toNat

/-- Whether a character is alphabetic or numeric. -/
def isAlphanumeric (c : Char) : Bool :=
  if isAscii c then c.isAlphanum else inIntervals LetterTable.alphanumeric c.toNat

/-- Whether a character is a decimal digit of ASCII. -/
def isAsciiDigit (c : Char) : Bool := c.isDigit

/-- Whether a character has a case at all. -/
def isCased (c : Char) : Bool :=
  isUppercase c || isLowercase c || inIntervals CaseTable.titlecase c.toNat

/-- Whether a character is skipped when the surroundings of a capital sigma are examined. -/
def isCaseIgnorable (c : Char) : Bool :=
  if isAscii c then [39, 46, 58, 94, 96].contains c.toNat
  else inIntervals CaseTable.caseIgnorable c.toNat

/-! ## Case mappings -/

/-- The capital of a character. -/
def upperChar (c : Char) : List Char :=
  if isAscii c then [c.toUpper]
  else match CaseTable.toUpperSpecial.lookup c.toNat with
    | some image => image.map Char.ofNat
    | none => [(shifted CaseTable.toUpper c.toNat).getD c]

/-- The small form of a character. -/
def lowerChar (c : Char) : List Char :=
  if isAscii c then [c.toLower]
  else match CaseTable.toLowerSpecial.lookup c.toNat with
    | some image => image.map Char.ofNat
    | none => [(shifted CaseTable.toLower c.toNat).getD c]

/-- Whether the nearest character that is not case-ignorable has a case. -/
def meetsCased (chars : List Char) : Bool :=
  match chars.dropWhile isCaseIgnorable with
  | [] => false
  | c :: _ => isCased c

/-- Small forms of the rest of a text, given the characters before it, nearest first. A capital
sigma is final when a cased character comes before it and none after. -/
def lowerAfter (before : List Char) : List Char → List Char
  | [] => []
  | c :: rest =>
    (if c == 'Σ' then [if meetsCased before && !meetsCased rest then 'ς' else 'σ']
      else lowerChar c) ++ lowerAfter (c :: before) rest

/-- The small form of a text. -/
def lower (chars : List Char) : List Char := lowerAfter [] chars

/-- The capitals of a text. -/
def upper (chars : List Char) : List Char := chars.flatMap upperChar

/-- The small form of a string. -/
def toLowercase (s : String) : String := String.ofList (lower s.toList)

end EntityPipeline.Text
