-- The numbers of a JSON document. A number written without fraction and exponent stays an integer
-- while 64 bits hold it; every other one is read as a double, which need not be the nearest one: the
-- digits that 64 bits hold are taken, then scaled. The integer `1` and the double `1.0` are
-- different numbers.
import EntityPipeline.Number.Binary64

namespace EntityPipeline

/-- A number of a JSON document. -/
inductive Number where
  | int (value : Int)
  | real (value : Binary64)
deriving DecidableEq, Repr, Inhabited

namespace Number

/-- Two numbers are the same when they are equal as integers or as doubles. -/
def same : Number → Number → Bool
  | .int a, .int b => a == b
  | .real a, .real b => a.same b
  | _, _ => false

/-- Whether an integer stays one: it fits into 64 bits, signed or not. -/
def fits (n : Int) : Bool := -Int.ofNat (Nat.pow 2 63) ≤ n && n < Int.ofNat (Nat.pow 2 64)

/-! ## Printing -/

/-- The decimal digits of a natural number. -/
def digits (n : Nat) : List Char := Nat.toDigits 10 n

/-- The text of an integer. -/
def intText (n : Int) : List Char :=
  if n < 0 then '-' :: digits n.natAbs else digits n.natAbs

/-- Doubles whose first digit lies between these powers of ten are written without exponent. -/
def isPositional (power : Int) : Bool := -5 ≤ power && power ≤ 15

/-- Digits with the point after the first `whole` of them, zeros filled in on either side. -/
def positional (ds : List Char) (power : Int) : List Char :=
  if power < 0 then '0' :: '.' :: List.replicate (power.natAbs - 1) '0' ++ ds
  else
    let whole := power.natAbs + 1
    if ds.length ≤ whole then ds ++ List.replicate (whole - ds.length) '0' ++ ['.', '0']
    else ds.take whole ++ '.' :: ds.drop whole

/-- Digits with the point after the first, and a power of ten with its sign. -/
def scientific (ds : List Char) (power : Int) : List Char :=
  let head := match ds with
    | d :: e :: rest => d :: '.' :: e :: rest
    | short => short
  head ++ 'e' :: (if power < 0 then '-' else '+') :: digits power.natAbs

/-- The text of a double: the shortest digits that round to it, with at least one digit of fraction
where no exponent stands. -/
def realText (x : Binary64) : List Char :=
  let sign := if x.negative then ['-'] else []
  if x.isZero then sign ++ ['0', '.', '0']
  else
    let (d, e) := x.shortest
    let ds := digits d
    let power := e + ds.length - 1
    sign ++ (if isPositional power then positional ds power else scientific ds power)

/-- The text of a number. -/
def chars : Number → List Char
  | .int n => intText n
  | .real x => realText x

/-- The text of a number. -/
def render (n : Number) : String := String.ofList n.chars

/-! ## Reading -/

/-- What a run of number characters turns out to be. -/
inductive Reading where
  | read (n : Number)
  | tooLarge
  | unfinished
  | malformed
deriving DecidableEq, Repr, Inhabited

/-- The value of a digit. -/
def digitValue (c : Char) : Nat := c.toNat - 48

/-- The value of a list of digits. -/
def value (ds : List Char) : Nat := ds.foldl (fun n c => n * 10 + digitValue c) 0

/-- Digits are taken into a significand until 64 bits do not hold the next one; with the significand
goes the number of digits that are left out. -/
def absorb (significand : Nat) : List Char → Nat × Nat
  | [] => (significand, 0)
  | c :: rest =>
    let next := significand * 10 + digitValue c
    if next < Nat.pow 2 64 then absorb next rest else (significand, rest.length + 1)

/-- A number with a fraction, an exponent or too many digits. -/
def readReal (negative : Bool) (significand : Nat) (exponent : Int) : Reading :=
  match Binary64.readDecimal negative significand exponent with
  | some x => .read (.real x)
  | none => .tooLarge

/-- A number without fraction and exponent, of whose digits some may be left out. -/
def readWhole (negative : Bool) (significand leftOut : Nat) : Reading :=
  let n : Int := if negative then -(significand : Int) else significand
  if leftOut == 0 && fits n && !(negative && significand == 0) then .read (.int n)
  else readReal negative significand leftOut

/-- What is left after a part that must not be empty: nothing is missing, or it breaks off. -/
def lacking (rest : List Char) : Reading := if rest.isEmpty then .unfinished else .malformed

/-- The exponent of a number whose other digits have been read. -/
def readExponent (negative : Bool) (significand : Nat) (exponent : Int) (text : List Char) :
    Reading :=
  let (minus, text) := match text with
    | '+' :: rest => (false, rest)
    | '-' :: rest => (true, rest)
    | other => (false, other)
  let ds := text.takeWhile Char.isDigit
  let rest := text.dropWhile Char.isDigit
  if ds.isEmpty then lacking rest
  else if !rest.isEmpty then .malformed
  else readReal negative significand (if minus then exponent - value ds else exponent + value ds)

/-- What may follow the fraction of a number. -/
def readTail (negative : Bool) (significand : Nat) (exponent : Int) : List Char → Reading
  | [] => readReal negative significand exponent
  | c :: rest =>
    if c == 'e' || c == 'E' then readExponent negative significand exponent rest else .malformed

/-- The fraction of a number and what follows it. Each digit that is taken lowers the exponent. -/
def readFraction (negative : Bool) (significand leftOut : Nat) (text : List Char) : Reading :=
  let ds := text.takeWhile Char.isDigit
  let rest := text.dropWhile Char.isDigit
  if ds.isEmpty then lacking rest
  else
    let (significand, ignored) := absorb significand ds
    readTail negative significand (leftOut - (ds.length - ignored : Int)) rest

/-- What follows the whole part of a number. -/
def readAfterWhole (negative : Bool) (significand leftOut : Nat) : List Char → Reading
  | [] => readWhole negative significand leftOut
  | '.' :: rest => readFraction negative significand leftOut rest
  | rest => readTail negative significand leftOut rest

/-- A number without its sign. The whole part has no leading zero; fraction and exponent have at
least one digit. -/
def readMagnitude (negative : Bool) (text : List Char) : Reading :=
  let whole := text.takeWhile Char.isDigit
  let rest := text.dropWhile Char.isDigit
  if whole.isEmpty then lacking rest
  else if whole.head? == some '0' && whole.length > 1 then .malformed
  else
    let (significand, leftOut) := absorb 0 whole
    readAfterWhole negative significand leftOut rest

/-- A run of number characters. -/
def read : List Char → Reading
  | '-' :: rest => readMagnitude true rest
  | text => readMagnitude false text

end Number

end EntityPipeline
