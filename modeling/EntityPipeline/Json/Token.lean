-- The tokens of a JSON text. The text is read character by character; each character completes
-- tokens and changes what is being read. Reading stops at the first fault, which becomes the last
-- token. A number too large for a double and a text with half of a surrogate pair are complete
-- tokens all the same: they are refused where their value is wanted and pass where it is skipped.
import EntityPipeline.Json.Number

namespace EntityPipeline.Json

/-- What is wrong with a text: it breaks off, or it is malformed. -/
inductive Fault where
  | truncated
  | malformed
deriving DecidableEq, Repr, Inhabited

/-- A text between quotation marks. -/
inductive QuotedText where
  | whole (value : String)
  | unpaired
  | cut (isUnpaired : Bool) (fault : Fault)
deriving DecidableEq, Repr, Inhabited

/-- A token. -/
inductive Token where
  | openBrace
  | closeBrace
  | openBracket
  | closeBracket
  | colon
  | comma
  | null
  | bool (value : Bool)
  | number (value : Number)
  | hugeNumber
  | quoted (text : QuotedText)
  | fault (fault : Fault)
deriving DecidableEq, Repr, Inhabited

/-! ## Reading states -/

/-- The part of a quoted text that has been read, last character first. -/
structure PartialText where
  chars : List Char
  isUnpaired : Bool
deriving DecidableEq, Repr, Inhabited

/-- What is being read. -/
inductive Lexing where
  | between
  | word (rest : List Char) (token : Token)
  | number (chars : List Char)
  | text (read : PartialText)
  | escape (read : PartialText)
  | lowEscape (read : PartialText) (high : Nat)
  | lowMark (read : PartialText) (high : Nat)
  | hex (read : PartialText) (high : Option Nat) (digits : List Char)
  | stopped
deriving Repr, Inhabited

/-- Nothing has been read of a text yet. -/
def PartialText.empty : PartialText := ⟨[], false⟩

/-- A text with one more character. -/
def PartialText.push (t : PartialText) (c : Char) : PartialText := { t with chars := c :: t.chars }

/-- A text that can no longer be given as a value. -/
def PartialText.spoil (t : PartialText) : PartialText := { t with isUnpaired := true }

/-- The token of a text that is complete. -/
def PartialText.close (t : PartialText) : Token :=
  .quoted (if t.isUnpaired then .unpaired else .whole (String.ofList t.chars.reverse))

/-- The token of a text that ends in a fault. -/
def PartialText.cut (t : PartialText) (fault : Fault) : Token := .quoted (.cut t.isUnpaired fault)

/-- Whether a character may stand in a number. -/
def isNumberChar (c : Char) : Bool :=
  c.isDigit || c == '+' || c == '-' || c == '.' || c == 'e' || c == 'E'

/-- The token of a run of number characters, given last character first. -/
def numberToken (chars : List Char) : Token :=
  match Number.read chars.reverse with
  | .read n => .number n
  | .tooLarge => .hugeNumber
  | .unfinished => .fault .truncated
  | .malformed => .fault .malformed

/-- Whether a character separates tokens. -/
def isSpace (c : Char) : Bool := c == ' ' || c == '\n' || c == '\t' || c == '\r'

/-- What a character starts when no token is under way. -/
def begin (c : Char) : List Token × Lexing :=
  if isSpace c then ([], .between)
  else if c == '\x7b' then ([.openBrace], .between)
  else if c == '\x7d' then ([.closeBrace], .between)
  else if c == '[' then ([.openBracket], .between)
  else if c == ']' then ([.closeBracket], .between)
  else if c == ':' then ([.colon], .between)
  else if c == ',' then ([.comma], .between)
  else if c == '"' then ([], .text .empty)
  else if c == 'n' then ([], .word ['u', 'l', 'l'] .null)
  else if c == 't' then ([], .word ['r', 'u', 'e'] (.bool true))
  else if c == 'f' then ([], .word ['a', 'l', 's', 'e'] (.bool false))
  else if c == '-' || c.isDigit then ([], .number [c])
  else ([.fault .malformed], .stopped)

/-- The character that a letter after a backslash stands for. -/
def escaped? (c : Char) : Option Char :=
  if c == '"' || c == '\\' || c == '/' then some c
  else if c == 'b' then some '\x08'
  else if c == 'f' then some '\x0c'
  else if c == 'n' then some '\n'
  else if c == 'r' then some '\r'
  else if c == 't' then some '\t'
  else none

/-- The value of a digit in base sixteen. -/
def hexValue? (c : Char) : Option Nat :=
  if '0' ≤ c && c ≤ '9' then some (c.toNat - 48)
  else if 'a' ≤ c && c ≤ 'f' then some (c.toNat - 87)
  else if 'A' ≤ c && c ≤ 'F' then some (c.toNat - 55)
  else none

/-- The value of four digits in base sixteen. -/
def hexNumber? (digits : List Char) : Option Nat :=
  digits.foldl (fun n c => do return (← n) * 16 + (← hexValue? c)) (some 0)

/-- Whether a code unit is the first half of a pair. -/
def isHighHalf (n : Nat) : Bool := 0xd800 ≤ n && n ≤ 0xdbff

/-- Whether a code unit is the second half of a pair. -/
def isLowHalf (n : Nat) : Bool := 0xdc00 ≤ n && n ≤ 0xdfff

/-- What follows a code unit given by four digits. A second half completes the pair of a first
half before it; a half without the other spoils the text. -/
def afterUnit (t : PartialText) (high : Option Nat) (n : Nat) : Lexing :=
  match high with
  | some h =>
    if isLowHalf n then
      .text (t.push (Char.ofNat (0x10000 + (h - 0xd800) * 0x400 + (n - 0xdc00))))
    else .text t.spoil
  | none =>
    if isHighHalf n then .lowEscape t n
    else if isLowHalf n then .text t.spoil
    else .text (t.push (Char.ofNat n))

/-- A character inside a quoted text. -/
def stepText (t : PartialText) (c : Char) : List Token × Lexing :=
  if c == '"' then ([t.close], .between)
  else if c == '\\' then ([], .escape t)
  else if c.toNat < 32 then ([t.cut .malformed], .stopped)
  else ([], .text (t.push c))

/-- One character of the text: the tokens it completes and what is being read after it. -/
def step : Lexing → Char → List Token × Lexing
  | .between, c => begin c
  | .word rest token, c =>
    match rest with
    | [] => ([], .stopped)
    | [last] => if c == last then ([token], .between) else ([.fault .malformed], .stopped)
    | next :: more =>
      if c == next then ([], .word more token) else ([.fault .malformed], .stopped)
  | .number chars, c =>
    if isNumberChar c then ([], .number (c :: chars))
    else match numberToken chars with
      | .fault _ => ([.fault .malformed], .stopped)
      | token =>
        let (tokens, next) := begin c
        (token :: tokens, next)
  | .text t, c => stepText t c
  | .escape t, c =>
    if c == 'u' then ([], .hex t none [])
    else match escaped? c with
      | some e => ([], .text (t.push e))
      | none => ([t.cut .malformed], .stopped)
  | .lowEscape t high, c =>
    if c == '\\' then ([], .lowMark t high) else stepText t.spoil c
  | .lowMark t high, c =>
    if c == 'u' then ([], .hex t (some high) [])
    else match escaped? c with
      | some e => ([], .text (t.spoil.push e))
      | none => ([t.spoil.cut .malformed], .stopped)
  | .hex t high digits, c =>
    let digits := digits ++ [c]
    if String.utf8ByteSize (String.ofList digits) < 4 then ([], .hex t high digits)
    else match hexNumber? digits with
      | some n => ([], afterUnit t high n)
      | none => ([t.cut .malformed], .stopped)
  | .stopped, _ => ([], .stopped)

/-- What the end of the text completes. -/
def finish : Lexing → List Token
  | .between => []
  | .word _ _ => [.fault .truncated]
  | .number chars => [numberToken chars]
  | .text t => [t.cut .truncated]
  | .escape t => [t.cut .truncated]
  | .lowEscape t _ => [t.cut .truncated]
  | .lowMark t _ => [t.cut .truncated]
  | .hex t _ _ => [t.cut .truncated]
  | .stopped => []

/-- The tokens of the rest of a text. -/
def tokensFrom : Lexing → List Char → List Token
  | state, [] => finish state
  | state, c :: rest =>
    let (tokens, next) := step state c
    tokens ++ tokensFrom next rest

/-- The tokens of a text. -/
def tokens (text : String) : List Token := tokensFrom .between text.toList

end EntityPipeline.Json
