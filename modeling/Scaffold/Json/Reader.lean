import Scaffold.Json.Value
import Scaffold.Text.Encoding
import Scaffold.Text.Numeral

/-!
# Reading JSON

`Value.read` reads a document from text and `Value.readBytes` from bytes, whose encoding is told
from a byte order mark or from the zeros among the first four bytes. The reader accepts the
standard grammar and the words `NaN`, `Infinity` and `-Infinity`. It stops at the first fault and
names its place. Of several fields with one key the last value counts, at the place of the first.

The reader gives up at integers with more than `maxDigits` digits and at containers that are nested
too deeply. An escape for a surrogate that is not paired is no fault; a text cannot hold it, and has
the replacement character instead (`charOrReplacement`).
-/

namespace Scaffold.Json

open Scaffold.Decimal Scaffold.Text

/-! ## Faults -/

/-- What is wrong with a document. -/
inductive Fault where
  /-- No value stands where one should. -/
  | value
  /-- No quoted key stands where one should. -/
  | key
  /-- No colon follows a key. -/
  | colon
  /-- Neither a comma nor a closing bracket follows an item. -/
  | comma
  /-- Something follows the document. -/
  | extra
  /-- A text has no closing quote. -/
  | unterminated
  /-- A text holds a control character. -/
  | control
  /-- A backslash stands before a character that it cannot escape. -/
  | escape
  /-- An escape of a code point has too few hexadecimal digits. -/
  | codePoint
  /-- The text starts with a byte order mark. -/
  | mark
  deriving DecidableEq

/-- The wording of a fault. -/
def Fault.message : Fault → String
  | .value => "Expecting value"
  | .key => "Expecting property name enclosed in double quotes"
  | .colon => "Expecting ':' delimiter"
  | .comma => "Expecting ',' delimiter"
  | .extra => "Extra data"
  | .unterminated => "Unterminated string starting at"
  | .control => "Invalid control character at"
  | .escape => "Invalid \\escape"
  | .codePoint => "Invalid \\uXXXX escape"
  | .mark => "Unexpected UTF-8 BOM (decode using utf-8-sig)"

/-- A place in a text: the number of characters before it. -/
structure Place where
  /-- The characters before the place. -/
  before : List Char
  deriving DecidableEq

/-- The number of a place's line, from one. -/
def Place.line (p : Place) : Nat := p.before.count '\n' + 1

/-- The number of a place's column, from one. -/
def Place.column (p : Place) : Nat := (p.before.reverse.takeWhile (· ≠ '\n')).length + 1

/-- Why a document cannot be read. -/
inductive ReadError where
  /-- The text is not a document. -/
  | malformed (fault : Fault) (place : Place)
  /-- The bytes are not a text. -/
  | undecodable (e : Undecodable)
  /-- An integer has more digits than are read. -/
  | hugeInteger (digits : Nat)
  /-- The containers are nested too deeply; the one of the given name is one too many. -/
  | tooDeep (container : String)
  deriving DecidableEq

/-- The wording of a reading error. -/
def ReadError.message : ReadError → String
  | .malformed fault place =>
    s!"{fault.message}: line {place.line} column {place.column} (char {place.before.length})"
  | .undecodable e => e.message
  | .hugeInteger digits =>
    s!"Exceeds the limit ({maxDigits} digits) for integer string conversion: value has " ++
      s!"{digits} digits; use sys.set_int_max_str_digits() to increase the limit"
  | .tooDeep container =>
    s!"maximum recursion depth exceeded while decoding a JSON {container} from a unicode string"

/-- Whether the error is one of the document's form, and not of the reader's reach. -/
def ReadError.isOfForm : ReadError → Bool
  | .malformed _ _ => true
  | .undecodable _ => true
  | .hugeInteger _ => false
  | .tooDeep _ => false

/-- Why a reader stops: a fault in front of the given rest of the text, or something that is beyond
its reach. -/
inductive Stop where
  /-- The fault is in front of `rest`. -/
  | fault (fault : Fault) (rest : List Char)
  /-- An integer has more digits than are read. -/
  | hugeInteger (digits : Nat)
  /-- The containers are nested too deeply. -/
  | tooDeep (container : String)

/-- Readers take the text that is left and return what they read and what is then left. -/
abbrev Reader (α : Type) := List Char → Except Stop (α × List Char)

/-! ## Texts and numbers -/

/-- Whether a character can stand between the parts of a document. -/
def isSpace (c : Char) : Bool := c = ' ' || c = '\t' || c = '\n' || c = '\r'

/-- The text from its first part on. -/
def skipSpace (s : List Char) : List Char := s.dropWhile isSpace

/-- The value of a hexadecimal digit. -/
def hexValue? (c : Char) : Option Nat :=
  if '0' ≤ c ∧ c ≤ '9' then some (c.toNat - 0x30)
  else if 'a' ≤ c ∧ c ≤ 'f' then some (c.toNat - 0x57)
  else if 'A' ≤ c ∧ c ≤ 'F' then some (c.toNat - 0x37)
  else none

/-- The unit that four hexadecimal digits stand for. -/
def hexUnit? (a b c d : Char) : Option Nat := do
  return ofDigits 16 [← hexValue? a, ← hexValue? b, ← hexValue? c, ← hexValue? d]

/-- The character that a short escape stands for. -/
def shortEscape? : Char → Option Char
  | '"' => some '"'
  | '\\' => some '\\'
  | '/' => some '/'
  | 'b' => some '\x08'
  | 'f' => some '\x0c'
  | 'n' => some '\n'
  | 'r' => some '\r'
  | 't' => some '\t'
  | _ => none

/-- A part of a text: a character that stands for itself, or the unit of an escape. -/
inductive Part where
  /-- A character. -/
  | char (c : Char)
  /-- A unit of UTF-16, written as four hexadecimal digits. -/
  | unit (n : Nat)

/-- The characters of the parts of a text; two units that form a pair are one character. -/
def ofParts : List Part → List Char
  | [] => []
  | .char c :: rest => c :: ofParts rest
  | .unit n :: .unit m :: rest =>
    if isHighSurrogate n && isLowSurrogate m then
      Char.ofNat (joinSurrogates n m) :: ofParts rest
    else charOrReplacement n :: ofParts (.unit m :: rest)
  | .unit n :: rest => charOrReplacement n :: ofParts rest

/-- Puts a part in front of what was read. -/
def prepend (p : Part) (r : List Part × List Char) : List Part × List Char := (p :: r.1, r.2)

/-- Reads the parts of a text up to its closing quote; `opening` is the text from the opening
quote on. -/
def readParts (opening : List Char) : Reader (List Part)
  | [] => .error (.fault .unterminated opening)
  | '"' :: rest => .ok ([], rest)
  | ['\\'] => .error (.fault .unterminated opening)
  | '\\' :: 'u' :: a :: b :: c :: d :: rest =>
    match hexUnit? a b c d with
    | none => .error (.fault .codePoint ('u' :: a :: b :: c :: d :: rest))
    | some n =>
      if rest.isEmpty then .error (.fault .codePoint ('u' :: a :: b :: c :: d :: rest))
      else (readParts opening rest).map (prepend (.unit n))
  | '\\' :: 'u' :: rest => .error (.fault .codePoint ('u' :: rest))
  | '\\' :: c :: rest =>
    match shortEscape? c with
    | none => .error (.fault .escape ('\\' :: c :: rest))
    | some x => (readParts opening rest).map (prepend (.char x))
  | c :: rest =>
    if c.toNat < 0x20 then .error (.fault .control (c :: rest))
    else (readParts opening rest).map (prepend (.char c))

/-- Reads a text from its opening quote on. -/
def readText : Reader String
  | [] => .error (.fault .value [])
  | quote :: rest =>
    (readParts (quote :: rest) rest).map fun r => (String.ofList (ofParts r.1), r.2)

/-- Whether a character is an ASCII digit. -/
def isAsciiDigit (c : Char) : Bool := '0' ≤ c && c ≤ '9'

/-- The value of a list of ASCII digits. -/
def asciiNumber (digits : List Char) : Nat := ofDigits 10 (digits.map fun c => c.toNat - 0x30)

/-- The digits after a point, if there are any, and what follows them. -/
def readFraction : List Char → List Char × List Char
  | '.' :: rest =>
    match rest.takeWhile isAsciiDigit with
    | [] => ([], '.' :: rest)
    | digits => (digits, rest.dropWhile isAsciiDigit)
  | s => ([], s)

/-- The exponent, if there is one, and what follows it. -/
def readExponent (s : List Char) : Option Int × List Char :=
  match s with
  | e :: rest =>
    if e = 'e' ∨ e = 'E' then
      let (negative, digits) :=
        match rest with
        | '-' :: r => (true, r)
        | '+' :: r => (false, r)
        | r => (false, r)
      match digits.takeWhile isAsciiDigit with
      | [] => (none, s)
      | ds =>
        let n : Int := asciiNumber ds
        (some (if negative then -n else n), digits.dropWhile isAsciiDigit)
    else (none, s)
  | [] => (none, s)

/-- The digits in front of the point: a zero, or digits that start with none. -/
def readWhole : List Char → List Char × List Char
  | '0' :: rest => (['0'], rest)
  | s => (s.takeWhile isAsciiDigit, s.dropWhile isAsciiDigit)

/-- Reads a number. -/
def readNumber : Reader Value := fun s =>
  let (negative, body) :=
    match s with
    | '-' :: rest => (true, rest)
    | rest => (false, rest)
  let (whole, rest) := readWhole body
  if whole.isEmpty then .error (.fault .value s)
  else
    let (fraction, rest) := readFraction rest
    let (exponent, rest) := readExponent rest
    match fraction, exponent with
    | [], none =>
      if maxDigits < whole.length then .error (.hugeInteger whole.length)
      else
        let n : Int := asciiNumber whole
        .ok (.int (if negative then -n else n), rest)
    | _, _ =>
      let x := Binary64.ofDecimal negative (asciiNumber (whole ++ fraction))
        (exponent.getD 0 - fraction.length)
      .ok (.float x, rest)

/-- Reads a word or a number. -/
def readScalar : Reader Value
  | 'n' :: 'u' :: 'l' :: 'l' :: rest => .ok (.null, rest)
  | 't' :: 'r' :: 'u' :: 'e' :: rest => .ok (.bool true, rest)
  | 'f' :: 'a' :: 'l' :: 's' :: 'e' :: rest => .ok (.bool false, rest)
  | 'N' :: 'a' :: 'N' :: rest => .ok (.float Binary64.nan, rest)
  | 'I' :: 'n' :: 'f' :: 'i' :: 'n' :: 'i' :: 't' :: 'y' :: rest =>
    .ok (.float (Binary64.infinity false), rest)
  | '-' :: 'I' :: 'n' :: 'f' :: 'i' :: 'n' :: 'i' :: 't' :: 'y' :: rest =>
    .ok (.float (Binary64.infinity true), rest)
  | s => readNumber s

/-! ## Documents -/

/-- The opening bracket of an object. -/
def openBrace : Char := '\x7b'

/-- The closing bracket of an object. -/
def closeBrace : Char := '\x7d'

/-- The number of containers that may be nested. -/
def maxDepth : Nat := 990

mutual

/-- Reads a value in which so many containers may be nested. Every call that is made for a value,
an item or a field takes one unit of fuel, and each of them reads a character, so twice the length
of the text suffices. -/
def readValue : Nat → Nat → Reader Value
  | 0, _, s => .error (.fault .value s)
  | fuel + 1, depth, s =>
    match s with
    | '"' :: _ => (readText s).map fun r => (.str r.1, r.2)
    | '[' :: rest =>
      if depth = 0 then .error (.tooDeep "array")
      else
        match skipSpace rest with
        | ']' :: rest => .ok (.arr [], rest)
        | rest => (readItems fuel (depth - 1) rest).map fun r => (.arr r.1, r.2)
    | c :: rest =>
      if c = openBrace then
        if depth = 0 then .error (.tooDeep "object")
        else
          match skipSpace rest with
          | [] => .error (.fault .key [])
          | d :: more =>
            if d = closeBrace then .ok (.obj [], more)
            else (readFields fuel (depth - 1) [] (d :: more)).map fun r => (.obj r.1, r.2)
      else readScalar s
    | [] => .error (.fault .value [])

/-- Reads the items of an array, from the first character of an item on. -/
def readItems : Nat → Nat → Reader (List Value)
  | 0, _, s => .error (.fault .value s)
  | fuel + 1, depth, s => do
    let (item, rest) ← readValue fuel depth s
    match skipSpace rest with
    | ']' :: rest => return ([item], rest)
    | ',' :: rest =>
      let (items, rest) ← readItems fuel depth (skipSpace rest)
      return (item :: items, rest)
    | rest => throw (.fault .comma rest)

/-- Reads the fields of an object, after the fields read so far. -/
def readFields : Nat → Nat → Fields → Reader Fields
  | 0, _, _, s => .error (.fault .key s)
  | fuel + 1, depth, fields, s =>
    match s with
    | '"' :: _ => do
      let (key, rest) ← readText s
      match skipSpace rest with
      | ':' :: rest =>
        let (value, rest) ← readValue fuel depth (skipSpace rest)
        let fields := Fields.put key value fields
        match skipSpace rest with
        | ',' :: rest => readFields fuel depth fields (skipSpace rest)
        | c :: rest =>
          if c = closeBrace then return (fields, rest) else throw (.fault .comma (c :: rest))
        | [] => throw (.fault .comma [])
      | rest => throw (.fault .colon rest)
    | _ => .error (.fault .key s)

end

/-- Reads a whole document. -/
def readDocument (s : List Char) : Except Stop Value := do
  let (value, rest) ← readValue (2 * s.length + 2) maxDepth (skipSpace s)
  match skipSpace rest with
  | [] => return value
  | rest => throw (.fault .extra rest)

/-- Reads a document from its characters. -/
def Value.readChars (s : List Char) : Except ReadError Value :=
  match readDocument s with
  | .ok value => .ok value
  | .error (.fault fault rest) => .error (.malformed fault ⟨s.take (s.length - rest.length)⟩)
  | .error (.hugeInteger digits) => .error (.hugeInteger digits)
  | .error (.tooDeep container) => .error (.tooDeep container)

/-- Reads a document from text, which must not start with a byte order mark. -/
def Value.read (s : String) : Except ReadError Value :=
  if s.toList.head? = some '\ufeff' then .error (.malformed .mark ⟨[]⟩)
  else Value.readChars s.toList

/-- The encoding of a document, the number of bytes of its byte order mark, and the position that
the first byte after the mark has in error messages. -/
def detectEncoding : Bytes → Encoding × Nat × Nat
  | 0x00 :: 0x00 :: 0xfe :: 0xff :: _ => (.utf32 true, 4, 4)
  | 0xff :: 0xfe :: 0x00 :: 0x00 :: _ => (.utf32 false, 4, 4)
  | 0xfe :: 0xff :: _ => (.utf16 true, 2, 2)
  | 0xff :: 0xfe :: _ => (.utf16 false, 2, 2)
  | 0xef :: 0xbb :: 0xbf :: _ => (.utf8, 3, 0)
  | a :: b :: c :: d :: _ =>
    if a = 0 then (if b ≠ 0 then .utf16 true else .utf32 true, 0, 0)
    else if b = 0 then (if c ≠ 0 ∨ d ≠ 0 then .utf16 false else .utf32 false, 0, 0)
    else (.utf8, 0, 0)
  | [a, b] => (if a = 0 then .utf16 true else if b = 0 then .utf16 false else .utf8, 0, 0)
  | _ => (.utf8, 0, 0)

/-- Reads a document from bytes. -/
def Value.readBytes (bytes : Bytes) : Except ReadError Value :=
  let (encoding, mark, pos) := detectEncoding bytes
  match encoding.decode pos (bytes.drop mark) with
  | .ok s => Value.readChars s
  | .error e => .error (.undecodable e)

end Scaffold.Json
