/-!
# Encodings of text

Decoding of bytes in UTF-8, UTF-16 and UTF-32. Decoding stops at the first fault and names the
bytes at fault by their positions.

A surrogate that is not paired is decoded as the replacement character, because a text cannot hold
it. What would become of the surrogate later on is lost with that: it can be told apart from others,
and it cannot be encoded again. Statements that depend on it exclude texts with the replacement
character (`Document.Source.Plain`).
-/

namespace Scaffold.Text

/-- A sequence of bytes. -/
abbrev Bytes := List UInt8

/-- Why bytes cannot be decoded. -/
inductive DecodeFault where
  /-- No character starts with this byte. -/
  | start
  /-- A byte that should continue a character does not. -/
  | continuation
  /-- The last character is not complete. -/
  | unfinished
  /-- The last unit of two or four bytes is not complete. -/
  | truncated
  /-- The unit is no code point. -/
  | range
  deriving DecidableEq

/-- The wording of a fault. -/
def DecodeFault.message : DecodeFault → String
  | .start => "invalid start byte"
  | .continuation => "invalid continuation byte"
  | .unfinished => "unexpected end of data"
  | .truncated => "truncated data"
  | .range => "code point not in range(0x110000)"

/-- A failed decoding: the bytes at fault from `first` to `last`, and the value of the first. -/
structure Undecodable where
  /-- The name of the encoding. -/
  codec : String
  /-- The value of the first byte at fault. -/
  byte : UInt8
  /-- The position of the first byte at fault. -/
  first : Nat
  /-- The position of the last byte at fault. -/
  last : Nat
  /-- What is wrong with them. -/
  fault : DecodeFault
  deriving DecidableEq

/-- Two hexadecimal digits of a byte. -/
def hexByte (b : UInt8) : String :=
  String.ofList [Nat.digitChar (b.toNat / 16), Nat.digitChar (b.toNat % 16)]

/-- The wording of a failed decoding. -/
def Undecodable.message (e : Undecodable) : String :=
  let place :=
    if e.first = e.last then "byte 0x" ++ hexByte e.byte ++ s!" in position {e.first}"
    else s!"bytes in position {e.first}-{e.last}"
  s!"'{e.codec}' codec can't decode {place}: {e.fault.message}"

/-! ## UTF-8 -/

/-- Whether a byte continues a character. -/
def isContinuation (b : UInt8) : Bool := 0x80 ≤ b && b < 0xc0

/-- Whether a byte can stand after a given first byte: overlong forms and code points beyond
the last one are excluded here. -/
def isSecond (lead b : UInt8) : Bool :=
  isContinuation b && (lead ≠ 0xe0 || 0xa0 ≤ b) && (lead ≠ 0xed || b < 0xa0) &&
    (lead ≠ 0xf0 || 0x90 ≤ b) && (lead ≠ 0xf4 || b < 0x90)

/-- The low six bits of a byte. -/
def lowBits (b : UInt8) : Nat := b.toNat % 64

/-- Decodes UTF-8 from the position `pos` on. -/
def decodeUtf8 (pos : Nat) : Bytes → Except Undecodable (List Char)
  | [] => .ok []
  | a :: rest =>
    let fail (count : Nat) (fault : DecodeFault) : Except Undecodable (List Char) :=
      .error ⟨"utf-8", a, pos, pos + count - 1, fault⟩
    if a < 0x80 then return Char.ofNat a.toNat :: (← decodeUtf8 (pos + 1) rest)
    else if a < 0xc2 || 0xf5 ≤ a then fail 1 .start
    else match rest with
      | [] => fail 1 .unfinished
      | b :: rest =>
        if !isSecond a b then fail 1 .continuation
        else if a < 0xe0 then
          return Char.ofNat (a.toNat % 32 * 64 + lowBits b) :: (← decodeUtf8 (pos + 2) rest)
        else match rest with
          | [] => fail 2 .unfinished
          | c :: rest =>
            if !isContinuation c then fail 2 .continuation
            else if a < 0xf0 then
              return Char.ofNat ((a.toNat % 16 * 64 + lowBits b) * 64 + lowBits c) ::
                (← decodeUtf8 (pos + 3) rest)
            else match rest with
              | [] => fail 3 .unfinished
              | d :: rest =>
                if !isContinuation d then fail 3 .continuation
                else
                  return Char.ofNat
                      (((a.toNat % 8 * 64 + lowBits b) * 64 + lowBits c) * 64 + lowBits d) ::
                    (← decodeUtf8 (pos + 4) rest)

/-- The bytes with the replacement character for every surrogate that is written like a
character. Both take three bytes. -/
def replaceSurrogates : Bytes → Bytes
  | 0xed :: b :: c :: rest =>
    if 0xa0 ≤ b && isContinuation b && isContinuation c then
      0xef :: 0xbf :: 0xbd :: replaceSurrogates rest
    else 0xed :: replaceSurrogates (b :: c :: rest)
  | a :: rest => a :: replaceSurrogates rest
  | [] => []

/-! ## UTF-16 and UTF-32 -/

/-- Whether a unit of UTF-16 is the first of a pair. -/
def isHighSurrogate (u : Nat) : Bool := 0xd800 ≤ u && u < 0xdc00

/-- Whether a unit of UTF-16 is the second of a pair. -/
def isLowSurrogate (u : Nat) : Bool := 0xdc00 ≤ u && u < 0xe000

/-- The code point of a pair of surrogates. -/
def joinSurrogates (high low : Nat) : Nat := 0x10000 + (high - 0xd800) * 0x400 + (low - 0xdc00)

/-- The character that stands for what a text cannot hold. -/
def replacement : Char := '\ufffd'

/-- The character of a code point, or the replacement character for a surrogate. -/
def charOrReplacement (n : Nat) : Char :=
  if isHighSurrogate n || isLowSurrogate n then replacement else Char.ofNat n

/-- The characters of a list of units of UTF-16. -/
def ofUnits : List Nat → List Char
  | [] => []
  | [u] => [charOrReplacement u]
  | u :: v :: rest =>
    if isHighSurrogate u && isLowSurrogate v then Char.ofNat (joinSurrogates u v) :: ofUnits rest
    else charOrReplacement u :: ofUnits (v :: rest)

/-- The units of two bytes each, from the position `pos` on. -/
def units16 (bigEndian : Bool) (pos : Nat) : Bytes → Except Undecodable (List Nat)
  | [] => .ok []
  | [a] => .error ⟨if bigEndian then "utf-16-be" else "utf-16-le", a, pos, pos, .truncated⟩
  | a :: b :: rest => do
    let unit := if bigEndian then a.toNat * 256 + b.toNat else b.toNat * 256 + a.toNat
    return unit :: (← units16 bigEndian (pos + 2) rest)

/-- The characters of units of four bytes each, from the position `pos` on. -/
def decodeUtf32 (bigEndian : Bool) (pos : Nat) : Bytes → Except Undecodable (List Char)
  | [] => .ok []
  | a :: b :: c :: d :: rest => do
    let value (w x y z : UInt8) : Nat :=
      ((w.toNat * 256 + x.toNat) * 256 + y.toNat) * 256 + z.toNat
    let unit := if bigEndian then value a b c d else value d c b a
    if 0x110000 ≤ unit then
      throw ⟨if bigEndian then "utf-32-be" else "utf-32-le", a, pos, pos + 3, .range⟩
    else return charOrReplacement unit :: (← decodeUtf32 bigEndian (pos + 4) rest)
  | a :: rest =>
    .error ⟨if bigEndian then "utf-32-be" else "utf-32-le", a, pos, pos + rest.length, .truncated⟩

/-- The encodings of text. -/
inductive Encoding where
  /-- Units of one byte. -/
  | utf8
  /-- Units of two bytes. -/
  | utf16 (bigEndian : Bool)
  /-- Units of four bytes. -/
  | utf32 (bigEndian : Bool)

/-- Decodes bytes, the first of which stands at the position `pos`, where surrogates may stand for
themselves. -/
def Encoding.decode (pos : Nat) (bytes : Bytes) : Encoding → Except Undecodable (List Char)
  | .utf8 => decodeUtf8 pos (replaceSurrogates bytes)
  | .utf16 bigEndian => (units16 bigEndian pos bytes).map ofUnits
  | .utf32 bigEndian => decodeUtf32 bigEndian pos bytes

/-- The bytes of a text in UTF-8. -/
def utf8Bytes (s : String) : Bytes := s.toUTF8.toList

end Scaffold.Text
