import TextArt.Text.Basic

/-!
# Encodings of Unicode text

Decoders of UTF-8, UTF-16 and UTF-32. Each refuses bytes that are no text. A reader may ask to let
the halves of surrogate pairs pass, as formats with their own escapes for them do.
-/

namespace TextArt.Text

/-- The order of the bytes of a code unit. -/
inductive ByteOrder where
  /-- The high byte comes first. -/
  | big
  /-- The low byte comes first. -/
  | little
  deriving DecidableEq, Repr

/-- Whether halves of surrogate pairs are refused or kept. -/
inductive Surrogates where
  /-- They are no text. -/
  | refused
  /-- They are code points as others are. -/
  | kept
  deriving DecidableEq, Repr

/-- Whether a number is half of a surrogate pair. -/
def isSurrogate (n : Nat) : Bool := decide (0xD800 ≤ n ∧ n < 0xE000)

/-- The code point of a number that has been read. -/
def scalar? (mode : Surrogates) (n : Nat) : Option CodePoint :=
  if mode = .refused ∧ isSurrogate n then none
  else if n < 0x110000 then some (CodePoint.ofNat n)
  else none

/-- The payload of a byte that continues a sequence. -/
def continuation? (b : UInt8) : Option Nat :=
  if 0x80 ≤ b ∧ b < 0xC0 then some (b.toNat - 0x80) else none

/-- The first character of UTF-8 bytes and the bytes after it. No code point has two spellings. -/
def utf8Step (mode : Surrogates) : List UInt8 → Option (CodePoint × List UInt8)
  | [] => none
  | a :: rest =>
    if a < 0x80 then some (CodePoint.ofNat a.toNat, rest)
    else if a < 0xC2 then none
    else if a < 0xE0 then
      match rest with
      | b :: rest => do
        let b ← continuation? b
        let c ← scalar? mode ((a.toNat - 0xC0) * 0x40 + b)
        some (c, rest)
      | _ => none
    else if a < 0xF0 then
      match rest with
      | b :: c :: rest => do
        let b ← continuation? b
        let c ← continuation? c
        let n := (a.toNat - 0xE0) * 0x1000 + b * 0x40 + c
        if n < 0x800 then none
        else do
          let c ← scalar? mode n
          some (c, rest)
      | _ => none
    else if a < 0xF5 then
      match rest with
      | b :: c :: d :: rest => do
        let b ← continuation? b
        let c ← continuation? c
        let d ← continuation? d
        let n := (a.toNat - 0xF0) * 0x40000 + b * 0x1000 + c * 0x40 + d
        if n < 0x10000 then none
        else do
          let c ← scalar? mode n
          some (c, rest)
      | _ => none
    else none

/-- The first character of UTF-16 bytes and the bytes after it. -/
def utf16Step (mode : Surrogates) (order : ByteOrder) : List UInt8 → Option (CodePoint × List UInt8)
  | a :: b :: rest =>
    let unit (a b : UInt8) : Nat :=
      match order with
      | .big => a.toNat * 0x100 + b.toNat
      | .little => b.toNat * 0x100 + a.toNat
    let high := unit a b
    let alone := (scalar? mode high).map fun c ↦ (c, rest)
    if 0xD800 ≤ high ∧ high < 0xDC00 then
      match rest with
      | c :: d :: after =>
        let low := unit c d
        if 0xDC00 ≤ low ∧ low < 0xE000 then
          some (CodePoint.ofNat (0x10000 + (high - 0xD800) * 0x400 + (low - 0xDC00)), after)
        else alone
      | _ => alone
    else alone
  | _ => none

/-- The first character of UTF-32 bytes and the bytes after it. -/
def utf32Step (mode : Surrogates) (order : ByteOrder) : List UInt8 → Option (CodePoint × List UInt8)
  | a :: b :: c :: d :: rest =>
    let n := match order with
      | .big => ((a.toNat * 0x100 + b.toNat) * 0x100 + c.toNat) * 0x100 + d.toNat
      | .little => ((d.toNat * 0x100 + c.toNat) * 0x100 + b.toNat) * 0x100 + a.toNat
    (scalar? mode n).map fun c ↦ (c, rest)
  | _ => none

/-- Decodes all bytes, one step per character; the number of bytes is fuel enough. -/
def decodeWith (step : List UInt8 → Option (CodePoint × List UInt8)) :
    Nat → List UInt8 → Option (List CodePoint)
  | _, [] => some []
  | 0, _ :: _ => none
  | fuel + 1, bytes@(_ :: _) => do
    let (c, rest) ← step bytes
    let more ← decodeWith step fuel rest
    some (c :: more)

/-- The text of bytes in UTF-8. -/
def decodeUtf8 (mode : Surrogates) (bytes : List UInt8) : Option (List CodePoint) :=
  decodeWith (utf8Step mode) bytes.length bytes

/-- The text of bytes in UTF-16. -/
def decodeUtf16 (mode : Surrogates) (order : ByteOrder) (bytes : List UInt8) :
    Option (List CodePoint) :=
  decodeWith (utf16Step mode order) bytes.length bytes

/-- The text of bytes in UTF-32. -/
def decodeUtf32 (mode : Surrogates) (order : ByteOrder) (bytes : List UInt8) :
    Option (List CodePoint) :=
  decodeWith (utf32Step mode order) bytes.length bytes

/-- A code point in UTF-8. Half of a surrogate pair is written like any other number of its size. -/
def encodeChar (c : CodePoint) : List UInt8 :=
  let n := c.toNat
  let tail (n : Nat) : UInt8 := UInt8.ofNat (0x80 + n % 0x40)
  if n < 0x80 then [UInt8.ofNat n]
  else if n < 0x800 then [UInt8.ofNat (0xC0 + n / 0x40), tail n]
  else if n < 0x10000 then [UInt8.ofNat (0xE0 + n / 0x1000), tail (n / 0x40), tail n]
  else [UInt8.ofNat (0xF0 + n / 0x40000), tail (n / 0x1000), tail (n / 0x40), tail n]

/-- Text in UTF-8. -/
def encodeUtf8 (s : Text) : List UInt8 := s.toList.flatMap encodeChar

/-! ## Names of files -/

/-- The byte that half of a surrogate pair stands for in the name of a file. Such halves are what
the bytes of a name come to that are no text. -/
def escapedByte? : CodePoint → Option UInt8
  | .half n => if 0x480 ≤ n.val ∧ n.val < 0x500 then some (UInt8.ofNat (n.val - 0x400)) else none
  | .char _ => none

/-- Whether a text can be the name of a file. -/
def isFileName (s : Text) : Bool :=
  s.toList.all fun c ↦ c.char?.isSome || (escapedByte? c).isSome

/-- The bytes of the name of a file. -/
def encodeName (s : Text) : List UInt8 :=
  s.toList.flatMap fun c ↦ ((escapedByte? c).map fun b ↦ [b]).getD (encodeChar c)

end TextArt.Text
