import TextArt.Failure
import TextArt.Json.Reader
import TextArt.Text.Utf

/-!
# JSON documents as text and as bytes

Bytes are UTF-8, UTF-16 or UTF-32: a byte order mark tells which, and without one the zero bytes
among the first four do, since a JSON text starts with an ASCII character.
-/

namespace TextArt.Json

open Text (Surrogates ByteOrder)

/-- The characters of a document given as bytes. A byte order mark is left out. -/
def decode (bytes : List UInt8) : Option (List CodePoint) :=
  let mode := Surrogates.kept
  match bytes with
  | 0 :: 0 :: 0xFE :: 0xFF :: rest => Text.decodeUtf32 mode .big rest
  | 0xFF :: 0xFE :: 0 :: 0 :: rest => Text.decodeUtf32 mode .little rest
  | 0xFE :: 0xFF :: rest => Text.decodeUtf16 mode .big rest
  | 0xFF :: 0xFE :: rest => Text.decodeUtf16 mode .little rest
  | 0xEF :: 0xBB :: 0xBF :: rest => Text.decodeUtf8 mode rest
  | a :: b :: c :: d :: _ =>
    if a = 0 then
      if b ≠ 0 then Text.decodeUtf16 mode .big bytes else Text.decodeUtf32 mode .big bytes
    else if b = 0 then
      if c ≠ 0 ∨ d ≠ 0 then Text.decodeUtf16 mode .little bytes
      else Text.decodeUtf32 mode .little bytes
    else Text.decodeUtf8 mode bytes
  | [a, b] =>
    if a = 0 then Text.decodeUtf16 mode .big bytes
    else if b = 0 then Text.decodeUtf16 mode .little bytes
    else Text.decodeUtf8 mode bytes
  | _ => Text.decodeUtf8 mode bytes

/-- A document as it is handed in. -/
inductive Source where
  /-- A value that has been read already. -/
  | value (v : Value)
  /-- JSON text, and the room for lists and objects inside each other. -/
  | text (room : Nat) (s : Text)
  /-- JSON text in some encoding, and the room. -/
  | bytes (room : Nat) (b : List UInt8)

/-- A document given as a value; a text is read as JSON. -/
def Source.ofValue (room : Nat) : Value → Source
  | .str s => .text room s
  | v => .value v

/-- The value of a document, or the fault in its text. The subject names the kind of document in
the message. -/
def Source.load (subject : Text) : Source → Outcome Value
  | .value v => .ok v
  | .text room s => settle s.toList (read room s)
  | .bytes room b =>
    match decode b with
    | none => .error .undecodable
    | some s => settle s (document room s)
where
  /-- A fault of the text in words. -/
  settle (text : List CodePoint) : Except Fault Value → Outcome Value
    | .ok v => .ok v
    | .error fault =>
      match fault.cause with
      | .tooManyDigits => .error .badValue
      | .tooDeep => .error .tooDeep
      | _ => .error (.malformedDocument subject (fault.message text))

end TextArt.Json
