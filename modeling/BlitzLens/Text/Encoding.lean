import BlitzLens.Text.Basic

/-!
# Encodings of source files

Sources are UTF-8, with or without a byte order mark, or else text of the Windows codepage 1252.
UTF-8 is read strictly: no overlong forms, no surrogates, nothing beyond U+10FFFF.
-/

namespace BlitzLens

namespace Encoding

/-- The payload of a continuation byte. -/
def continuation? (b : UInt8) : Option Nat :=
  if 0x80 ≤ b.toNat && b.toNat < 0xc0 then some (b.toNat - 0x80) else none

/-- The scalar value `n`, if it is at least `least` and no surrogate. -/
def scalar? (least n : Nat) : Option Char :=
  if least ≤ n && n < 0x110000 && !(0xd800 ≤ n && n < 0xe000) then some (Char.ofNat n) else none

/-- The text that bytes spell in UTF-8. -/
def decodeUtf8? : List UInt8 → Option Text
  | [] => some []
  | b :: rest =>
    let lead := b.toNat
    if lead < 0x80 then (decodeUtf8? rest).map (Char.ofNat lead :: ·)
    else if 0xc0 ≤ lead && lead < 0xe0 then
      match rest with
      | b1 :: rest => do
        let n1 ← continuation? b1
        let c ← scalar? 0x80 ((lead - 0xc0) * 64 + n1)
        return c :: (← decodeUtf8? rest)
      | _ => none
    else if 0xe0 ≤ lead && lead < 0xf0 then
      match rest with
      | b1 :: b2 :: rest => do
        let n1 ← continuation? b1
        let n2 ← continuation? b2
        let c ← scalar? 0x800 (((lead - 0xe0) * 64 + n1) * 64 + n2)
        return c :: (← decodeUtf8? rest)
      | _ => none
    else if 0xf0 ≤ lead && lead < 0xf8 then
      match rest with
      | b1 :: b2 :: b3 :: rest => do
        let n1 ← continuation? b1
        let n2 ← continuation? b2
        let n3 ← continuation? b3
        let c ← scalar? 0x10000 ((((lead - 0xf0) * 64 + n1) * 64 + n2) * 64 + n3)
        return c :: (← decodeUtf8? rest)
      | _ => none
    else none

/-- The bytes of one character in UTF-8. -/
def encodeChar (c : Char) : List UInt8 :=
  let n := c.toNat
  let tail (k : Nat) : UInt8 := (0x80 + n / Nat.pow 64 k % 64).toUInt8
  if n < 0x80 then [n.toUInt8]
  else if n < 0x800 then [(0xc0 + n / 64).toUInt8, tail 0]
  else if n < 0x10000 then [(0xe0 + n / 4096).toUInt8, tail 1, tail 0]
  else [(0xf0 + n / 262144).toUInt8, tail 2, tail 1, tail 0]

/-- The bytes of a text in UTF-8. -/
def encodeUtf8 (text : Text) : List UInt8 :=
  text.flatMap encodeChar

/-- The characters of codepage 1252 for the bytes from 0x80 to 0x9f; bytes without a character read
as the replacement character. -/
def windowsControls : List Char :=
  ['€', '\ufffd', '‚', 'ƒ', '„', '…', '†', '‡', 'ˆ', '‰', 'Š', '‹', 'Œ', '\ufffd', 'Ž', '\ufffd',
    '\ufffd', '‘', '’', '“', '”', '•', '–', '—', '˜', '™', 'š', '›', 'œ', '\ufffd', 'ž', 'Ÿ']

/-- The character of a byte in codepage 1252. -/
def windowsChar (b : UInt8) : Char :=
  let n := b.toNat
  if 0x80 ≤ n && n < 0xa0 then windowsControls.getD (n - 0x80) '\ufffd' else Char.ofNat n

/-- The text that bytes spell in codepage 1252. -/
def decodeWindows (bytes : List UInt8) : Text :=
  bytes.map windowsChar

/-- The bytes without a leading byte order mark. -/
def dropMark : List UInt8 → List UInt8
  | 0xef :: 0xbb :: 0xbf :: rest => rest
  | bytes => bytes

/-- The text of a source file. -/
def decodeSource (bytes : List UInt8) : Text :=
  match decodeUtf8? (dropMark bytes) with
  | some text => text
  | none => decodeWindows bytes

end Encoding

end BlitzLens
