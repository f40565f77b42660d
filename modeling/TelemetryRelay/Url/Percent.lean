import TelemetryRelay.Text.Hex
import TelemetryRelay.Text.Utf8

/-!
Percent-encoding. Each part of a URL has its own set of characters that stand for themselves; every
other character is written as the bytes of its UTF-8 form, `%` and two digits for each.
-/

namespace TelemetryRelay.Url.Percent

def byte (byte : UInt8) : List Char :=
  ['%', Text.Hex.upper (byte.toNat / 16), Text.Hex.upper (byte.toNat % 16)]

def encode (keeps : Char → Bool) (text : List Char) : List Char :=
  text.flatMap fun char =>
    if keeps char then [char] else (String.utf8EncodeChar char).flatMap byte

/-- The bytes a written text stands for. A `%` without two digits after it stands for itself. -/
def decode : List Char → List UInt8
  | [] => []
  | '%' :: high :: low :: rest =>
    match Text.Hex.value? high, Text.Hex.value? low with
    | some high, some low => UInt8.ofNat (high * 16 + low) :: decode rest
    | _, _ => 0x25 :: decode (high :: low :: rest)
  | char :: rest => String.utf8EncodeChar char ++ decode rest

def isPrintable (char : Char) : Bool :=
  0x20 ≤ char.toNat && char.toNat ≤ 0x7E

def keepsFragment (char : Char) : Bool :=
  isPrintable char && !(" \"<>`".toList.contains char)

def keepsQuery (char : Char) : Bool :=
  isPrintable char && !(" \"#<>'".toList.contains char)

def keepsPath (char : Char) : Bool :=
  keepsFragment char && !("#?\x7b\x7d".toList.contains char)

def keepsUserInfo (char : Char) : Bool :=
  keepsPath char && !("/:;=@[\\]^|".toList.contains char)

end TelemetryRelay.Url.Percent
