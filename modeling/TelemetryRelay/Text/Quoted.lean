import TelemetryRelay.Text.Unprintable

/-!
Text between double quotes, as error messages show it: a quote, a backslash and the common control
characters are written by an escape, and every other unprintable character by its code.
-/

namespace TelemetryRelay.Text.Quoted

def character (char : Char) : List Char :=
  if char = '"' then ['\\', '"']
  else if char = '\\' then ['\\', '\\']
  else if char = '\n' then ['\\', 'n']
  else if char = '\r' then ['\\', 'r']
  else if char = '\t' then ['\\', 't']
  else if char.toNat = 0 then ['\\', '0']
  else if isUnprintable char then
    '\\' :: 'u' :: '\x7b' :: (Nat.toDigits 16 char.toNat ++ ['\x7d'])
  else [char]

def render (text : String) : String :=
  String.ofList ('"' :: (text.toList.flatMap character ++ ['"']))

end TelemetryRelay.Text.Quoted
