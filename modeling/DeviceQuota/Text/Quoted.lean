import DeviceQuota.Text.Digits
import DeviceQuota.Text.Unprintable

/-!
# Quoted text

Messages and log fields show a text between double quotes. Inside, a quote and a backslash are
escaped, as are tab, carriage return, line feed and NUL by one letter, and every other unprintable
character by its code point. An apostrophe stands for itself.

* **`escape`** — the written form of one character;
* **`quoted`** — the written form of a text.
-/

namespace DeviceQuota.Text

/-- The written form of a character inside quotes. -/
def escape (c : Char) : List Char :=
  if c = '"' then ['\\', '"']
  else if c = '\\' then ['\\', '\\']
  else if c = '\t' then ['\\', 't']
  else if c = '\r' then ['\\', 'r']
  else if c = '\n' then ['\\', 'n']
  else if c = '\x00' then ['\\', '0']
  else if isUnprintable c then ['\\', 'u', '\x7b'] ++ hex c.toNat ++ ['\x7d']
  else [c]

/-- `s` between double quotes, with the characters that need it escaped. -/
def quoted (s : String) : String :=
  String.ofList ('"' :: s.toList.flatMap escape ++ ['"'])

end DeviceQuota.Text
