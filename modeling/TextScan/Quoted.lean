import TextScan.Character.Unprintable
import TextScan.Text

/-!
# Quoted text

Messages show text between double quotes.  Quotes and backslashes get a backslash in front, a few
control characters have a letter, and whatever would not show on its own is spelled by its code
point in hexadecimal.
-/

namespace TextScan.Text

/-- A character as it stands in quoted text. -/
def quotedChar (c : Char) : Text :=
  match c with
  | '"' => ['\\', '"']
  | '\\' => ['\\', '\\']
  | '\n' => ['\\', 'n']
  | '\r' => ['\\', 'r']
  | '\t' => ['\\', 't']
  | '\x00' => ['\\', '0']
  | c =>
    if unprintableTable.contains c then
      ['\\', 'u', '\x7b'] ++ Nat.toDigits 16 c.toNat ++ ['\x7d']
    else [c]

def quoted (text : Text) : Text :=
  '"' :: text.flatMap quotedChar ++ ['"']

end TextScan.Text
