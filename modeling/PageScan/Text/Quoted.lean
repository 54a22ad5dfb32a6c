import PageScan.Text.Printable
import PageScan.Text.Hex

/-!
# Quoted texts

The form in which messages show a text: in double quotes, with the quote, the backslash, the usual
control characters and everything that is not shown as itself escaped.
-/

namespace PageScan.Text

/-- A character as it stands inside double quotes. -/
def quotedChar (c : Char) : List Char :=
  match c with
  | '\x00' => ['\\', '0']
  | '\t' => ['\\', 't']
  | '\r' => ['\\', 'r']
  | '\n' => ['\\', 'n']
  | '"' => ['\\', '"']
  | '\\' => ['\\', '\\']
  | c => if isShown c then [c] else ['\\', 'u', '\x7b'] ++ hexNat c.toNat ++ ['\x7d']

/-- A text in double quotes. -/
def quoted (s : String) : String :=
  String.ofList ('"' :: s.toList.flatMap quotedChar ++ ['"'])

end PageScan.Text
