import Muster.Text.Hidden

/-!
Texts in double quotes, as the journal shows lists of hosts: quotes, backslashes and the characters
that do not show as themselves are escaped.
-/

namespace Muster.Text

def codePoint (c : Char) : List Char :=
  ['\\', 'u', '\x7b'] ++ Nat.toDigits 16 c.toNat ++ ['\x7d']

def quoteChar (c : Char) : List Char :=
  match c with
  | '\x00' => ['\\', '0']
  | '\t' => ['\\', 't']
  | '\n' => ['\\', 'n']
  | '\r' => ['\\', 'r']
  | '\\' => ['\\', '\\']
  | '"' => ['\\', '"']
  | c => if isHidden c then codePoint c else [c]

def quote (text : String) : String :=
  String.ofList ('"' :: text.toList.flatMap quoteChar ++ ['"'])

def bracketed (items : List String) : String :=
  "[" ++ ", ".intercalate items ++ "]"

end Muster.Text
