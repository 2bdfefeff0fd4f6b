import Linewise.Unicode.Derived

namespace Linewise

/-- The code points that are written in hexadecimal: those that cannot be seen alone. The blank is
seen, and so are the two halfwidth sound marks of Katakana. -/
def invisible : CharSet :=
  (Category.anyOf [Category.other, Category.separator, graphemeExtend, defaultIgnorable]).difference
    (.ofTable ["20 ff9e-ff9f"])

def quotedChar (c : Char) : List Char :=
  match c with
  | '\x00' => ['\\', '0']
  | '\t' => ['\\', 't']
  | '\n' => ['\\', 'n']
  | '\r' => ['\\', 'r']
  | '"' => ['\\', '"']
  | '\\' => ['\\', '\\']
  | c =>
    if invisible.contains c then
      '\\' :: 'u' :: '\x7b' :: Nat.toDigits 16 c.toNat ++ ['\x7d']
    else [c]

def quoted (text : String) : String :=
  String.ofList ('"' :: text.toList.flatMap quotedChar ++ ['"'])

end Linewise
