import ParishSite.Text.HiddenTable

/-! A text in quotation marks, as error messages show it. Characters that would not be seen, or that
would merge with their neighbours, are shown by their number. -/

namespace ParishSite.Text

private def isHidden (c : Char) : Bool :=
  hiddenRanges.any fun (first, last) => first ≤ c.toNat && c.toNat ≤ last

private def byNumber (c : Char) : List Char :=
  ['\\', 'u', '\x7b'] ++ Nat.toDigits 16 c.toNat ++ ['\x7d']

def quotedChar (c : Char) : List Char :=
  match c with
  | '"' => ['\\', '"']
  | '\\' => ['\\', '\\']
  | '\t' => ['\\', 't']
  | '\n' => ['\\', 'n']
  | '\r' => ['\\', 'r']
  | c =>
    if c.toNat == 0 then ['\\', '0']
    else if isHidden c then byNumber c
    else [c]

/-- The text between quotation marks, with every character visible. -/
def quoted (s : String) : String :=
  String.ofList ('"' :: s.toList.flatMap quotedChar ++ ['"'])

end ParishSite.Text
