import PipelineWatch.Text.Hidden

/-!
A text between quotes, as error messages show it: quotes and backslashes stand
behind a backslash, and what would not be seen is written by number.
-/
namespace PipelineWatch.Text

/-- The digits of `n` in base sixteen, small letters, at least one digit. -/
def hexDigits (n : Nat) : List Char :=
  Nat.toDigits 16 n

/-- How `c` stands between the quotes. -/
def quotedChar (c : Char) : List Char :=
  if c = '\x00' then ['\\', '0']
  else if c = '\t' then ['\\', 't']
  else if c = '\r' then ['\\', 'r']
  else if c = '\n' then ['\\', 'n']
  else if c = '\\' then ['\\', '\\']
  else if c = '"' then ['\\', '"']
  else if isHidden c then ['\\', 'u', '\x7b'] ++ hexDigits c.toNat ++ ['\x7d']
  else [c]

/-- `s` between quotes. -/
def quoted (s : String) : String :=
  String.ofList ('"' :: s.toList.flatMap quotedChar ++ ['"'])

end PipelineWatch.Text
