import ComponentForm.Text.Numeral
import ComponentForm.Text.Plain

/-! The quoted form in which a text is shown inside a message. Every character without a shape of
its own is written as a numbered escape, so the form shows what the text holds. -/
namespace ComponentForm.Text

def quotedChar (c : Char) : List Char :=
  if c = '"' then ['\\', '"']
  else if c = '\\' then ['\\', '\\']
  else if c = '\t' then ['\\', 't']
  else if c = '\r' then ['\\', 'r']
  else if c = '\n' then ['\\', 'n']
  else if c = '\x00' then ['\\', '0']
  else if isPlain c then [c]
  else '\\' :: 'u' :: '\x7b' :: lowerHex c.toNat ++ ['\x7d']

def quoted (s : String) : String :=
  String.ofList ('"' :: s.toList.flatMap quotedChar ++ ['"'])

end ComponentForm.Text
