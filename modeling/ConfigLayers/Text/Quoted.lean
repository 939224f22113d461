import ConfigLayers.Text.Blank
import ConfigLayers.Text.Digit
import ConfigLayers.Text.Printable

/-! Texts quoted for messages: single quotes, or double quotes around a text that has single quotes only. -/
namespace ConfigLayers
namespace Text

def quoteMark (s : String) : Char :=
  if s.toList.contains '\'' && !s.toList.contains '"' then '"' else '\''

/-- A character inside quotes: the backslash and the quote mark after a backslash, line breaks and tabs by
letter, unprintable characters by number in two, four or eight hexadecimal digits. -/
def quotedChar (mark c : Char) : List Char :=
  if c == mark || c == '\\' then ['\\', c]
  else if c == '\n' then ['\\', 'n']
  else if c == '\r' then ['\\', 'r']
  else if c == '\t' then ['\\', 't']
  else if isPrintable c then [c]
  else if c.toNat < 0x100 then '\\' :: 'x' :: hexFixed c.toNat 2
  else if c.toNat < 0x10000 then '\\' :: 'u' :: hexFixed c.toNat 4
  else '\\' :: 'U' :: hexFixed c.toNat 8

def quoted (s : String) : String :=
  let mark := quoteMark s
  String.ofList (mark :: s.toList.flatMap (quotedChar mark) ++ [mark])

def quotedList (ss : List String) : String :=
  "[" ++ join ", " (ss.map quoted) ++ "]"

end Text
end ConfigLayers
