import TextAnnotation.Text.Blank
import TextAnnotation.Text.Hex
import TextAnnotation.Text.HiddenTable

/-!
# Quoted text in messages

* `isHidden`: characters that would not be seen in a message.
* `quoted`: a text in quotes, with hidden characters replaced by their code points.
-/

namespace TextAnnotation.Text

/-- Whether a character has no glyph of its own. -/
def isHidden (c : Char) : Bool :=
  c.toNat < 0x20 || inRanges hiddenRanges c.toNat

def codePoint (c : Char) : List Char :=
  ['\\', 'u', '\x7b'] ++ Nat.toDigits 16 c.toNat ++ ['\x7d']

def quotedChar (c : Char) : List Char :=
  if c == Char.ofNat 0 then ['\\', '0']
  else if c == '\t' then ['\\', 't']
  else if c == '\n' then ['\\', 'n']
  else if c == '\r' then ['\\', 'r']
  else if c == '"' then ['\\', '"']
  else if c == '\\' then ['\\', '\\']
  else if isHidden c then codePoint c
  else [c]

def quoted (s : String) : String :=
  String.ofList ('"' :: s.toList.flatMap quotedChar ++ ['"'])

end TextAnnotation.Text
