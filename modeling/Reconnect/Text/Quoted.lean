import Reconnect.Text.Combining
import Reconnect.Text.Unseen

/-!
# Quoted text

A text in quotes can be read back although it holds quotes, line ends or characters that do not
show. A quote and a backslash get a backslash before them, four control characters have a letter
of their own, and every other character that does not show, or not by itself, is written as its
code point in braces.
-/

namespace Reconnect.Text

/-- A character as it stands between quotes. -/
def escape (c : Char) : List Char :=
  if c = '"' then ['\\', '"']
  else if c = '\\' then ['\\', '\\']
  else if c = '\n' then ['\\', 'n']
  else if c = '\r' then ['\\', 'r']
  else if c = '\t' then ['\\', 't']
  else if c = '\x00' then ['\\', '0']
  else if isCombining c || isUnseen c then
    ['\\', 'u', '\x7b'] ++ Nat.toDigits 16 c.toNat ++ ['\x7d']
  else [c]

def quote (s : String) : String := String.ofList ('"' :: s.toList.flatMap escape ++ ['"'])

/-- A list of texts, each in quotes. -/
def quoteAll (l : List String) : String := "[" ++ ", ".intercalate (l.map quote) ++ "]"

example : quoteAll ["a:1", "q\"\t\x1b"] = "[\"a:1\", \"q\\\"\\t\\u\x7b1b\x7d\"]" := by
  decide +kernel

end Reconnect.Text
