import RecordQuery.Text.Unprintable

/-!
# Quoted text

A text in double quotes: the quote and the backslash take a backslash, tab, line feed, carriage
return and the null character have a letter each, every other character without a visible form
is spelt by its code point in hexadecimal, and all else stands for itself.
-/

namespace RecordQuery.Text

/-- A code point in lower-case hexadecimal without leading zeros, in braces. -/
def codePointEscape (c : Char) : String :=
  "\\u\x7b" ++ String.ofList (Nat.toDigits 16 c.toNat) ++ "\x7d"

/-- How one character is written between the quotes. -/
def quotedChar (c : Char) : String :=
  if c = '"' then "\\\""
  else if c = '\\' then "\\\\"
  else if c = '\n' then "\\n"
  else if c = '\r' then "\\r"
  else if c = '\t' then "\\t"
  else if c = '\x00' then "\\0"
  else if isUnprintable c then codePointEscape c
  else c.toString

/-- A text in double quotes, on one line and visible throughout. -/
def quoted (text : String) : String :=
  text.foldl (fun written c => written ++ quotedChar c) "\"" ++ "\""

end RecordQuery.Text
