import SlotAllocation.Text.Printable

/-!
# Quoted text

`quote s` writes `s` between double quotes so that it reads back unambiguously: a quote and
a backslash get a backslash, printable characters stay as they are, the seven control
characters with a letter escape (`\a \b \f \n \r \t \v`) use it, other characters below
the space and DEL become `\xNN`, and the remaining unprintable characters become `\uNNNN`
or, above the Basic Multilingual Plane, `\UNNNNNNNN`. Hexadecimal digits are lower case.
-/

namespace SlotAllocation.Text

/-- The lower-case hexadecimal digits of `n`, padded with zeros to `width`. -/
def hexPadded (width : Nat) (n : Nat) : String :=
  let digits := Nat.toDigits 16 n
  String.ofList (List.replicate (width - digits.length) '0' ++ digits)

/-- The escaped form of one character inside double quotes. -/
def escapeChar (c : Char) : String :=
  if c = '"' then "\\\""
  else if c = '\\' then "\\\\"
  else if isPrintable c then c.toString
  else match c.toNat with
    | 7 => "\\a"
    | 8 => "\\b"
    | 12 => "\\f"
    | 10 => "\\n"
    | 13 => "\\r"
    | 9 => "\\t"
    | 11 => "\\v"
    | n =>
      if n < 0x20 || n = 0x7f then "\\x" ++ hexPadded 2 n
      else if n < 0x10000 then "\\u" ++ hexPadded 4 n
      else "\\U" ++ hexPadded 8 n

/-- `s` in double quotes, escaped as the module header describes. -/
def quote (s : String) : String :=
  "\"" ++ String.join (s.toList.map escapeChar) ++ "\""

/-- `c` in single quotes, escaped as in `quote` except that the single quote gets a
backslash and the double quote does not. -/
def quoteRune (c : Char) : String :=
  if c = '\'' then "'\\''"
  else if c = '"' then "'\"'"
  else "'" ++ escapeChar c ++ "'"

end SlotAllocation.Text
