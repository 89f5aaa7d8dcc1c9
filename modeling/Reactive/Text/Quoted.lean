import Reactive.Text.Table
import Reactive.Text.QuoteData

/-!
Quoted text, the way diagnostics show a string: between double quotes, with tab, carriage
return, line feed, backslash, double quote and NUL written as two-character escapes, and every
character that extends a grapheme cluster or is not printable written as `\u{…}` with its code
point in lowercase hexadecimal and no leading zeros. Every other character stands for itself,
so the quoted form of a string is the concatenation of the quoted forms of its characters.
-/

namespace Reactive.Text

/-- Characters that extend a grapheme cluster. -/
def graphemeExtend : RangeSet := RangeSet.ofText QuoteData.extendText

/-- Characters that are not printable. -/
def unprintable : RangeSet := RangeSet.ofText QuoteData.unprintableText

/-- Lowercase hexadecimal digits of a number, without leading zeros. -/
def lowerHex (n : Nat) : String := String.ofList (Nat.toDigits 16 n)

/-- A character as it stands between quotes. -/
def quoteChar (c : Char) : String :=
  if c = '\t' then "\\t"
  else if c = '\r' then "\\r"
  else if c = '\n' then "\\n"
  else if c = '\\' then "\\\\"
  else if c = '"' then "\\\""
  else if c.toNat = 0 then "\\0"
  else if graphemeExtend.contains c.toNat || unprintable.contains c.toNat then
    "\\u\x7b" ++ lowerHex c.toNat ++ "\x7d"
  else c.toString

/-- A string between double quotes, each character quoted. -/
def quoted (s : String) : String :=
  "\"" ++ String.join (s.toList.map quoteChar) ++ "\""

end Reactive.Text
