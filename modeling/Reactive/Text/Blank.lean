/-!
Blank characters. Two classes are used: the Unicode White_Space property, which decides what
trimming removes from a value's text, and the blanks and line breaks of script source text.
Also the count of UTF-16 code units, which is the length of a string value.
-/

namespace Reactive.Text

/-- The Unicode White_Space property: 25 code points. -/
def isWhiteSpace (c : Char) : Bool :=
  let n := c.toNat
  (0x09 ≤ n && n ≤ 0x0D) || n == 0x20 || n == 0x85 || n == 0xA0 || n == 0x1680 ||
  (0x2000 ≤ n && n ≤ 0x200A) || n == 0x2028 || n == 0x2029 || n == 0x202F ||
  n == 0x205F || n == 0x3000

/-- Drops White_Space characters from the front of a list. -/
def dropBlank : List Char → List Char
  | [] => []
  | c :: rest => if isWhiteSpace c then dropBlank rest else c :: rest

/-- Removes leading White_Space characters. -/
def trimStart (s : String) : String :=
  String.ofList (dropBlank s.toList)

/-- Removes leading and trailing White_Space characters. -/
def trimBoth (s : String) : String :=
  String.ofList (dropBlank (dropBlank s.toList).reverse).reverse

/-- Line breaks of script source: line feed, carriage return, line and paragraph separators. -/
def isLineBreak (c : Char) : Bool :=
  let n := c.toNat
  n == 0x0A || n == 0x0D || n == 0x2028 || n == 0x2029

/-- Blanks of script source other than line breaks: tab, vertical tab, form feed, the byte order
mark, the space separators, and two irregular blanks read the same way: next line (U+0085) and
the zero width space (U+200B). -/
def isSourceBlank (c : Char) : Bool :=
  let n := c.toNat
  n == 0x09 || n == 0x0B || n == 0x0C || n == 0x20 || n == 0x85 || n == 0xA0 || n == 0xFEFF ||
  n == 0x1680 || (0x2000 ≤ n && n ≤ 0x200B) || n == 0x202F || n == 0x205F || n == 0x3000

/-- Number of UTF-16 code units of a character: two above the basic plane, else one. -/
def unitsOf (c : Char) : Nat :=
  if c.toNat > 0xFFFF then 2 else 1

/-- Number of UTF-16 code units of a string. -/
def utf16Length (s : String) : Nat :=
  s.toList.foldl (fun n c => n + unitsOf c) 0

end Reactive.Text
