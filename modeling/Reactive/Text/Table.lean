/-!
Character tables read from compact text. A class of code points is a sorted list of closed
ranges; a mapping sends a code point to a list of code points. Both are looked up by binary
search, so a lookup costs a logarithmic number of comparisons.
-/

namespace Reactive.Text

/-- Value of a hexadecimal digit, either case. -/
def hexValue? (c : Char) : Option Nat :=
  if '0' ≤ c ∧ c ≤ '9' then some (c.toNat - '0'.toNat)
  else if 'a' ≤ c ∧ c ≤ 'f' then some (c.toNat - 'a'.toNat + 10)
  else if 'A' ≤ c ∧ c ≤ 'F' then some (c.toNat - 'A'.toNat + 10)
  else none

/-- Reads a hexadecimal numeral; characters that are not digits count as zero. -/
def readHex (s : String) : Nat :=
  s.foldl (fun acc c => acc * 16 + (hexValue? c).getD 0) 0

/-- The words of a table text: the pieces between blanks. -/
def tableWords (s : String) : List String :=
  (s.splitOn " ").filter (fun w => !w.isEmpty)

/-- A set of code points given by sorted, disjoint closed ranges. -/
structure RangeSet where
  ranges : Array (Nat × Nat)

namespace RangeSet

/-- Reads ranges written as hexadecimal `a-b` or single code points `a`. -/
def ofText (s : String) : RangeSet :=
  ⟨((tableWords s).map fun w =>
      match w.splitOn "-" with
      | [a, b] => (readHex a, readHex b)
      | _ => (readHex w, readHex w)).toArray⟩

/-- Binary search for a range holding `c` between the indices `lo` and `hi`. -/
def findIn (t : RangeSet) (c lo hi : Nat) : Bool :=
  if lo < hi then
    let mid := (lo + hi) / 2
    match t.ranges[mid]? with
    | some (a, b) =>
      if c < a then findIn t c lo mid
      else if b < c then findIn t c (mid + 1) hi
      else true
    | none => false
  else false
termination_by hi - lo

/-- Whether the code point `c` lies in one of the ranges. -/
def contains (t : RangeSet) (c : Nat) : Bool :=
  t.findIn c 0 t.ranges.size

end RangeSet

/-- A mapping from code points to lists of code points, sorted by source code point. -/
structure CharMap where
  entries : Array (Nat × List Nat)

namespace CharMap

/-- Reads entries `code:image`, the image being hexadecimal code points joined by dots. -/
def ofText (s : String) : CharMap :=
  ⟨((tableWords s).map fun w =>
      match w.splitOn ":" with
      | [a, b] => (readHex a, (b.splitOn ".").map readHex)
      | _ => (readHex w, [readHex w])).toArray⟩

/-- Binary search for the image of `c` between the indices `lo` and `hi`. -/
def findIn (t : CharMap) (c lo hi : Nat) : Option (List Nat) :=
  if lo < hi then
    let mid := (lo + hi) / 2
    match t.entries[mid]? with
    | some (a, img) =>
      if c < a then findIn t c lo mid
      else if a < c then findIn t c (mid + 1) hi
      else some img
    | none => none
  else none
termination_by hi - lo

/-- The image of `c`, if the map moves it. -/
def find? (t : CharMap) (c : Nat) : Option (List Nat) :=
  t.findIn c 0 t.entries.size

end CharMap

end Reactive.Text
