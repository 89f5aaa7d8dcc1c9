import Reactive.Text.Table
import Reactive.Text.CaseData

/-!
Full Unicode case conversion of strings. Uppercasing replaces every character by its full
uppercase mapping (so `ß` becomes `SS`). Lowercasing does the same with the lowercase mapping,
except for capital sigma, which becomes final sigma `ς` at the end of a word: when a cased
letter precedes it and none follows it, case-ignorable characters being skipped on both sides.
-/

namespace Reactive.Text

/-- Full uppercase mappings. -/
def upperMap : CharMap := CharMap.ofText CaseData.upperText

/-- Full lowercase mappings. -/
def lowerMap : CharMap := CharMap.ofText CaseData.lowerText

/-- Case-ignorable code points. -/
def caseIgnorable : RangeSet := RangeSet.ofText CaseData.ignorableText

/-- Cased code points that are not case-ignorable. -/
def casedLetters : RangeSet := RangeSet.ofText CaseData.casedText

/-- The image of a character under a mapping; characters it does not move stay. -/
def CharMap.image (m : CharMap) (c : Char) : List Char :=
  match m.find? c.toNat with
  | some img => img.map Char.ofNat
  | none => [c]

/-- Whether the first character that is not case-ignorable is a cased letter. -/
def casedAfterIgnorable : List Char → Bool
  | [] => false
  | c :: rest =>
    if caseIgnorable.contains c.toNat then casedAfterIgnorable rest
    else casedLetters.contains c.toNat

/-- Capital sigma. -/
def capitalSigma : Char := Char.ofNat 0x3A3

/-- Lowercases `rest`, where `before` holds the characters already passed, nearest first. -/
def lowerFrom : List Char → List Char → List Char
  | _, [] => []
  | before, c :: rest =>
    let img :=
      if c = capitalSigma then
        if casedAfterIgnorable before && !casedAfterIgnorable rest then [Char.ofNat 0x3C2]
        else [Char.ofNat 0x3C3]
      else lowerMap.image c
    img ++ lowerFrom (c :: before) rest

/-- Full uppercase of a string. -/
def toUpperFull (s : String) : String :=
  String.ofList (s.toList.flatMap upperMap.image)

/-- Full lowercase of a string, with final sigma at the end of words. -/
def toLowerFull (s : String) : String :=
  String.ofList (lowerFrom [] s.toList)

end Reactive.Text
