import Reactive.Proofs.Eval.Relational
import Reactive.Proofs.Value.NumericString

/-!
# Computed member access

`v[k]` evaluates to `indexValue v k`. On a string or an array, the key is read as a number
(`Value.toNumber`), not as a property name: a key whose number is a whole number `i`, zero or
above, is position `i`; any other key gives `undefined`. So `true` is position 1, and `null`,
`""` and `[]` are position 0, while `"length"` is no position at all.

The main statement, `indexValue_number_keys`, says what every key gives:

* Below the length of an array, position `i` is its element `i`; at or past it, `undefined`.
* Below a string's number of characters, position `i` is the string of its character `i`; at or
  past it, `undefined`. A string is indexed by character while `.length` counts UTF-16 code
  units, so the two counts part at a character above U+FFFF.
* On a string of characters from the basic plane the counts agree, and position `i` is the
  string of one code unit, the unit at position `i`.
* A key that is no such position gives `undefined`.

Where the language reads a key as a property name, the two part: `"ab"[true]` is `"b"` here
and `undefined` there, and `"abc"["length"]` is `undefined` here and `3` there.
-/

namespace Reactive

open Eval

/-! ## Lengths in code units -/

theorem length_utf16Units (c : Char) : (utf16Units c).length = Text.unitsOf c := by
  unfold utf16Units Text.unitsOf
  split <;> split <;> simp <;> omega

/-- The length of a string is the number of its UTF-16 code units. -/
theorem utf16Length_eq_length_utf16 (s : String) : Text.utf16Length s = (utf16 s).length := by
  -- the count runs from any start; the walk over the characters is the induction
  have hrun : ∀ (l : List Char) (a : Nat),
      l.foldl (fun n c => n + Text.unitsOf c) a = a + (l.flatMap utf16Units).length := by
    intro l
    induction l with
    | nil => simp
    | cons c cs ih =>
      intro a
      rw [List.foldl_cons, ih, List.flatMap_cons, List.length_append, length_utf16Units]
      omega
  rw [Text.utf16Length, hrun, utf16]
  simp

/-- A string has at least as many code units as characters. -/
theorem length_toList_le_utf16Length (s : String) : s.toList.length ≤ Text.utf16Length s := by
  rw [utf16Length_eq_length_utf16, utf16, List.length_flatMap]
  calc s.toList.length = (s.toList.map fun _ => 1).sum := by simp
    _ ≤ (s.toList.map fun c => (utf16Units c).length).sum := by
      apply List.sum_le_sum
      intro c _
      exact List.length_pos_iff.mpr (utf16Units_ne_nil c)

/-- A character of the basic plane is its own code unit. -/
theorem utf16Units_of_basic {c : Char} (hc : c.toNat ≤ 0xFFFF) : utf16Units c = [c.toNat] := by
  unfold utf16Units
  rw [if_pos (by omega)]

/-- Characters of the basic plane are one code unit each. -/
theorem flatMap_utf16Units_of_basic : ∀ l : List Char, (∀ c ∈ l, c.toNat ≤ 0xFFFF) →
    l.flatMap utf16Units = l.map Char.toNat
  | [], _ => rfl
  | c :: rest, h => by
    rw [List.flatMap_cons, utf16Units_of_basic (h c List.mem_cons_self),
      flatMap_utf16Units_of_basic rest fun d hd => h d (List.mem_cons_of_mem c hd)]
    rfl

/-- A string of characters of the basic plane has one code unit per character. -/
theorem utf16_of_basic {s : String} (hs : ∀ c ∈ s.toList, c.toNat ≤ 0xFFFF) :
    utf16 s = s.toList.map Char.toNat :=
  flatMap_utf16Units_of_basic s.toList hs

/-! ## Keys read as numbers -/

section
variable {k : Value} {i : Nat}

/-- Below an array's length, a position is its element. -/
theorem indexValue_array_of_lt {items : List Value} (hk : wholeNat? k.toNumber = some i)
    (hi : i < items.length) : indexValue (.array items) k = items[i] := by
  simp only [indexValue, hk, List.getElem?_eq_getElem hi, Option.getD_some]

/-- A position at or past an array's length is `undefined`. -/
theorem indexValue_array_of_le {items : List Value} (hk : wholeNat? k.toNumber = some i)
    (hi : items.length ≤ i) : indexValue (.array items) k = .undefined := by
  simp only [indexValue, hk, List.getElem?_eq_none hi, Option.getD_none]

/-- Below a string's number of characters, a position is the string of its character there. -/
theorem indexValue_str_of_lt {s : String} (hk : wholeNat? k.toNumber = some i)
    (hi : i < s.toList.length) : indexValue (.str s) k = .str s.toList[i].toString := by
  simp only [indexValue, hk, List.getElem?_eq_getElem hi]

/-- A position at or past a string's number of characters is `undefined`. -/
theorem indexValue_str_of_chars_le {s : String} (hk : wholeNat? k.toNumber = some i)
    (hi : s.toList.length ≤ i) : indexValue (.str s) k = .undefined := by
  simp only [indexValue, hk, List.getElem?_eq_none hi]

/-- A position at or past a string's length in code units is `undefined`. -/
theorem indexValue_str_of_le {s : String} (hk : wholeNat? k.toNumber = some i)
    (hi : Text.utf16Length s ≤ i) : indexValue (.str s) k = .undefined :=
  indexValue_str_of_chars_le hk ((length_toList_le_utf16Length s).trans hi)

/-- A key whose number is no position gives `undefined` on an array. -/
theorem indexValue_array_of_none {items : List Value} (hk : wholeNat? k.toNumber = none) :
    indexValue (.array items) k = .undefined := by
  simp only [indexValue, hk]

/-- A key whose number is no position gives `undefined` on a string. -/
theorem indexValue_str_of_none {s : String} (hk : wholeNat? k.toNumber = none) :
    indexValue (.str s) k = .undefined := by
  simp only [indexValue, hk]

/-- On a string of characters of the basic plane, a position below its length in code units is
the string of one code unit: the unit at that position. -/
theorem indexValue_str_unit {s : String} (hs : ∀ c ∈ s.toList, c.toNat ≤ 0xFFFF)
    (hk : wholeNat? k.toNumber = some i) (hi : i < Text.utf16Length s) :
    ∃ u t, (utf16 s)[i]? = some u ∧ indexValue (.str s) k = .str t ∧ utf16 t = [u] := by
  have hunits : utf16 s = s.toList.map Char.toNat := utf16_of_basic hs
  -- one unit per character, so the length in units is the number of characters
  have hchars : i < s.toList.length := by
    rw [utf16Length_eq_length_utf16, hunits, List.length_map] at hi
    exact hi
  have hc : s.toList[i].toNat ≤ 0xFFFF := hs _ (List.getElem_mem hchars)
  refine ⟨s.toList[i].toNat, s.toList[i].toString, ?_, indexValue_str_of_lt hk hchars, ?_⟩
  · rw [hunits, List.getElem?_map, List.getElem?_eq_getElem hchars, Option.map_some]
  · have hone : s.toList[i].toString.toList = [s.toList[i]] := String.toList_singleton _
    rw [utf16, hone, List.flatMap_singleton, utf16Units_of_basic hc]

end

/-! ## The rule for every key -/

/-- What `v[k]` gives on an array or a string, with the key read as a number: a whole number
`i`, zero or above, is a position. Below an array's length it is element `i`, and below a
string's number of characters it is the string of character `i`; at or past those counts it is
`undefined`. On a string of basic-plane characters, so counting in UTF-16 code units as `.length`
does, position `i` is the one-unit string of its code unit `i`. A key that is no position, the
key `"length"` among them, gives `undefined`. -/
theorem indexValue_number_keys (k : Value) :
    (∀ (items : List Value) (i : Nat) (hi : i < items.length),
        wholeNat? k.toNumber = some i → indexValue (.array items) k = items[i]) ∧
      (∀ (items : List Value) (i : Nat), wholeNat? k.toNumber = some i → items.length ≤ i →
        indexValue (.array items) k = .undefined) ∧
      (∀ (s : String) (i : Nat) (hi : i < s.toList.length),
        wholeNat? k.toNumber = some i → indexValue (.str s) k = .str s.toList[i].toString) ∧
      (∀ (s : String) (i : Nat), wholeNat? k.toNumber = some i → s.toList.length ≤ i →
        indexValue (.str s) k = .undefined) ∧
      (∀ (s : String) (i : Nat), (∀ c ∈ s.toList, c.toNat ≤ 0xFFFF) →
        wholeNat? k.toNumber = some i → i < Text.utf16Length s →
          ∃ u t, (utf16 s)[i]? = some u ∧ indexValue (.str s) k = .str t ∧ utf16 t = [u]) ∧
      (wholeNat? k.toNumber = none →
        (∀ items, indexValue (.array items) k = .undefined) ∧
          ∀ s, indexValue (.str s) k = .undefined) :=
  ⟨fun _ _ hi hk => indexValue_array_of_lt hk hi,
    fun _ _ hk hi => indexValue_array_of_le hk hi,
    fun _ _ hi hk => indexValue_str_of_lt hk hi,
    fun _ _ hk hi => indexValue_str_of_chars_le hk hi,
    fun _ _ hs hk hi => indexValue_str_unit hs hk hi,
    fun hk => ⟨fun _ => indexValue_array_of_none hk, fun _ => indexValue_str_of_none hk⟩⟩

/-- The rule at keys `true` (position 1), `2`, `undefined` and `"length"` (no position), and at a
character above U+FFFF, which is one position though it is two code units. -/
theorem indexValue_number_keys_at_true :
    indexValue (.array [.str "a", .str "b"]) (.bool true) = .str "b" ∧
      (∃ u t, (utf16 "ab")[1]? = some u ∧ indexValue (.str "ab") (.bool true) = .str t ∧
        utf16 t = [u]) ∧
      indexValue (.array [.str "a"]) (.number 2.0) = .undefined ∧
      indexValue (.str "𐀀a") (.number 1.0) = .str "a" ∧
      indexValue (.str "𐀀a") (.number 2.0) = .undefined ∧
      indexValue (.array [.str "a"]) .undefined = .undefined ∧
      indexValue (.str "abc") (.str "length") = .undefined := by
  have hone : wholeNat? (Value.bool true).toNumber = some 1 := by decide
  have hone' : wholeNat? (Value.number 1.0).toNumber = some 1 := by decide
  have htwo : wholeNat? (Value.number 2.0).toNumber = some 2 := by decide
  have hnone : wholeNat? Value.undefined.toNumber = none := by decide
  -- `l` is neither white space nor a character of a literal, so `"length"` is not-a-number
  have hlength : wholeNat? (Value.str "length").toNumber = none := by
    rw [Value.toNumber_str_of_not_numericString
      (Value.not_numericString_of_mem (c := 'l') (by simp) (by decide) (by decide) (by simp))]
    decide +kernel
  refine ⟨(indexValue_number_keys _).1 _ 1 (by decide) hone,
    (indexValue_number_keys _).2.2.2.2.1 "ab" 1 (by simp) hone (by decide),
    (indexValue_number_keys _).2.1 _ 2 htwo (by decide), ?_,
    (indexValue_number_keys _).2.2.2.1 "𐀀a" 2 htwo (by decide),
    ((indexValue_number_keys _).2.2.2.2.2 hnone).1 _,
    ((indexValue_number_keys _).2.2.2.2.2 hlength).2 _⟩
  exact ((indexValue_number_keys _).2.2.1 "𐀀a" 1 (by decide) hone').trans rfl

/-- A key is a number, not a property name: `"ab"[true]` is position 1. -/
example : indexValue (.str "ab") (.bool true) = .str "b" := rfl

end Reactive
