import Mathlib
import Reactive.Eval

/-!
# Relational operators

The script language evaluates `<`, `<=`, `>` and `>=` by one rule, IsLessThan. Both operands are
first made primitive, an array becoming the string of its elements. Two strings are then compared
by their UTF-16 code units, and anything else by number, where a not-a-number makes the answer
undefined and every one of the four operators false. `>` and `<=` ask the question with the
operands swapped. `relationalResult` states this rule, with numbers converted as the runtime
converts them (`Value.toNumber`).

The evaluator compares two strings by code points and everything else by number, arrays included,
without making them primitive. The main result, `binaryValue_relational`, is where the two agree:
for operands that are not arrays, and for two strings whose code point order is their UTF-16
order. That holds unless one of the strings has a character from U+E000 to U+FFFF and one has a
character above U+FFFF: a surrogate pair starts below U+E000.

Along the way: IEEE comparison of doubles is asymmetric (`float_lt_asymm`), which is what makes
asking `y < x` the same as the evaluator's "greater" answer for `x` and `y`.
-/

namespace Reactive

open Script Value

/-! ## The language's rule -/

/-- The UTF-16 code units of a character: itself below U+10000, else a surrogate pair. -/
def utf16Units (c : Char) : List Nat :=
  if c.toNat < 0x10000 then [c.toNat]
  else [0xD800 + (c.toNat - 0x10000) / 0x400, 0xDC00 + (c.toNat - 0x10000) % 0x400]

/-- The UTF-16 code units of a string. -/
def utf16 (s : String) : List Nat := s.toList.flatMap utf16Units

/-- Whether one sequence of code units comes first: it is a proper prefix of the other, or is the
smaller at the first unit where they differ. -/
def unitsBefore : List Nat → List Nat → Bool
  | [], _ :: _ => true
  | _, [] => false
  | a :: as, b :: bs => if a = b then unitsBefore as bs else a < b

/-- ToPrimitive: an array becomes the string of its elements; other values are primitive. -/
def toPrimitive : Value → Value
  | .array items => .str (Value.array items).toText
  | v => v

/-- IsLessThan on two numbers: `none` (undefined) when either is not-a-number. -/
def numberBefore (x y : Float) : Option Bool :=
  if x.isNaN || y.isNaN then none else some (decide (x < y))

/-- IsLessThan on two primitives: two strings by their code units, anything else by number. -/
def isLessThan (x y : Value) : Option Bool :=
  match x, y with
  | .str s, .str t => some (unitsBefore (utf16 s) (utf16 t))
  | _, _ => numberBefore x.toNumber y.toNumber

/-- The result of a relational operator by the language's rule: `<` and `>=` ask whether the left
operand comes first, `>` and `<=` whether the right one does; an undefined answer makes all four
false. The other operators are not relational and give false. -/
def relationalResult (op : BinaryOp) (a b : Value) : Bool :=
  match op with
  | .lt => isLessThan (toPrimitive a) (toPrimitive b) == some true
  | .gt => isLessThan (toPrimitive b) (toPrimitive a) == some true
  | .ltEq => isLessThan (toPrimitive b) (toPrimitive a) == some false
  | .gtEq => isLessThan (toPrimitive a) (toPrimitive b) == some false
  | _ => false

/-- Whether UTF-16 keeps the code point order of two strings: they do not have both a character
from U+E000 to U+FFFF and a character above U+FFFF. -/
def Utf16Ordered (s t : String) : Prop :=
  (∀ c ∈ s.toList ++ t.toList, c.toNat < 0xE000 ∨ 0xFFFF < c.toNat) ∨
    ∀ c ∈ s.toList ++ t.toList, c.toNat ≤ 0xFFFF

/-! ## Order of doubles -/

section
open Float.Model

/-- IEEE comparison read the other way round gives the swapped ordering. -/
theorem unpackedFloat_compare_swap (a b : UnpackedFloat) :
    b.compare a = (a.compare b).map Ordering.swap := by
  rcases a with ⟨⟨⟩|⟨⟩⟩ | _ | ⟨⟨⟩|⟨⟩⟩ | ⟨⟨⟩|⟨⟩, m, e, hm⟩ <;>
    rcases b with ⟨⟨⟩|⟨⟩⟩ | _ | ⟨⟨⟩|⟨⟩⟩ | ⟨⟨⟩|⟨⟩, n, f, hn⟩ <;>
    simp [UnpackedFloat.compare, Ordering.swap_then, Int.compare_swap, Nat.compare_swap] <;> rfl

theorem float_lt_iff {x y : Float} :
    x < y ↔ x.toModel.unpack.compare y.toModel.unpack = some .lt := by
  show x.lt y = true ↔ _
  simp only [Float.lt, decide_eq_true_eq]
  show x.toModel.lt y.toModel = true ↔ _
  simp only [Float.Model.lt, UnpackedFloat.lt, beq_iff_eq]

end

/-- Of two doubles, at most one is smaller than the other. -/
theorem float_lt_asymm {x y : Float} (h : x < y) : ¬y < x := by
  rw [float_lt_iff] at h ⊢
  rw [unpackedFloat_compare_swap, h]
  decide

/-! ## The evaluator's comparison of numbers -/

section
variable {x y : Float}

theorem compareNumbers_of_isNaN (hn : (x.isNaN || y.isNaN) = true) : compareNumbers x y = none := by
  unfold compareNumbers
  rw [if_pos hn]

theorem numberBefore_of_isNaN (hn : (x.isNaN || y.isNaN) = true) : numberBefore x y = none := by
  unfold numberBefore
  rw [if_pos hn]

theorem compareNumbers_of_not_isNaN (hn : ¬(x.isNaN || y.isNaN) = true) :
    compareNumbers x y = if x < y then some .lt else if y < x then some .gt else some .eq := by
  unfold compareNumbers
  rw [if_neg hn]

theorem numberBefore_of_not_isNaN (hn : ¬(x.isNaN || y.isNaN) = true) :
    numberBefore x y = some (decide (x < y)) := by
  unfold numberBefore
  rw [if_neg hn]

end

/-- The evaluator's three answers for two numbers, each beside IsLessThan asked both ways round:
not-a-number leaves all undefined, and otherwise at most one way round holds. -/
theorem compareNumbers_cases (x y : Float) :
    (compareNumbers x y = none ∧ numberBefore x y = none ∧ numberBefore y x = none) ∨
      (compareNumbers x y = some .lt ∧ numberBefore x y = some true ∧
        numberBefore y x = some false) ∨
      (compareNumbers x y = some .gt ∧ numberBefore x y = some false ∧
        numberBefore y x = some true) ∨
      (compareNumbers x y = some .eq ∧ numberBefore x y = some false ∧
        numberBefore y x = some false) := by
  by_cases hn : (x.isNaN || y.isNaN) = true
  · exact .inl ⟨compareNumbers_of_isNaN hn, numberBefore_of_isNaN hn,
      numberBefore_of_isNaN (Bool.or_comm x.isNaN y.isNaN ▸ hn)⟩
  · rw [compareNumbers_of_not_isNaN hn, numberBefore_of_not_isNaN hn,
      numberBefore_of_not_isNaN (Bool.or_comm x.isNaN y.isNaN ▸ hn)]
    by_cases hxy : x < y
    · -- then not the other way round
      rw [if_pos hxy, decide_eq_true hxy, decide_eq_false (float_lt_asymm hxy)]
      exact .inr (.inl ⟨rfl, rfl, rfl⟩)
    · rw [if_neg hxy, decide_eq_false hxy]
      by_cases hyx : y < x
      · rw [if_pos hyx, decide_eq_true hyx]
        exact .inr (.inr (.inl ⟨rfl, rfl, rfl⟩))
      · rw [if_neg hyx, decide_eq_false hyx]
        exact .inr (.inr (.inr ⟨rfl, rfl, rfl⟩))

theorem compareNumbers_lt (x y : Float) :
    (compareNumbers x y == some .lt) = (numberBefore x y == some true) := by
  rcases compareNumbers_cases x y with ⟨h, hxy, -⟩ | ⟨h, hxy, -⟩ | ⟨h, hxy, -⟩ | ⟨h, hxy, -⟩ <;>
    rw [h, hxy] <;> rfl

/-- The evaluator's "greater" is "less" the other way round. -/
theorem compareNumbers_gt (x y : Float) :
    (compareNumbers x y == some .gt) = (numberBefore y x == some true) := by
  rcases compareNumbers_cases x y with ⟨h, -, hyx⟩ | ⟨h, -, hyx⟩ | ⟨h, -, hyx⟩ | ⟨h, -, hyx⟩ <;>
    rw [h, hyx] <;> rfl

/-- "Less or equal" is "not less" the other way round, with not-a-number excluded. -/
theorem compareNumbers_le (x y : Float) :
    (compareNumbers x y == some .lt || compareNumbers x y == some .eq) =
      (numberBefore y x == some false) := by
  rcases compareNumbers_cases x y with ⟨h, -, hyx⟩ | ⟨h, -, hyx⟩ | ⟨h, -, hyx⟩ | ⟨h, -, hyx⟩ <;>
    rw [h, hyx] <;> rfl

theorem compareNumbers_ge (x y : Float) :
    (compareNumbers x y == some .gt || compareNumbers x y == some .eq) =
      (numberBefore x y == some false) := by
  rcases compareNumbers_cases x y with ⟨h, hxy, -⟩ | ⟨h, hxy, -⟩ | ⟨h, hxy, -⟩ | ⟨h, hxy, -⟩ <;>
    rw [h, hxy] <;> rfl

/-! ## Code points and code units -/

theorem char_lt_iff {c d : Char} : c < d ↔ c.toNat < d.toNat := by
  rw [Char.lt_def, UInt32.lt_iff_toNat_lt]
  rfl

/-- A character below U+E000 is below the surrogates. -/
theorem toNat_lt_surrogates {c : Char} (h : c.toNat < 0xE000) : c.toNat < 0xD800 := by
  have hv := c.valid
  simp only [UInt32.isValidChar, Nat.isValidChar] at hv
  change c.val.toNat < 0xE000 at h
  change c.val.toNat < 0xD800
  omega

theorem compareChars_swap : ∀ xs ys : List Char, compareChars ys xs = (compareChars xs ys).swap
  | [], [] => rfl
  | [], _ :: _ => rfl
  | _ :: _, [] => rfl
  | c :: cs, d :: ds => by
    simp only [compareChars, char_lt_iff]
    by_cases h₁ : c.toNat < d.toNat
    · have h₂ : ¬d.toNat < c.toNat := by omega
      simp [h₁, h₂]
    · by_cases h₂ : d.toNat < c.toNat
      · simp [h₁, h₂]
      · simp [h₁, h₂, compareChars_swap cs ds]

theorem unitsBefore_append_cancel (xs ys : List Nat) :
    ∀ u : List Nat, unitsBefore (u ++ xs) (u ++ ys) = unitsBefore xs ys
  | [] => rfl
  | a :: u => by simp [unitsBefore, unitsBefore_append_cancel xs ys u]

theorem unitsBefore_asymm : ∀ xs ys : List Nat, unitsBefore xs ys = true → unitsBefore ys xs = false
  | [], [], _ => rfl
  | [], _ :: _, _ => rfl
  | _ :: _, [], h => by simp [unitsBefore] at h
  | a :: as, b :: bs, h => by
    simp only [unitsBefore] at h ⊢
    by_cases hab : a = b
    · subst hab
      simpa using unitsBefore_asymm as bs (by simpa using h)
    · have hba : ¬b = a := fun h => hab h.symm
      simp only [hab, if_false, decide_eq_true_eq] at h
      simp only [hba, if_false, decide_eq_false_iff_not]
      omega

theorem utf16Units_ne_nil (c : Char) : utf16Units c ≠ [] := by
  unfold utf16Units
  split <;> simp

/-- A class of characters on which UTF-16 keeps code point order: the units of a smaller
character come first, whatever follows them. -/
def UnitsKeepOrder (P : Char → Prop) : Prop :=
  ∀ c d, P c → P d → c.toNat < d.toNat →
    ∀ r r' : List Nat, unitsBefore (utf16Units c ++ r) (utf16Units d ++ r') = true

/-- Without characters from U+E000 to U+FFFF, UTF-16 keeps code point order: characters below
the surrogates are one unit each, and a surrogate pair starts above them. -/
theorem unitsKeepOrder_outside_high :
    UnitsKeepOrder fun c => c.toNat < 0xE000 ∨ 0xFFFF < c.toNat := by
  intro c d hc hd hlt r r'
  rcases hc with hc | hc
  · have hc' := toNat_lt_surrogates hc
    rcases hd with hd | hd
    · have hd' := toNat_lt_surrogates hd
      simp [utf16Units, unitsBefore, show c.toNat < 0x10000 by omega,
        show d.toNat < 0x10000 by omega, show c.toNat ≠ d.toNat by omega, hlt]
    · simp only [utf16Units, show c.toNat < 0x10000 by omega, show ¬d.toNat < 0x10000 by omega,
        if_true, if_false, List.cons_append, unitsBefore]
      simp only [show c.toNat ≠ 0xD800 + (d.toNat - 0x10000) / 0x400 by omega, if_false,
        decide_eq_true_eq]
      omega
  · -- both are surrogate pairs: first by the high halves, then by the low ones
    have hd' : 0xFFFF < d.toNat := by
      rcases hd with hd | hd <;> omega
    simp only [utf16Units, show ¬c.toNat < 0x10000 by omega, show ¬d.toNat < 0x10000 by omega,
      if_false, List.cons_append, unitsBefore]
    by_cases hhi : 0xD800 + (c.toNat - 0x10000) / 0x400 = 0xD800 + (d.toNat - 0x10000) / 0x400
    · have hlo : 0xDC00 + (c.toNat - 0x10000) % 0x400 ≠ 0xDC00 + (d.toNat - 0x10000) % 0x400 := by
        omega
      simp only [hhi, if_true, hlo, if_false, decide_eq_true_eq]
      omega
    · simp only [hhi, if_false, decide_eq_true_eq]
      omega

/-- On the basic plane, UTF-16 units are the code points. -/
theorem unitsKeepOrder_basic : UnitsKeepOrder fun c => c.toNat ≤ 0xFFFF := by
  intro c d hc hd hlt r r'
  simp [utf16Units, unitsBefore, show c.toNat < 0x10000 by omega,
    show d.toNat < 0x10000 by omega, show c.toNat ≠ d.toNat by omega, hlt]

/-- On characters where UTF-16 keeps code point order, the evaluator's order of code point lists
is the order of their code units. -/
theorem compareChars_lt_eq_unitsBefore {P : Char → Prop} (hP : UnitsKeepOrder P) :
    ∀ xs ys : List Char, (∀ c ∈ xs ++ ys, P c) →
      (compareChars xs ys == .lt) = unitsBefore (xs.flatMap utf16Units) (ys.flatMap utf16Units)
  | [], [], _ => rfl
  | [], d :: ds, _ => by
    obtain ⟨u, us, hu⟩ := List.exists_cons_of_ne_nil (utf16Units_ne_nil d)
    simp [compareChars, hu, unitsBefore]
  | c :: cs, [], _ => by
    obtain ⟨u, us, hu⟩ := List.exists_cons_of_ne_nil (utf16Units_ne_nil c)
    simp [compareChars, hu, unitsBefore]
  | c :: cs, d :: ds, hall => by
    have hc : P c := hall c (by simp)
    have hd : P d := hall d (by simp)
    simp only [compareChars, char_lt_iff, List.flatMap_cons]
    by_cases h₁ : c.toNat < d.toNat
    · simp [h₁, hP c d hc hd h₁]
    · by_cases h₂ : d.toNat < c.toNat
      · -- the right one comes first
        simp [h₁, h₂, unitsBefore_asymm _ _ (hP d c hd hc h₂ _ _)]
      · -- equal characters: compare what follows
        have hcd : c = d := Char.ext (UInt32.toNat_inj.mp (by change c.toNat = d.toNat; omega))
        subst hcd
        simp only [h₁, if_false, unitsBefore_append_cancel]
        refine compareChars_lt_eq_unitsBefore hP cs ds fun e he => hall e ?_
        rcases List.mem_append.mp he with he | he <;> simp [he]

/-- Two strings that UTF-16 orders as code points compare by their code units. -/
theorem compareChars_lt_eq_utf16 {s t : String} (h : Utf16Ordered s t) :
    (compareChars s.toList t.toList == .lt) = unitsBefore (utf16 s) (utf16 t) := by
  rcases h with h | h
  · exact compareChars_lt_eq_unitsBefore unitsKeepOrder_outside_high _ _ h
  · exact compareChars_lt_eq_unitsBefore unitsKeepOrder_basic _ _ h

theorem Utf16Ordered.symm {s t : String} (h : Utf16Ordered s t) : Utf16Ordered t s := by
  have hmem : ∀ c, c ∈ t.toList ++ s.toList → c ∈ s.toList ++ t.toList := by
    intro c hc
    simp only [List.mem_append] at hc ⊢
    exact hc.symm
  rcases h with h | h
  · exact .inl fun c hc => h c (hmem c hc)
  · exact .inr fun c hc => h c (hmem c hc)

/-! ## The operators -/

theorem toPrimitive_of_ne_array {v : Value} (h : ∀ items, v ≠ .array items) :
    toPrimitive v = v := by
  cases v with
  | array items => exact absurd rfl (h items)
  | _ => rfl

/-- Two values that are not both strings compare by number in the evaluator. -/
theorem compare_of_not_strings {a b : Value} (h : ¬∃ s t, a = .str s ∧ b = .str t) :
    Value.compare a b = compareNumbers a.toNumber b.toNumber := by
  unfold Value.compare
  split
  · exact absurd ⟨_, _, rfl, rfl⟩ h
  · rfl

/-- Two values that are not both strings compare by number by the rule. -/
theorem isLessThan_of_not_strings {a b : Value} (h : ¬∃ s t, a = .str s ∧ b = .str t) :
    isLessThan a b = numberBefore a.toNumber b.toNumber := by
  unfold isLessThan
  split
  · exact absurd ⟨_, _, rfl, rfl⟩ h
  · rfl

/-- The evaluator's relational operators follow the language's rule, IsLessThan, on operands that
are not arrays, when two strings are compared whose code point order is their UTF-16 order. -/
theorem binaryValue_relational {op : BinaryOp} (hop : op ∈ [BinaryOp.lt, .ltEq, .gt, .gtEq])
    {a b : Value} (ha : ∀ items, a ≠ .array items) (hb : ∀ items, b ≠ .array items)
    (hs : ∀ s t, a = .str s → b = .str t → Utf16Ordered s t) :
    Eval.binaryValue op a b = .bool (relationalResult op a b) := by
  have hpa := toPrimitive_of_ne_array ha
  have hpb := toPrimitive_of_ne_array hb
  simp only [List.mem_cons, List.not_mem_nil, or_false] at hop
  by_cases hstr : ∃ s t, a = .str s ∧ b = .str t
  · -- two strings: by code points in the evaluator, by code units in the rule
    obtain ⟨s, t, rfl, rfl⟩ := hstr
    have hst := compareChars_lt_eq_utf16 (hs s t rfl rfl)
    have hts := compareChars_lt_eq_utf16 (hs s t rfl rfl).symm
    rw [compareChars_swap] at hts
    rcases hop with rfl | rfl | rfl | rfl <;>
      simp only [Eval.binaryValue, relationalResult, hpa, hpb, Value.compare, isLessThan] <;>
      cases hc : compareChars s.toList t.toList <;> simp_all
  · -- anything else: by number in both
    have hcmp := compare_of_not_strings hstr
    have hab := isLessThan_of_not_strings hstr
    have hba : isLessThan b a = numberBefore b.toNumber a.toNumber := by
      refine isLessThan_of_not_strings ?_
      rintro ⟨t, s, rfl, rfl⟩
      exact hstr ⟨s, t, rfl, rfl⟩
    rcases hop with rfl | rfl | rfl | rfl
    · simp only [Eval.binaryValue, relationalResult, hpa, hpb, hcmp, hab, compareNumbers_lt]
    · simp only [Eval.binaryValue, relationalResult, hpa, hpb, hcmp, hba, compareNumbers_le]
    · simp only [Eval.binaryValue, relationalResult, hpa, hpb, hcmp, hba, compareNumbers_gt]
    · simp only [Eval.binaryValue, relationalResult, hpa, hpb, hcmp, hab, compareNumbers_ge]

/-- `"Z" < "a"`: code points and code units both put upper case first. -/
theorem upper_before_lower :
    Eval.binaryValue .lt (.str "Z") (.str "a") = .bool (relationalResult .lt (.str "Z") (.str "a")) :=
  binaryValue_relational (by simp) (fun _ h => by cases h) (fun _ h => by cases h)
    (fun s t hs ht => by cases hs; cases ht; exact .inr (by simp))

-- Outside the theorem the two part: U+E000 is one code unit, above the high surrogate that
-- starts U+10000.
example : relationalResult .lt (.str "") (.str "𐀀") = false := by decide
example : (Eval.binaryValue .lt (.str "") (.str "𐀀")).truthy = true := by decide

end Reactive
