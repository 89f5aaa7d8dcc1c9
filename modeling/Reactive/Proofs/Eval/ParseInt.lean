import Reactive.Proofs.Number.Accumulate
import Reactive.Proofs.Value.NumericString
import Reactive.Eval

/-!
# Reading an integer prefix

`parseInt(x, r)` reads the text of `x` after its leading white space: an optional sign, then
the longest run of digits of the radix, each digit taken in double arithmetic. The text's side
is the grammar `IntPrefix r cs neg ds`: white space, a written sign (`neg` for a minus), the
digits `ds` of radix `r`, and a rest that starts with no such digit. Every text has a reading
(`exists_intPrefix`). By any reading the reader answers not-a-number exactly when the radix is
outside 2 to 36 or no digit leads, and otherwise the value of the digits with the sign
(`IntPrefix.readIntPrefix_trimStart`, `IntPrefix.isNaN_readIntPrefix_iff`); that digits never
read as not-a-number is `atLeastZero_foldl_digitStep`.

The radix follows `RadixOf` (`radixOf_iff`): ten with no second argument, or when its number is
not-a-number or a zero; otherwise that number truncated toward zero and held to 32 bits, so zero
at or below zero and 4294967295 from 2^32 up, both outside 2 to 36. In between it is the integer
part of the number's exact value `m · 2^e`, read from its binary view, which is finite there.
A fraction below one, an infinity and a number from 2^32 up thus read no digit at all, where a
conversion to a 32-bit integer would read them in radix ten or in radix `n mod 2^32`.

White space is Unicode White_Space, as for every trim of the runtime, and no `0x` marker is
read: `"0x1F"` is `0`. The main statement is `parseInt_reads_int_prefix`.
-/

namespace Reactive

open Eval Number Text Value

/-! ## The grammar of an integer prefix -/

/-- How a text reads as an integer in radix `r`: white space, an optional sign (`neg` says
whether it negates), the digits `ds` of radix `r` that follow, and a rest that does not start
with one. -/
inductive IntPrefix (r : Nat) : List Char → Bool → List Char → Prop
  | mk {ws sign ds rest : List Char} {neg : Bool} :
      (∀ c ∈ ws, isWhiteSpace c = true) →
      (∀ c ∈ (sign ++ ds ++ rest).head?, isWhiteSpace c = false) →
      SignPart sign neg → (sign = [] → NoSignHead (ds ++ rest)) →
      (∀ c ∈ ds, (digitIn r c).isSome) → (∀ c ∈ rest.head?, digitIn r c = none) →
      IntPrefix r (ws ++ sign ++ ds ++ rest) neg ds

/-- The value of the digits `ds` of radix `r`: each digit multiplies the running value by the
radix and adds itself, in double arithmetic, and a minus sign negates the result. -/
def signedDigits (neg : Bool) (r : Nat) (ds : List Char) : Float :=
  if neg then -(ds.foldl (digitStep r) 0) else ds.foldl (digitStep r) 0

/-! ## White space -/

theorem dropBlank_eq_dropWhile (l : List Char) : dropBlank l = l.dropWhile isWhiteSpace := by
  induction l with
  | nil => rfl
  | cons c l ih =>
    by_cases hc : isWhiteSpace c = true
    · rw [dropBlank, if_pos hc, List.dropWhile_cons_of_pos hc, ih]
    · rw [dropBlank, if_neg hc, List.dropWhile_cons_of_neg hc]

/-- What is left after the leading white space does not start with white space. -/
theorem head_dropBlank (l : List Char) : ∀ c ∈ (dropBlank l).head?, isWhiteSpace c = false := by
  intro c hc
  have h := List.head?_dropWhile_not isWhiteSpace l
  rw [← dropBlank_eq_dropWhile, Option.mem_def.mp hc] at h
  exact h

/-- A list that does not start with white space has none to drop. -/
theorem dropBlank_of_head {l : List Char} (h : ∀ c ∈ l.head?, isWhiteSpace c = false) :
    dropBlank l = l := by
  cases l with
  | nil => rfl
  | cons c l => exact dropBlank_of_not_blank (h c rfl) l

/-! ## Signs and digits -/

/-- A list that starts with neither sign character. -/
theorem noSignHead_of_ne {cs : List Char} (hminus : ∀ rest, cs = '-' :: rest → False)
    (hplus : ∀ rest, cs = '+' :: rest → False) : NoSignHead cs := by
  intro c hc
  cases cs with
  | nil => cases hc
  | cons d t =>
    rw [List.head?_cons, Option.mem_def, Option.some.injEq] at hc
    subst hc
    exact ⟨fun h => hplus t (h ▸ rfl), fun h => hminus t (h ▸ rfl)⟩

/-- The sign the reader splits off is a written sign, and with no sign what follows starts with
none. -/
theorem signSplit_parts (cs : List Char) :
    ∃ sign, SignPart sign (signSplit cs).1 ∧ (sign = [] → NoSignHead (signSplit cs).2) ∧
      cs = sign ++ (signSplit cs).2 := by
  unfold signSplit
  split
  · exact ⟨['+'], .plus, (fun h => by cases h), rfl⟩
  · exact ⟨['-'], .minus, (fun h => by cases h), rfl⟩
  · rename_i hplus hminus
    exact ⟨[], .none, fun _ => noSignHead_of_ne hminus hplus, rfl⟩

/-- The run of leading digits of digits followed by a non-digit is those digits. -/
theorem digitRun_append {r : Nat} {ds rest : List Char} (hds : ∀ c ∈ ds, (digitIn r c).isSome)
    (hrest : ∀ c ∈ rest.head?, digitIn r c = none) : digitRun r (ds ++ rest) = ds := by
  unfold digitRun
  rw [List.takeWhile_append_of_pos hds]
  cases rest with
  | nil => rw [List.takeWhile_nil, List.append_nil]
  | cons c t =>
    rw [List.takeWhile_cons_of_neg (by simp [hrest c rfl]), List.append_nil]

/-- The digits that lead a list, and the rest, which starts with no digit. -/
theorem digitRun_parts (r : Nat) (cs : List Char) :
    (∀ c ∈ digitRun r cs, (digitIn r c).isSome) ∧
      ∀ c ∈ (cs.dropWhile fun c => (digitIn r c).isSome).head?, digitIn r c = none := by
  refine ⟨fun c hc => List.mem_takeWhile_imp (p := fun c => (digitIn r c).isSome) hc,
    fun c hc => ?_⟩
  have h := List.head?_dropWhile_not (fun c => (digitIn r c).isSome) cs
  rw [Option.mem_def.mp hc] at h
  simpa using h

/-- With a sign written, or with none and no sign character next, the whole sign is split
off. -/
theorem signSplit_sign_append {sign body : List Char} {neg : Bool} (hs : SignPart sign neg)
    (hb : sign = [] → NoSignHead body) : signSplit (sign ++ body) = (neg, body) := by
  cases hs with
  | none => exact signSplit_of_signPart .none (hb rfl)
  | plus => rfl
  | minus => rfl

/-! ## The reader -/

/-- The reader splits off a sign as `signSplit` does, reads the run of digits after it and
negates the value for a minus sign. It gives not-a-number when the radix is outside 2 to 36 or
no digit leads. -/
theorem readIntPrefix_eq (s : String) (r : Nat) :
    readIntPrefix s r =
      if r < 2 ∨ 36 < r then notANumber
      else (accumulateDigits r (signSplit s.toList).2 none).elim notANumber
        fun v => if (signSplit s.toList).1 then -v else v := by
  unfold readIntPrefix
  by_cases hr : r < 2 ∨ 36 < r
  · rw [if_pos hr, if_pos hr]
  · rw [if_neg hr, if_neg hr]
    split
    rename_i neg body heq
    -- the reader tests `-` before `+` and `signSplit` the other way round: the patterns are
    -- disjoint, so both split the same sign
    have hsplit : signSplit s.toList = (neg, body) := by
      split at heq
      · rename_i rest hcs
        rw [hcs]
        exact heq
      · rename_i rest hcs
        rw [hcs]
        exact heq
      · rename_i hminus hplus
        rw [← heq]
        exact signSplit_of_signPart .none (noSignHead_of_ne hminus hplus)
    rw [hsplit]
    cases accumulateDigits r body none <;> rfl

/-- Not-a-number is not-a-number. -/
theorem isNaN_notANumber : notANumber.isNaN = true := by
  decide +kernel

/-- In a radix from 2 to 36, digits read as a number, negated or not. -/
theorem isNaN_signedDigits {r : Nat} (hr2 : 2 ≤ r) (hr : r ≤ 36) (neg : Bool) (ds : List Char) :
    (signedDigits neg r ds).isNaN = false := by
  have h := atLeastZero_foldl_digitStep hr2 hr ds atLeastZero_zero
  unfold signedDigits
  cases neg
  · exact h.isNaN_eq_false
  · exact h.isNaN_neg_eq_false

/-! ## Every text has a reading -/

/-- Every text reads by the grammar: its leading white space, the sign the reader splits off,
the digit run after it and the rest. -/
theorem exists_intPrefix (r : Nat) (cs : List Char) : ∃ neg ds, IntPrefix r cs neg ds := by
  obtain ⟨ws, hws, hcs⟩ := exists_blank_append_dropBlank cs
  obtain ⟨sign, hsign, hnohead, hsplit⟩ := signSplit_parts (dropBlank cs)
  generalize (signSplit (dropBlank cs)).1 = neg at hsign
  generalize (signSplit (dropBlank cs)).2 = body at hnohead hsplit
  obtain ⟨hds, hrest⟩ := digitRun_parts r body
  -- the body is its digit run and what follows it
  have hbody : body = digitRun r body ++ body.dropWhile fun c => (digitIn r c).isSome :=
    List.takeWhile_append_dropWhile.symm
  have hparts :
      cs = ws ++ sign ++ digitRun r body ++ body.dropWhile fun c => (digitIn r c).isSome := by
    rw [List.append_assoc _ (digitRun r body), ← hbody, List.append_assoc, ← hsplit, ← hcs]
  refine ⟨neg, digitRun r body, ?_⟩
  rw [hparts]
  refine IntPrefix.mk hws ?_ hsign ?_ hds hrest
  · rw [List.append_assoc, ← hbody, ← hsplit]
    exact head_dropBlank cs
  · rw [← hbody]
    exact hnohead

section
variable {r : Nat} {s : String} {neg : Bool} {ds : List Char}

/-- A reading of the text gives the reader's answer: not-a-number when the radix is outside 2
to 36 or no digit leads, and otherwise the value of the digits with the sign. -/
theorem IntPrefix.readIntPrefix_trimStart (h : IntPrefix r s.toList neg ds) :
    readIntPrefix (trimStart s) r =
      if r < 2 ∨ 36 < r ∨ ds = [] then notANumber else signedDigits neg r ds := by
  generalize hcs : s.toList = cs at h
  cases h with
  | mk hws hhead hsign hnohead hds hrest =>
    rename_i ws sign rest
    have htrim : (trimStart s).toList = sign ++ (ds ++ rest) := by
      rw [trimStart, String.toList_ofList, hcs, List.append_assoc, List.append_assoc,
        dropBlank_append hws, ← List.append_assoc, dropBlank_of_head hhead, List.append_assoc]
    rw [readIntPrefix_eq, htrim, signSplit_sign_append hsign hnohead, accumulateDigits_none,
      digitRun_append hds hrest]
    by_cases hr : r < 2 ∨ 36 < r
    · rw [if_pos hr, if_pos (Or.imp_right Or.inl hr)]
    · by_cases hd : ds = []
      · rw [if_neg hr, if_pos hd, if_pos (Or.inr (Or.inr hd))]
        rfl
      · have hread : ¬(r < 2 ∨ 36 < r ∨ ds = []) := by
          rw [← or_assoc]
          exact not_or.mpr ⟨hr, hd⟩
        rw [if_neg hr, if_neg hd, if_neg hread]
        rfl

/-- By a reading of the text, the answer is not-a-number exactly when the radix is outside 2 to
36 or no digit leads. -/
theorem IntPrefix.isNaN_readIntPrefix_iff (h : IntPrefix r s.toList neg ds) :
    (readIntPrefix (trimStart s) r).isNaN = true ↔ r < 2 ∨ 36 < r ∨ ds = [] := by
  rw [h.readIntPrefix_trimStart]
  by_cases hc : r < 2 ∨ 36 < r ∨ ds = []
  · rw [if_pos hc]
    exact iff_of_true isNaN_notANumber hc
  · rw [if_neg hc]
    have hr : 2 ≤ r ∧ r ≤ 36 := by omega
    rw [isNaN_signedDigits hr.1 hr.2]
    exact iff_of_false Bool.false_ne_true hc

/-- By a reading of the text with digits, in a radix from 2 to 36, the answer is the value of
the digits with the sign. -/
theorem IntPrefix.readIntPrefix_of_digits (h : IntPrefix r s.toList neg ds) (hr2 : 2 ≤ r)
    (hr : r ≤ 36) (hds : ds ≠ []) : readIntPrefix (trimStart s) r = signedDigits neg r ds := by
  rw [h.readIntPrefix_trimStart, if_neg (not_or.mpr ⟨by omega, not_or.mpr ⟨by omega, hds⟩⟩)]

end

/-! ## The radix -/

namespace Number

open Float.Model (UnpackedFloat)

theorem toNat_toBits (x : Float) : x.toBits.toBitVec.toNat = x.toBits.toNat := rfl

theorem toModel_unpack (x : Float) :
    x.toModel.unpack = UnpackedFloat.unpack .binary64 x.toBits.toBitVec :=
  rfl

theorem unpackExponent_toNat (b : BitVec 64) :
    (@UnpackedFloat.unpackExponent .binary64 b).toNat = b.toNat / 2 ^ 52 % 2048 := by
  unfold UnpackedFloat.unpackExponent
  rw [BitVec.toNat_cast, BitVec.extractLsb_toNat, Nat.shiftRight_eq_div_pow]
  rfl

theorem unpackMantissa_toNat (b : BitVec 64) :
    (@UnpackedFloat.unpackMantissa .binary64 b).toNat = b.toNat % 2 ^ 52 := by
  unfold UnpackedFloat.unpackMantissa
  rw [BitVec.toNat_cast, BitVec.extractLsb_toNat, Nat.shiftRight_zero]
  rfl

/-- An exponent field of all ones, as the binary view reads it, is the one the model reads. -/
theorem unpackExponent_of_field {x : Float} (hf : x.toBits.toNat / Nat.pow 2 52 % 2048 = 2047) :
    @UnpackedFloat.unpackExponent .binary64 x.toBits.toBitVec = -1#11 := by
  apply BitVec.eq_of_toNat_eq
  rw [unpackExponent_toNat, toNat_toBits, ← Nat.pow_eq, hf]
  rfl

theorem unpackMantissa_eq_zero_iff (x : Float) :
    @UnpackedFloat.unpackMantissa .binary64 x.toBits.toBitVec = 0#52 ↔
      x.toBits.toNat % Nat.pow 2 52 = 0 := by
  rw [← BitVec.toNat_inj, unpackMantissa_toNat, toNat_toBits, Nat.pow_eq]
  rfl

/-- Below an exponent field of all ones, the binary view is finite. -/
theorem ofFloat_finite_of_field {x : Float} (hf : x.toBits.toNat / Nat.pow 2 52 % 2048 ≠ 2047) :
    ∃ neg m e, Binary.ofFloat x = .finite neg m e := by
  unfold Binary.ofFloat
  dsimp only
  rw [if_neg (mt beq_iff_eq.mp hf)]
  by_cases hz : x.toBits.toNat / Nat.pow 2 52 % 2048 = 0
  · rw [if_pos (beq_iff_eq.mpr hz)]
    exact ⟨_, _, _, rfl⟩
  · rw [if_neg (mt beq_iff_eq.mp hz)]
    exact ⟨_, _, _, rfl⟩

/-- A double the binary view reads as not-a-number is not-a-number. -/
theorem isNaN_of_ofFloat_nan {x : Float} (h : Binary.ofFloat x = .nan) : x.isNaN = true := by
  by_cases hf : x.toBits.toNat / Nat.pow 2 52 % 2048 = 2047
  · by_cases hm : x.toBits.toNat % Nat.pow 2 52 = 0
    · unfold Binary.ofFloat at h
      dsimp only at h
      rw [if_pos (beq_iff_eq.mpr hf), if_pos (beq_iff_eq.mpr hm)] at h
      cases h
    · show (UnpackedFloat.unpack .binary64 x.toBits.toBitVec).isNaN = true
      unfold UnpackedFloat.unpack
      rw [if_pos (unpackExponent_of_field hf), if_neg (mt (unpackMantissa_eq_zero_iff x).mp hm)]
      rfl
  · obtain ⟨neg, m, e, hfin⟩ := ofFloat_finite_of_field hf
    rw [hfin] at h
    cases h

/-- A double the binary view reads as an infinity is an infinity of the model. -/
theorem unpack_of_ofFloat_infinite {x : Float} {neg : Bool}
    (h : Binary.ofFloat x = .infinite neg) : ∃ s, x.toModel.unpack = .infinity s := by
  by_cases hf : x.toBits.toNat / Nat.pow 2 52 % 2048 = 2047
  · by_cases hm : x.toBits.toNat % Nat.pow 2 52 = 0
    · rw [toModel_unpack]
      unfold UnpackedFloat.unpack
      rw [if_pos (unpackExponent_of_field hf), if_pos ((unpackMantissa_eq_zero_iff x).mpr hm)]
      exact ⟨_, rfl⟩
    · unfold Binary.ofFloat at h
      dsimp only at h
      rw [if_pos (beq_iff_eq.mpr hf), if_neg (mt beq_iff_eq.mp hm)] at h
      cases h
  · obtain ⟨neg, m, e, hfin⟩ := ofFloat_finite_of_field hf
    rw [hfin] at h
    cases h

/-- An infinity is at or below zero, or at or above 2^32. -/
theorem le_zero_or_ge_of_infinity {x : Float} {s : UnpackedFloat.Sign}
    (h : x.toModel.unpack = .infinity s) : x ≤ 0.0 ∨ x ≥ 4294967296.0 := by
  show x.le 0.0 = true ∨ Float.le 4294967296.0 x = true
  simp only [Float.le, decide_eq_true_eq]
  show x.toModel.unpack.le (0.0 : Float).toModel.unpack = true ∨
    (4294967296.0 : Float).toModel.unpack.le x.toModel.unpack = true
  rw [h]
  cases s <;> decide +kernel

/-- The integer part of a finite double's magnitude is the floor of its exact value
`m · 2^e`. -/
theorem truncMagnitude_eq_floor {x : Float} {neg : Bool} {m : Nat} {e : Int}
    (hx : Binary.ofFloat x = .finite neg m e) : truncMagnitude x = ⌊(m : ℚ) * 2 ^ e⌋₊ := by
  unfold truncMagnitude
  rw [hx]
  dsimp only
  split_ifs with he
  · have h2 : (2 : ℚ) ^ e = ((2 ^ e.toNat : ℕ) : ℚ) := by
      rw [Nat.cast_pow, ← zpow_natCast, Int.toNat_of_nonneg he]
      rfl
    rw [h2, ← Nat.cast_mul, Nat.floor_natCast, Nat.pow_eq]
  · have h2 : (2 : ℚ) ^ e = (((2 ^ (-e).toNat : ℕ) : ℚ))⁻¹ := by
      rw [Nat.cast_pow, ← zpow_natCast, Int.toNat_of_nonneg (by omega), ← zpow_neg, neg_neg]
      rfl
    rw [h2, ← div_eq_mul_inv, Nat.floor_div_eq_div, Nat.pow_eq]

end Number

/-- The radix a second argument gives, by the number it converts to: ten when there is none,
and for not-a-number and the zeros; otherwise the number truncated toward zero and held to 32
bits: zero at or below zero, 4294967295 from 2^32 up, and in between the integer part of the
number's exact value `m · 2^e`. -/
inductive RadixOf : Option Float → Nat → Prop
  | absent : RadixOf none 10
  | nan {x : Float} : x.isNaN = true → RadixOf (some x) 10
  | zero {x : Float} : x.isNaN = false → (x == 0.0) = true → RadixOf (some x) 10
  | below {x : Float} : x.isNaN = false → (x == 0.0) = false → x ≤ 0.0 → RadixOf (some x) 0
  | above {x : Float} : x.isNaN = false → (x == 0.0) = false → ¬x ≤ 0.0 → x ≥ 4294967296.0 →
      RadixOf (some x) 4294967295
  | whole {x : Float} {neg : Bool} {m : Nat} {e : Int} : Binary.ofFloat x = .finite neg m e →
      x.isNaN = false → (x == 0.0) = false → ¬x ≤ 0.0 → ¬x ≥ 4294967296.0 →
      RadixOf (some x) ⌊(m : ℚ) * 2 ^ e⌋₊

/-- The radix `parseInt` reads in follows the rule for its second argument's number. -/
theorem radixOf_parseIntRadix (a : Option Value) :
    RadixOf (a.map Value.toNumber) (parseIntRadix a) := by
  cases a with
  | none => exact .absent
  | some v =>
    show RadixOf (some v.toNumber) (parseIntRadix (some v))
    unfold parseIntRadix
    dsimp only
    generalize v.toNumber = x
    by_cases hn : x.isNaN = true
    · rw [if_pos (by rw [hn, Bool.true_or])]
      exact .nan hn
    have hn' : x.isNaN = false := Bool.eq_false_iff.mpr hn
    by_cases hz : (x == 0.0) = true
    · rw [if_pos (by rw [hn', hz, Bool.false_or])]
      exact .zero hn' hz
    have hz' : (x == 0.0) = false := Bool.eq_false_iff.mpr hz
    rw [if_neg (by rw [hn', hz', Bool.false_or]; exact Bool.false_ne_true)]
    unfold saturatingCount
    by_cases hle : x ≤ 0.0
    · rw [if_pos (by rw [hn', decide_eq_true hle, Bool.false_or])]
      exact .below hn' hz' hle
    rw [if_neg (by rw [hn', decide_eq_false hle, Bool.false_or]; exact Bool.false_ne_true)]
    by_cases hge : x ≥ 4294967296.0
    · rw [if_pos hge]
      exact .above hn' hz' hle hge
    rw [if_neg hge]
    -- between zero and 2^32 the double is finite: not-a-number is ruled out, and each infinity
    -- is at or below zero or at or above 2^32
    cases hb : Binary.ofFloat x with
    | nan => exact absurd (Number.isNaN_of_ofFloat_nan hb) hn
    | infinite neg =>
      obtain ⟨s, hs⟩ := Number.unpack_of_ofFloat_infinite hb
      exact absurd (Number.le_zero_or_ge_of_infinity hs) (not_or.mpr ⟨hle, hge⟩)
    | finite neg m e =>
      rw [Number.truncMagnitude_eq_floor hb]
      exact .whole hb hn' hz' hle hge

/-- The rule gives one radix for each argument, the one `parseInt` reads in. -/
theorem parseIntRadix_of_radixOf {a : Option Value} {n : Nat}
    (h : RadixOf (a.map Value.toNumber) n) : parseIntRadix a = n := by
  cases a with
  | none =>
    cases h
    rfl
  | some v =>
    rw [Option.map_some] at h
    unfold parseIntRadix
    dsimp only
    generalize v.toNumber = x at h
    -- the constructors' guards are the tests of the reader, in its order
    cases h with
    | nan hn => rw [if_pos (by rw [hn, Bool.true_or])]
    | zero hn hz => rw [if_pos (by rw [hn, hz, Bool.or_true])]
    | below hn hz hle =>
      rw [if_neg (by rw [hn, hz, Bool.or_false]; exact Bool.false_ne_true), saturatingCount,
        if_pos (by rw [hn, decide_eq_true hle, Bool.or_true])]
    | above hn hz hle hge =>
      rw [if_neg (by rw [hn, hz, Bool.or_false]; exact Bool.false_ne_true), saturatingCount,
        if_neg (by rw [hn, decide_eq_false hle, Bool.or_false]; exact Bool.false_ne_true),
        if_pos hge]
    | whole hb hn hz hle hge =>
      rw [if_neg (by rw [hn, hz, Bool.or_false]; exact Bool.false_ne_true), saturatingCount,
        if_neg (by rw [hn, decide_eq_false hle, Bool.or_false]; exact Bool.false_ne_true),
        if_neg hge, Number.truncMagnitude_eq_floor hb]

/-- The radix rule as an equation: `RadixOf` relates each argument to exactly the radix
`parseInt` reads in. -/
theorem radixOf_iff {a : Option Value} {n : Nat} :
    RadixOf (a.map Value.toNumber) n ↔ parseIntRadix a = n :=
  ⟨parseIntRadix_of_radixOf, fun h => h ▸ radixOf_parseIntRadix a⟩

/-- A radix below one is zero and one from 2^32 up is 4294967295, both outside 2 to 36. -/
example : parseIntRadix (some (.number 0.5)) = 0 ∧ parseIntRadix (some (.number 4294967306.0)) =
    4294967295 := by decide +kernel

/-! ## `parseInt` -/

theorem globalFunction_parseInt (args : List Value) :
    globalFunction "parseInt" args =
      .number (readIntPrefix (trimStart (args.head?.getD .undefined).toText)
        (parseIntRadix args[1]?)) :=
  rfl

/-- `parseInt` reads the text of its first argument as an integer prefix, in the radix its
second argument gives. The radix follows `RadixOf`. Every text has a reading by the grammar
`IntPrefix`, and by any reading the answer is not-a-number exactly when the radix is outside 2
to 36 or no digit leads; otherwise it is the value of the digits with the sign. -/
theorem parseInt_reads_int_prefix (args : List Value) :
    (∀ n, RadixOf (args[1]?.map Value.toNumber) n ↔ parseIntRadix args[1]? = n) ∧
      (∃ neg ds, IntPrefix (parseIntRadix args[1]?)
        (args.head?.getD .undefined).toText.toList neg ds) ∧
      ∃ y, globalFunction "parseInt" args = .number y ∧
        ∀ neg ds, IntPrefix (parseIntRadix args[1]?)
          (args.head?.getD .undefined).toText.toList neg ds →
          (y.isNaN = true ↔ parseIntRadix args[1]? < 2 ∨ 36 < parseIntRadix args[1]? ∨ ds = []) ∧
          (2 ≤ parseIntRadix args[1]? → parseIntRadix args[1]? ≤ 36 → ds ≠ [] →
            y = signedDigits neg (parseIntRadix args[1]?) ds) := by
  refine ⟨fun _ => radixOf_iff, exists_intPrefix _ _, _, globalFunction_parseInt args, ?_⟩
  intro neg ds h
  exact ⟨h.isNaN_readIntPrefix_iff, h.readIntPrefix_of_digits⟩

/-- `parseInt("  -ff9z", 16.9)` reads in radix sixteen, the integer part of `16.9`, and reads the
digits `ff9`, negated. -/
theorem parseInt_reads_hex_digits :
    parseIntRadix [Value.str "  -ff9z", .number 16.9][1]? = 16 ∧
      globalFunction "parseInt" [.str "  -ff9z", .number 16.9] =
        .number (signedDigits true 16 ['f', 'f', '9']) := by
  obtain ⟨hradix, -, y, hy, hall⟩ := parseInt_reads_int_prefix [.str "  -ff9z", .number 16.9]
  -- `16.9` is `4756927106410086 · 2^-48`
  have hfloor : ⌊((4756927106410086 : ℕ) : ℚ) * 2 ^ (-48 : ℤ)⌋₊ = 16 := by
    rw [Nat.floor_eq_iff (by positivity)]
    norm_num
  have hr : parseIntRadix [Value.str "  -ff9z", .number 16.9][1]? = 16 :=
    hfloor ▸ (hradix _).mp (.whole rfl (by decide +kernel) (by decide +kernel) (by decide +kernel)
      (by decide +kernel))
  have htext : ([Value.str "  -ff9z", .number 16.9].head?.getD .undefined).toText.toList =
      [' ', ' '] ++ ['-'] ++ ['f', 'f', '9'] ++ ['z'] := by decide
  have hp : IntPrefix 16 ([Value.str "  -ff9z", .number 16.9].head?.getD .undefined).toText.toList
      true ['f', 'f', '9'] := by
    rw [htext]
    refine IntPrefix.mk ?_ ?_ .minus (fun h => by cases h) ?_ ?_
    · intro c hc
      simp only [List.mem_cons, List.not_mem_nil, or_false] at hc
      rcases hc with rfl | rfl <;> rfl
    · intro c hc
      cases hc
      rfl
    · intro c hc
      simp only [List.mem_cons, List.not_mem_nil, or_false] at hc
      rcases hc with rfl | rfl | rfl <;> rfl
    · intro c hc
      cases hc
      rfl
  rw [hr] at hall
  exact ⟨hr, by rw [hy, (hall true _ hp).2 (by decide) (by decide) (by decide)]⟩

/-- No `0x` marker is read: `"0x1F"` and `"0x"` both read as the digit `0` in radix ten. -/
example : globalFunction "parseInt" [.str "0x1F"] = .number (signedDigits false 10 ['0']) := rfl

end Reactive
