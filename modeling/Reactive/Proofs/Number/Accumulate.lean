import Mathlib
import Reactive.Number.Read

/-!
# Accumulating digits never makes not-a-number

An integer prefix is read in double arithmetic: each digit multiplies the running value by the
radix and adds the digit (`digitStep`). This file shows that the running value stays a number at
least zero (`AtLeastZero`: a zero of either sign, a positive finite double or positive infinity)
whenever the radix is from 2 to 36, so a run of digits, negated or not, never reads as
not-a-number (`atLeastZero_foldl_digitStep`).

The argument goes through the unpacked model of doubles. Rounding, normalizing and packing keep
the sign of a number and never make not-a-number (`hasSign_roundWithAccuracy`,
`hasSign_unpack_pack`). A product is not-a-number only for an infinity times a zero, and a sum
only for infinities of opposite signs; with a positive finite radix and a running value and a
digit both at least zero, neither arises (`hasSign_mul`, `hasSign_add`).

It also states the digit reader as a fold over the run of leading digits
(`accumulateDigits_some`, `accumulateDigits_none`).
-/

namespace Reactive.Number

open Float.Model (Format UnpackedFloat)
open Float.Model.UnpackedFloat

/-! ## Unpacked doubles with a sign -/

/-- An unpacked double that is a number of sign `s`: a zero (of either sign), or a finite value or
an infinity of that sign. -/
def HasSign (s : Sign) : UnpackedFloat → Bool
  | .zero _ => true
  | .finite t .. => t == s
  | .infinity t => t == s
  | .notANumber => false

theorem HasSign.isNaN_eq_false {s : Sign} {u : UnpackedFloat} (h : HasSign s u = true) :
    u.isNaN = false := by
  cases u <;> simp_all [HasSign, UnpackedFloat.isNaN]

theorem hasSign_neg {s : Sign} {u : UnpackedFloat} (h : HasSign s u = true) :
    HasSign (-s) u.neg = true := by
  cases u <;> cases s <;> simp_all [HasSign, UnpackedFloat.neg]

/-- Rounding gives a zero or a finite value of the sign it is given. -/
theorem hasSign_roundWithAccuracy (spec : Format) (s : Sign) (m : Nat) (e : Int) (acc : Accuracy) :
    HasSign s (roundWithAccuracy spec s m e acc) = true := by
  unfold roundWithAccuracy
  -- whatever the two shifts give, the last step chooses between a zero and a finite value
  generalize shiftToTargetExponent spec m e acc = first
  obtain ⟨em, e₁⟩ := first
  generalize shiftToTargetExponent spec em.roundedMantissa e₁ .exact = last
  obtain ⟨em', e₂⟩ := last
  dsimp only
  split <;> simp [HasSign]

theorem hasSign_round (spec : Format) (s : Sign) (m : Nat) (e : Int) :
    HasSign s (UnpackedFloat.round spec s m e) = true := by
  unfold UnpackedFloat.round
  exact hasSign_roundWithAccuracy ..

/-- A positive sum of mantissas normalizes to a zero or a positive finite value. -/
theorem hasSign_normalize (spec : Format) {m : Int} (hm : 0 < m) (e : Int) (z : Sign) :
    HasSign .positive (UnpackedFloat.normalize spec m e z) = true := by
  have hgt : compare m 0 = .gt := Int.compare_eq_gt.mpr hm
  unfold UnpackedFloat.normalize
  rw [hgt]
  exact hasSign_round ..

/-- Whether an unpacked double is a positive finite value. -/
def IsPositiveFinite : UnpackedFloat → Bool
  | .finite .positive .. => true
  | _ => false

/-- A double at least zero times a positive finite double is at least zero: the one product that
is not-a-number, an infinity times a zero, cannot arise. -/
theorem hasSign_mul (spec : Format) {a b : UnpackedFloat} (ha : HasSign .positive a = true)
    (hb : IsPositiveFinite b = true) : HasSign .positive (UnpackedFloat.mul spec a b) = true := by
  rcases b with _ | _ | _ | ⟨_ | _, m, e, hm⟩ <;> simp [IsPositiveFinite] at hb
  cases a with
  | notANumber => simp [HasSign] at ha
  | zero s => rfl
  | infinity s =>
    simp only [HasSign, beq_iff_eq] at ha
    subst ha
    rfl
  | finite s m' e' hm' =>
    simp only [HasSign, beq_iff_eq] at ha
    subst ha
    exact hasSign_roundWithAccuracy ..

/-- The sum of two doubles at least zero is at least zero: the one sum that is not-a-number, two
infinities of opposite signs, cannot arise. -/
theorem hasSign_add (spec : Format) {a b : UnpackedFloat} (ha : HasSign .positive a = true)
    (hb : HasSign .positive b = true) : HasSign .positive (UnpackedFloat.add spec a b) = true := by
  cases a with
  | notANumber => simp [HasSign] at ha
  | zero s =>
    cases b with
    | notANumber => simp [HasSign] at hb
    | zero t => cases s <;> cases t <;> rfl
    | infinity t => exact hb
    | finite t m e hm => exact hb
  | infinity s =>
    simp only [HasSign, beq_iff_eq] at ha
    subst ha
    cases b with
    | notANumber => simp [HasSign] at hb
    | infinity t =>
      simp only [HasSign, beq_iff_eq] at hb
      subst hb
      rfl
    | zero t => rfl
    | finite t m e hm => rfl
  | finite s m e hm =>
    simp only [HasSign, beq_iff_eq] at ha
    subst ha
    cases b with
    | notANumber => simp [HasSign] at hb
    | infinity t => exact hb
    | zero t => rfl
    | finite t m' e' hm' =>
      simp only [HasSign, beq_iff_eq] at hb
      subst hb
      -- both mantissas are positive after aligning the exponents, and so is their sum
      unfold UnpackedFloat.add
      apply hasSign_normalize
      simp only [Sign.apply, Nat.shiftLeft_eq]
      have h1 : 0 < m * 2 ^ (e - min e e').toNat := Nat.mul_pos hm (Nat.two_pow_pos _)
      have h2 : 0 < m' * 2 ^ (e' - min e e').toNat := Nat.mul_pos hm' (Nat.two_pow_pos _)
      omega

/-! ## Packing into 64 bits -/

theorem unpack_packedInfinity (s : Sign) :
    unpack .binary64 (packedInfinity .binary64 s) = .infinity s := by
  simp [unpack, packedInfinity]

/-- Bits whose exponent field is not all ones unpack to a zero or a finite value of their sign. -/
theorem hasSign_unpack_packComponents (s : Sign) {e : BitVec 11} (m : BitVec 52)
    (he : e ≠ -1#11) : HasSign s (unpack .binary64 (packComponents .binary64 s e m)) = true := by
  simp only [unpack, unpackExponent_packComponents, unpackMantissa_packComponents,
    unpackSign_packComponents, Sign.ofBitVec_toBitVec]
  rw [if_neg he]
  split
  · split <;> simp [HasSign]
  · simp [HasSign]

/-- Packing into 64 bits keeps the sign of a number and never makes not-a-number of it. -/
theorem hasSign_unpack_pack {s : Sign} {u : UnpackedFloat} (h : HasSign s u = true) :
    HasSign s (unpack .binary64 (UnpackedFloat.pack .binary64 u)) = true := by
  cases u with
  | notANumber => simp [HasSign] at h
  | zero t =>
    rw [UnpackedFloat.pack, unpack_packedZero]
    rfl
  | infinity t =>
    simp only [HasSign, beq_iff_eq] at h
    subst h
    rw [UnpackedFloat.pack, unpack_packedInfinity]
    simp [HasSign]
  | finite t m e hm =>
    simp only [HasSign, beq_iff_eq] at h
    subst h
    unfold UnpackedFloat.pack
    dsimp only
    split
    · rw [unpack_packedInfinity]
      simp [HasSign]
    · rename_i hbig
      split
      · -- a normal value: its biased exponent is below the all-ones field
        apply hasSign_unpack_packComponents
        intro heq
        have := congrArg BitVec.toNat heq
        simp [BitVec.toNat_ofNat] at this hbig
        omega
      · exact hasSign_unpack_packComponents _ _ (by decide)

/-! ## Doubles at least zero -/

/-- A double that is a number at least zero: a zero of either sign, a positive finite value or
positive infinity. -/
def AtLeastZero (x : Float) : Prop := HasSign .positive x.toModel.unpack = true

theorem toModel_unpack_mul (x y : Float) : (x * y).toModel.unpack =
    unpack .binary64 (pack .binary64 (UnpackedFloat.mul .binary64 x.toModel.unpack y.toModel.unpack)) :=
  rfl

theorem toModel_unpack_add (x y : Float) : (x + y).toModel.unpack =
    unpack .binary64 (pack .binary64 (UnpackedFloat.add .binary64 x.toModel.unpack y.toModel.unpack)) :=
  rfl

theorem toModel_unpack_neg (x : Float) :
    (-x).toModel.unpack = unpack .binary64 (pack .binary64 x.toModel.unpack.neg) :=
  rfl

section
variable {x y : Float}

theorem AtLeastZero.mul (hx : AtLeastZero x) (hy : IsPositiveFinite y.toModel.unpack = true) :
    AtLeastZero (x * y) := by
  unfold AtLeastZero
  rw [toModel_unpack_mul]
  exact hasSign_unpack_pack (hasSign_mul _ hx hy)

theorem AtLeastZero.add (hx : AtLeastZero x) (hy : AtLeastZero y) : AtLeastZero (x + y) := by
  unfold AtLeastZero
  rw [toModel_unpack_add]
  exact hasSign_unpack_pack (hasSign_add _ hx hy)

theorem AtLeastZero.isNaN_eq_false (hx : AtLeastZero x) : x.isNaN = false :=
  HasSign.isNaN_eq_false hx

/-- The negation of a double at least zero is a number too. -/
theorem AtLeastZero.isNaN_neg_eq_false (hx : AtLeastZero x) : (-x).isNaN = false := by
  show (-x).toModel.unpack.isNaN = false
  rw [toModel_unpack_neg]
  exact HasSign.isNaN_eq_false (hasSign_unpack_pack (hasSign_neg hx))

end

/-- Zero is at least zero. -/
theorem atLeastZero_zero : AtLeastZero 0 := by
  unfold AtLeastZero
  decide +kernel

/-- The doubles nearest to `0` .. `36` are zero or positive finite: the digits and radices a
reading takes. -/
theorem atLeastZero_ofNatNearest_small : ∀ n < 37, AtLeastZero (ofNatNearest n) := by
  unfold AtLeastZero
  decide +kernel

/-- The doubles nearest to the radices `2` .. `36` are positive finite. -/
theorem isPositiveFinite_ofNatNearest_radix :
    ∀ n < 37, 2 ≤ n → IsPositiveFinite (ofNatNearest n).toModel.unpack = true := by
  decide +kernel

/-! ## Reading digits -/

/-- The longest run of leading characters that are digits of radix `r`. -/
def digitRun (r : Nat) (cs : List Char) : List Char :=
  cs.takeWhile fun c => (digitIn r c).isSome

/-- One step of reading a digit in radix `r`: the running value times the radix, plus the
digit. -/
def digitStep (r : Nat) (v : Float) (c : Char) : Float :=
  v * ofNatNearest r + ofNatNearest ((digitIn r c).getD 0)

theorem digitIn_lt {r : Nat} {c : Char} {d : Nat} (h : digitIn r c = some d) : d < r := by
  unfold digitIn at h
  dsimp only at h
  split at h
  · split at h
    · exact (Option.some.inj h) ▸ ‹_›
    · cases h
  · cases h

/-- Reading digits onto a running value folds the digit step over the digit run. -/
theorem accumulateDigits_some (r : Nat) (cs : List Char) (a : Float) :
    accumulateDigits r cs (some a) = some ((digitRun r cs).foldl (digitStep r) a) := by
  induction cs generalizing a with
  | nil => rfl
  | cons c rest ih =>
    rw [accumulateDigits]
    cases hd : digitIn r c with
    | none =>
      rw [digitRun, List.takeWhile_cons_of_neg (by simp [hd])]
      rfl
    | some d =>
      rw [digitRun, List.takeWhile_cons_of_pos (by simp [hd]), List.foldl_cons]
      simp only [Option.getD_some]
      rw [ih]
      simp [digitStep, digitRun, hd]

/-- Reading digits from nothing: nothing when no digit leads, else the digit step folded over the
digit run from zero. -/
theorem accumulateDigits_none (r : Nat) (cs : List Char) :
    accumulateDigits r cs none =
      if digitRun r cs = [] then none else some ((digitRun r cs).foldl (digitStep r) 0) := by
  cases cs with
  | nil => rfl
  | cons c rest =>
    rw [accumulateDigits]
    cases hd : digitIn r c with
    | none =>
      have hrun : digitRun r (c :: rest) = [] := List.takeWhile_cons_of_neg (by simp [hd])
      rw [hrun, if_pos rfl]
    | some d =>
      have hrun : digitRun r (c :: rest) = c :: digitRun r rest :=
        List.takeWhile_cons_of_pos (by simp [hd])
      rw [hrun, if_neg (List.cons_ne_nil _ _), List.foldl_cons]
      simp only [Option.getD_none]
      rw [accumulateDigits_some]
      simp [digitStep, hd]

/-- In a radix from 2 to 36, the digit step keeps a running value at least zero, so reading
digits never makes not-a-number. -/
theorem atLeastZero_foldl_digitStep {r : Nat} (hr2 : 2 ≤ r) (hr : r ≤ 36) :
    ∀ (ds : List Char) {a : Float}, AtLeastZero a → AtLeastZero (ds.foldl (digitStep r) a)
  | [], _, ha => ha
  | c :: rest, a, ha => by
    rw [List.foldl_cons]
    apply atLeastZero_foldl_digitStep hr2 hr rest
    -- the digit is below the radix, so at most 35; the radix is a positive finite double
    have hdigit : (digitIn r c).getD 0 < 37 := by
      cases hd : digitIn r c with
      | none => simp
      | some d =>
        have := digitIn_lt hd
        simp only [Option.getD_some]
        omega
    exact (ha.mul (isPositiveFinite_ofNatNearest_radix r (by omega) hr2)).add
      (atLeastZero_ofNatNearest_small _ hdigit)

end Reactive.Number
