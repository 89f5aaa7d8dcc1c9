import Reactive.Value

/-!
# The number a string converts to

The script language converts a string to a number by its grammar StringNumericLiteral: white space
alone, which is zero, or a numeric literal with white space on either side. The runtime takes
white space to be Unicode White_Space, as its trimming does everywhere, and reads decimal literals
only: an optional sign, then `Infinity`, or digits with at most one point, at least one digit and
an optional exponent. Hexadecimal, octal and binary literals are not read.

This file states that grammar as relations between characters and the value a derivation denotes
(`SignPart`, `SignedInteger`, `ExponentPart`, `UnsignedDecimal`, `NumericLiteral`,
`NumericString`) and proves the readers of `Reactive.Number` sound and complete for it. A string
converts to the value of its derivation, and to not-a-number when it has none. An array converts
as the string it joins to, except an array of one element, which converts as that element.
-/

namespace Reactive.Value

open Number Text

/-! ## The grammar -/

/-- A sign written before digits, and whether it negates. -/
inductive SignPart : List Char → Bool → Prop
  | none : SignPart [] false
  | plus : SignPart ['+'] false
  | minus : SignPart ['-'] true

/-- Decimal digits, possibly none. -/
def AllDigits (ds : List Char) : Prop := ∀ c ∈ ds, isDigit c = true

/-- The value of digits, negated or not. -/
def signedValue (neg : Bool) (ds : List Char) : Int :=
  if neg then -(digitsValue ds : Int) else digitsValue ds

/-- A sign and at least one digit, with the integer they denote. -/
inductive SignedInteger : List Char → Int → Prop
  | mk {sign ds : List Char} {neg : Bool} : SignPart sign neg → ds ≠ [] → AllDigits ds →
      SignedInteger (sign ++ ds) (signedValue neg ds)

/-- An exponent part, possibly absent, with the power of ten it gives. -/
inductive ExponentPart : List Char → Int → Prop
  | absent : ExponentPart [] 0
  | present {e : Char} {cs : List Char} {k : Int} : (e = 'e' ∨ e = 'E') → SignedInteger cs k →
      ExponentPart (e :: cs) k

/-- An unsigned decimal literal, denoting `m · 10^k`. -/
inductive UnsignedDecimal : List Char → Nat → Int → Prop
  /-- Digits, a point and digits, a digit on at least one side, then an exponent part. -/
  | pointed {whole frac exp : List Char} {k : Int} : whole ++ frac ≠ [] → AllDigits whole →
      AllDigits frac → ExponentPart exp k →
      UnsignedDecimal (whole ++ '.' :: (frac ++ exp)) (digitsValue (whole ++ frac))
        (k - frac.length)
  /-- Digits, then an exponent part. -/
  | whole {whole exp : List Char} {k : Int} : whole ≠ [] → AllDigits whole → ExponentPart exp k →
      UnsignedDecimal (whole ++ exp) (digitsValue whole) k

/-- A numeric literal and the double it denotes: a sign then `Infinity`, or a sign then an
unsigned decimal literal, whose value is rounded to the nearest double. -/
inductive NumericLiteral : List Char → Float → Prop
  | infinity {sign : List Char} {neg : Bool} : SignPart sign neg →
      NumericLiteral (sign ++ "Infinity".toList) (signedInfinity neg)
  | decimal {sign body : List Char} {neg : Bool} {m : Nat} {k : Int} : SignPart sign neg →
      UnsignedDecimal body m k → NumericLiteral (sign ++ body) (ofDecimal neg m k)

/-- The numeric reading of a string: white space alone is zero, and a numeric literal may have
white space on either side. -/
inductive NumericString : List Char → Float → Prop
  | blank {ws : List Char} : (∀ c ∈ ws, isWhiteSpace c = true) → NumericString ws 0.0
  | literal {pre lit post : List Char} {x : Float} : (∀ c ∈ pre, isWhiteSpace c = true) →
      NumericLiteral lit x → (∀ c ∈ post, isWhiteSpace c = true) →
      NumericString (pre ++ lit ++ post) x

/-! ## Characters -/

theorem isDigit_iff {c : Char} : isDigit c = true ↔ 48 ≤ c.toNat ∧ c.toNat ≤ 57 := by
  simp only [isDigit, Bool.and_eq_true, decide_eq_true_eq, Char.le_def, UInt32.le_iff_toNat_le]
  rfl

theorem isNumeralChar_of_isDigit {c : Char} (h : isDigit c = true) : isNumeralChar c = true := by
  simp [isNumeralChar, h]

/-- Numeral characters are no white space. -/
theorem isWhiteSpace_of_isNumeralChar {c : Char} (h : isNumeralChar c = true) :
    isWhiteSpace c = false := by
  simp only [isNumeralChar, Bool.or_eq_true, decide_eq_true_eq] at h
  rcases h with ((((h | rfl) | rfl) | rfl) | rfl) | rfl
  · rw [isDigit_iff] at h
    simp only [isWhiteSpace, Bool.or_eq_false_iff, Bool.and_eq_false_imp, decide_eq_true_eq,
      decide_eq_false_iff_not, beq_eq_false_iff_ne, ne_eq]
    omega
  all_goals decide

/-- Lowering a numeral character gives a numeral character: only `E` changes. -/
theorem isNumeralChar_asciiLower {c : Char} (h : isNumeralChar c = true) :
    isNumeralChar (asciiLower c) = true := by
  simp only [isNumeralChar, Bool.or_eq_true, decide_eq_true_eq] at h
  rcases h with ((((h | rfl) | rfl) | rfl) | rfl) | rfl
  · have hd := isDigit_iff.mp h
    have hup : ¬('A' ≤ c ∧ c ≤ 'Z') := by
      simp only [Char.le_def, UInt32.le_iff_toNat_le, not_and]
      change 65 ≤ c.toNat → ¬c.toNat ≤ 90
      omega
    rw [asciiLower, if_neg hup]
    exact isNumeralChar_of_isDigit h
  all_goals decide

/-- A text of numeral characters differs from every text that holds another character. -/
theorem ne_of_numeral {t w : String} (ht : ∀ c ∈ t.toList, isNumeralChar c = true)
    (hw : ∃ c ∈ w.toList, isNumeralChar c = false) : t ≠ w := by
  rintro rfl
  obtain ⟨c, hc, hcn⟩ := hw
  rw [ht c hc] at hcn
  cases hcn

/-- A text of numeral characters lowers to none of the words `inf`, `infinity` and `nan`. -/
theorem ofList_map_asciiLower_ne {l : List Char} {w : String}
    (hl : ∀ c ∈ l, isNumeralChar c = true) (hw : ∃ c ∈ w.toList, isNumeralChar c = false) :
    String.ofList (l.map asciiLower) ≠ w := by
  refine ne_of_numeral (fun c hc => ?_) hw
  rw [String.toList_ofList, List.mem_map] at hc
  obtain ⟨d, hd, rfl⟩ := hc
  exact isNumeralChar_asciiLower (hl d hd)

theorem ofList_map_asciiLower_not_word {l : List Char} (hl : ∀ c ∈ l, isNumeralChar c = true) :
    String.ofList (l.map asciiLower) ≠ "inf" ∧ String.ofList (l.map asciiLower) ≠ "infinity" ∧
      String.ofList (l.map asciiLower) ≠ "nan" :=
  ⟨ofList_map_asciiLower_ne hl ⟨'i', by simp, by decide⟩,
    ofList_map_asciiLower_ne hl ⟨'i', by simp, by decide⟩,
    ofList_map_asciiLower_ne hl ⟨'n', by simp, by decide⟩⟩

/-! ## Trimming -/

theorem dropBlank_append {pre : List Char} (hpre : ∀ c ∈ pre, isWhiteSpace c = true)
    (l : List Char) : dropBlank (pre ++ l) = dropBlank l := by
  induction pre with
  | nil => rfl
  | cons c pre ih =>
    simp only [List.mem_cons, forall_eq_or_imp] at hpre
    simp only [List.cons_append, dropBlank, hpre.1, if_true]
    exact ih hpre.2

theorem dropBlank_of_not_blank {c : Char} (hc : isWhiteSpace c = false) (l : List Char) :
    dropBlank (c :: l) = c :: l := by
  simp [dropBlank, hc]

/-- Dropping leading white space removes a white prefix. -/
theorem exists_blank_append_dropBlank (l : List Char) :
    ∃ pre, (∀ c ∈ pre, isWhiteSpace c = true) ∧ l = pre ++ dropBlank l := by
  induction l with
  | nil => exact ⟨[], by simp, rfl⟩
  | cons c l ih =>
    by_cases hc : isWhiteSpace c = true
    · obtain ⟨pre, hpre, hl⟩ := ih
      refine ⟨c :: pre, ?_, ?_⟩
      · simp only [List.mem_cons, forall_eq_or_imp]
        exact ⟨hc, hpre⟩
      · simp only [dropBlank, hc, if_true, List.cons_append]
        rw [← hl]
    · exact ⟨[], by simp, by simp [dropBlank, hc]⟩

theorem trimBoth_toList (s : String) :
    (trimBoth s).toList = (dropBlank (dropBlank s.toList).reverse).reverse :=
  String.toList_ofList

/-- Trimming removes white space on both sides of what it keeps. -/
theorem exists_trimBoth_decomposition (s : String) :
    ∃ pre post, (∀ c ∈ pre, isWhiteSpace c = true) ∧ (∀ c ∈ post, isWhiteSpace c = true) ∧
      s.toList = pre ++ (trimBoth s).toList ++ post := by
  obtain ⟨pre, hpre, hs⟩ := exists_blank_append_dropBlank s.toList
  obtain ⟨back, hback, hd⟩ := exists_blank_append_dropBlank (dropBlank s.toList).reverse
  refine ⟨pre, back.reverse, hpre, fun c hc => hback c (List.mem_reverse.mp hc), ?_⟩
  have hdrop : dropBlank s.toList = (dropBlank (dropBlank s.toList).reverse).reverse ++
      back.reverse := by
    rw [← List.reverse_append, ← hd, List.reverse_reverse]
  rw [trimBoth_toList, List.append_assoc, ← hdrop]
  exact hs

/-- Trimming keeps a run of characters that are no white space, whatever white space surrounds
it. -/
theorem trimBoth_toList_of_blank_append {pre lit post : List Char}
    (hpre : ∀ c ∈ pre, isWhiteSpace c = true) (hpost : ∀ c ∈ post, isWhiteSpace c = true)
    (hlit : ∀ c ∈ lit, isWhiteSpace c = false) (hne : lit ≠ []) :
    (trimBoth (String.ofList (pre ++ lit ++ post))).toList = lit := by
  obtain ⟨c, l, rfl⟩ := List.exists_cons_of_ne_nil hne
  obtain ⟨d, l', hl'⟩ := List.exists_cons_of_ne_nil (List.reverse_ne_nil_iff.mpr hne)
  have hfront : dropBlank (pre ++ (c :: l) ++ post) = c :: l ++ post := by
    rw [List.append_assoc, dropBlank_append hpre, List.cons_append,
      dropBlank_of_not_blank (hlit c (List.mem_cons_self)) ]
  have hd : isWhiteSpace d = false := hlit d (List.mem_reverse.mp (hl' ▸ List.mem_cons_self))
  have hback : dropBlank (c :: l ++ post).reverse = (c :: l).reverse := by
    rw [List.reverse_append, dropBlank_append (fun x hx => hpost x (List.mem_reverse.mp hx)), hl',
      dropBlank_of_not_blank hd]
  rw [trimBoth_toList, String.toList_ofList, hfront, hback, List.reverse_reverse]

theorem trimBoth_toList_of_blank {ws : List Char} (hws : ∀ c ∈ ws, isWhiteSpace c = true) :
    (trimBoth (String.ofList ws)).toList = [] := by
  have h := dropBlank_append hws []
  rw [List.append_nil] at h
  rw [trimBoth_toList, String.toList_ofList, h]
  rfl

/-! ## Reading digits and exponents -/

/-- What follows a run of digits: nothing, or a character that is no digit. -/
def NoDigitHead (r : List Char) : Prop := ∀ c ∈ r.head?, isDigit c = false

theorem noDigitHead_nil : NoDigitHead [] := fun _ hc => nomatch hc

theorem noDigitHead_cons {c : Char} (hc : isDigit c = false) (r : List Char) :
    NoDigitHead (c :: r) := by
  intro d hd
  cases hd
  exact hc

/-- An exponent part starts with no digit. -/
theorem ExponentPart.noDigitHead {exp : List Char} {k : Int} (h : ExponentPart exp k) :
    NoDigitHead exp := by
  cases h with
  | absent => exact noDigitHead_nil
  | present he _ =>
    rcases he with rfl | rfl
    · exact noDigitHead_cons (by decide) _
    · exact noDigitHead_cons (by decide) _

theorem spanDigits_append {ds r : List Char} (hd : AllDigits ds) (hr : NoDigitHead r) :
    spanDigits (ds ++ r) = (ds, r) := by
  have htake : r.takeWhile isDigit = [] := by
    cases r with
    | nil => rfl
    | cons c r => simp [hr c (by simp)]
  have hdrop : r.dropWhile isDigit = r := by
    cases r with
    | nil => rfl
    | cons c r => simp [hr c (by simp)]
  simp only [spanDigits, List.takeWhile_append_of_pos hd, List.dropWhile_append_of_pos hd, htake,
    hdrop, List.append_nil]

theorem spanDigits_of_allDigits {ds : List Char} (h : AllDigits ds) : spanDigits ds = (ds, []) := by
  simpa using spanDigits_append h noDigitHead_nil

/-- Splitting off leading digits cuts a text into digits and a rest that starts with no digit. -/
theorem spanDigits_spec (cs : List Char) :
    cs = (spanDigits cs).1 ++ (spanDigits cs).2 ∧ AllDigits (spanDigits cs).1 ∧
      NoDigitHead (spanDigits cs).2 := by
  induction cs with
  | nil => exact ⟨rfl, (fun _ hc => nomatch hc), noDigitHead_nil⟩
  | cons d cs ih =>
    by_cases hd : isDigit d = true
    · obtain ⟨hsplit, hds, hrest⟩ := ih
      simp only [spanDigits, List.takeWhile_cons, List.dropWhile_cons, hd, if_true,
        List.cons_append] at hsplit hds hrest ⊢
      refine ⟨congrArg (d :: ·) hsplit, ?_, hrest⟩
      intro c hc
      rcases List.mem_cons.mp hc with rfl | hc
      · exact hd
      · exact hds c hc
    · have hd' : isDigit d = false := by simpa using hd
      simp only [spanDigits, List.takeWhile_cons, List.dropWhile_cons, hd', Bool.false_eq_true,
        if_false]
      exact ⟨rfl, (fun _ hc => nomatch hc), noDigitHead_cons hd' cs⟩

/-- When nothing follows the leading digits, the text is all digits. -/
theorem allDigits_of_spanDigits_snd {cs : List Char} (h : (spanDigits cs).2 = []) :
    AllDigits cs ∧ (spanDigits cs).1 = cs := by
  obtain ⟨hsplit, hds, -⟩ := spanDigits_spec cs
  rw [h, List.append_nil] at hsplit
  exact ⟨hsplit ▸ hds, hsplit.symm⟩

/-! ## The readers, phase by phase -/

/-- The sign the readers split off first. -/
def signSplit : List Char → Bool × List Char
  | '+' :: r => (false, r)
  | '-' :: r => (true, r)
  | r => (false, r)

/-- What the decimal reader does after the point: digits after a point, or none. -/
def fractionPart : List Char → List Char × List Char
  | '.' :: r => spanDigits r
  | r => ([], r)

/-- What the decimal reader does last: the end of the text, or an exponent. -/
def exponentTail (m : Nat) (scale : Int) : List Char → Option (Nat × Int)
  | [] => some (m, scale)
  | c :: r => if c = 'e' ∨ c = 'E' then (readExponent? r).map fun k => (m, scale + k) else none

theorem readExponent?_eq (cs : List Char) :
    readExponent? cs =
      if (spanDigits (signSplit cs).2).1.isEmpty ∨ !(spanDigits (signSplit cs).2).2.isEmpty then
        none
      else some (signedValue (signSplit cs).1 (spanDigits (signSplit cs).2).1) := by
  unfold readExponent? signSplit signedValue
  rfl

theorem readUnsignedDecimal?_eq (cs : List Char) :
    readUnsignedDecimal? cs =
      if (spanDigits cs).1.isEmpty ∧ (fractionPart (spanDigits cs).2).1.isEmpty then none
      else exponentTail (digitsValue ((spanDigits cs).1 ++ (fractionPart (spanDigits cs).2).1))
        (-((fractionPart (spanDigits cs).2).1.length : Int)) (fractionPart (spanDigits cs).2).2 := by
  unfold readUnsignedDecimal? fractionPart exponentTail
  rfl

theorem readFloat?_eq (s : String) :
    readFloat? s =
      if String.ofList ((signSplit s.toList).2.map asciiLower) = "inf" ∨
          String.ofList ((signSplit s.toList).2.map asciiLower) = "infinity" then
        some (signedInfinity (signSplit s.toList).1)
      else if String.ofList ((signSplit s.toList).2.map asciiLower) = "nan" then some notANumber
      else (readUnsignedDecimal? (signSplit s.toList).2).map fun p =>
        ofDecimal (signSplit s.toList).1 p.1 p.2 := by
  unfold readFloat? signSplit
  rfl

/-! ## Signs -/

/-- The sign split off is a written sign. -/
theorem signSplit_spec (cs : List Char) :
    ∃ sign, SignPart sign (signSplit cs).1 ∧ cs = sign ++ (signSplit cs).2 := by
  unfold signSplit
  split
  · exact ⟨['+'], .plus, rfl⟩
  · exact ⟨['-'], .minus, rfl⟩
  · exact ⟨[], .none, rfl⟩

/-- What starts with no sign character. -/
def NoSignHead (body : List Char) : Prop := ∀ c ∈ body.head?, c ≠ '+' ∧ c ≠ '-'

/-- A written sign is split off whole when no second sign follows it. -/
theorem signSplit_of_signPart {sign body : List Char} {neg : Bool} (hs : SignPart sign neg)
    (hb : NoSignHead body) : signSplit (sign ++ body) = (neg, body) := by
  cases hs with
  | plus => rfl
  | minus => rfl
  | none =>
    unfold signSplit
    split
    · rename_i r heq
      rw [List.nil_append] at heq
      subst heq
      exact absurd rfl (hb '+' rfl).1
    · rename_i r heq
      rw [List.nil_append] at heq
      subst heq
      exact absurd rfl (hb '-' rfl).2
    · rfl

/-! ## Characters of a literal -/

theorem SignPart.numeral {sign : List Char} {neg : Bool} (h : SignPart sign neg) :
    ∀ c ∈ sign, isNumeralChar c = true := by
  cases h <;> simp [isNumeralChar]

theorem AllDigits.numeral {ds : List Char} (h : AllDigits ds) : ∀ c ∈ ds, isNumeralChar c = true :=
  fun c hc => isNumeralChar_of_isDigit (h c hc)

theorem AllDigits.noSignHead {ds : List Char} (h : AllDigits ds) : NoSignHead ds := by
  intro c hc
  have hd := h c (List.mem_of_mem_head? hc)
  constructor
  · rintro rfl
    exact absurd hd (by decide)
  · rintro rfl
    exact absurd hd (by decide)

theorem SignedInteger.numeral {cs : List Char} {k : Int} (h : SignedInteger cs k) :
    ∀ c ∈ cs, isNumeralChar c = true := by
  cases h with
  | mk hs _ hds =>
    intro c hc
    rcases List.mem_append.mp hc with hc | hc
    · exact hs.numeral c hc
    · exact hds.numeral c hc

theorem ExponentPart.numeral {exp : List Char} {k : Int} (h : ExponentPart exp k) :
    ∀ c ∈ exp, isNumeralChar c = true := by
  cases h with
  | absent => exact fun _ hc => nomatch hc
  | present he hk =>
    intro c hc
    rcases List.mem_cons.mp hc with rfl | hc
    · rcases he with rfl | rfl <;> decide
    · exact hk.numeral c hc

/-- An exponent part starts with `e` or `E`, never with a point. -/
theorem ExponentPart.noPointHead {exp : List Char} {k : Int} (h : ExponentPart exp k) :
    ∀ c ∈ exp.head?, c ≠ '.' := by
  cases h with
  | absent => exact fun _ hc => nomatch hc
  | present he _ =>
    intro c hc
    cases hc
    rcases he with rfl | rfl <;> decide

theorem UnsignedDecimal.numeral {body : List Char} {m : Nat} {k : Int}
    (h : UnsignedDecimal body m k) : ∀ c ∈ body, isNumeralChar c = true := by
  cases h with
  | pointed _ hw hf hexp =>
    intro c hc
    simp only [List.mem_append, List.mem_cons] at hc
    rcases hc with hc | rfl | hc | hc
    · exact hw.numeral c hc
    · decide
    · exact hf.numeral c hc
    · exact hexp.numeral c hc
  | whole _ hw hexp =>
    intro c hc
    rcases List.mem_append.mp hc with hc | hc
    · exact hw.numeral c hc
    · exact hexp.numeral c hc

/-- An unsigned literal starts with a digit or a point. -/
theorem UnsignedDecimal.noSignHead {body : List Char} {m : Nat} {k : Int}
    (h : UnsignedDecimal body m k) : NoSignHead body := by
  cases h with
  | @pointed whole frac exp k _ hw _ _ =>
    cases whole with
    | nil =>
      intro c hc
      have hpoint : c = '.' := by simpa [eq_comm] using hc
      subst hpoint
      decide
    | cons d ds =>
      intro c hc
      exact hw.noSignHead c (by simpa using hc)
  | whole hne hw _ =>
    obtain ⟨d, ds, rfl⟩ := List.exists_cons_of_ne_nil hne
    intro c hc
    exact hw.noSignHead c (by simpa using hc)

theorem UnsignedDecimal.ne_nil {body : List Char} {m : Nat} {k : Int}
    (h : UnsignedDecimal body m k) : body ≠ [] := by
  cases h with
  | pointed => simp
  | whole hne => simp [hne]

/-! ## The readers against the grammar -/

/-- An exponent is read exactly when the text is a signed integer. -/
theorem readExponent?_eq_some_iff {cs : List Char} {k : Int} :
    readExponent? cs = some k ↔ SignedInteger cs k := by
  rw [readExponent?_eq]
  constructor
  · intro h
    -- the sign split off, then digits to the end
    obtain ⟨sign, hs, hcs⟩ := signSplit_spec cs
    generalize signSplit cs = p at h hs hcs
    rcases p with ⟨neg, rest⟩
    subst hcs
    split at h
    · cases h
    · rename_i hbad
      have hend : (spanDigits rest).2 = [] := by simpa using (not_or.mp hbad).2
      have hne : (spanDigits rest).1 ≠ [] := by simpa using (not_or.mp hbad).1
      obtain ⟨hall, hfst⟩ := allDigits_of_spanDigits_snd hend
      rw [hfst] at hne h
      cases h
      exact .mk hs hne hall
  · rintro ⟨hs, hne, hds⟩
    rw [signSplit_of_signPart hs hds.noSignHead, spanDigits_of_allDigits hds]
    simp [hne]

theorem exponentTail_of_exponentPart {exp : List Char} {k : Int} (h : ExponentPart exp k)
    (m : Nat) (scale : Int) : exponentTail m scale exp = some (m, scale + k) := by
  cases h with
  | absent => simp [exponentTail]
  | present he hk => simp [exponentTail, he, readExponent?_eq_some_iff.mpr hk]

theorem exponentPart_of_exponentTail {m m' : Nat} {scale k' : Int} {rest : List Char}
    (h : exponentTail m scale rest = some (m', k')) :
    ∃ k, ExponentPart rest k ∧ m' = m ∧ k' = scale + k := by
  cases rest with
  | nil =>
    simp only [exponentTail, Option.some.injEq, Prod.mk.injEq] at h
    exact ⟨0, .absent, h.1.symm, by omega⟩
  | cons c r =>
    simp only [exponentTail] at h
    split at h
    · rename_i he
      obtain ⟨k, hk, hpair⟩ := Option.map_eq_some_iff.mp h
      simp only [Prod.mk.injEq] at hpair
      exact ⟨k, .present he (readExponent?_eq_some_iff.mp hk), hpair.1.symm, hpair.2.symm⟩
    · cases h

theorem fractionPart_of_noPointHead {rest : List Char} (h : ∀ c ∈ rest.head?, c ≠ '.') :
    fractionPart rest = ([], rest) := by
  unfold fractionPart
  split
  · exact absurd rfl (h '.' rfl)
  · rfl

/-- The decimal reader reads every unsigned decimal literal, with its value. -/
theorem readUnsignedDecimal?_of_unsignedDecimal {body : List Char} {m : Nat} {k : Int}
    (h : UnsignedDecimal body m k) : readUnsignedDecimal? body = some (m, k) := by
  rw [readUnsignedDecimal?_eq]
  cases h with
  | @pointed whole frac exp k hne hw hf hexp =>
    rw [spanDigits_append hw (noDigitHead_cons (by decide) _)]
    simp only [fractionPart]
    rw [spanDigits_append hf hexp.noDigitHead]
    dsimp only
    have hsome : ¬(whole.isEmpty = true ∧ frac.isEmpty = true) := by
      simpa [List.isEmpty_iff] using hne
    rw [if_neg hsome, exponentTail_of_exponentPart hexp]
    congr 2
    omega
  | whole hne hw hexp =>
    rw [spanDigits_append hw hexp.noDigitHead, fractionPart_of_noPointHead hexp.noPointHead]
    simp [hne, exponentTail_of_exponentPart hexp]

/-- What the decimal reader reads is an unsigned decimal literal, with the value read. -/
theorem unsignedDecimal_of_readUnsignedDecimal? {body : List Char} {m : Nat} {k : Int}
    (h : readUnsignedDecimal? body = some (m, k)) : UnsignedDecimal body m k := by
  rw [readUnsignedDecimal?_eq] at h
  obtain ⟨hsplit, hw, -⟩ := spanDigits_spec body
  generalize (spanDigits body).1 = whole at h hsplit hw
  generalize (spanDigits body).2 = rest at h hsplit
  subst hsplit
  split at h
  · cases h
  · rename_i hne
    by_cases hp : ∃ r, rest = '.' :: r
    · -- a point, then the digits after it
      obtain ⟨r, rfl⟩ := hp
      simp only [fractionPart] at h hne
      obtain ⟨hsplit', hf, -⟩ := spanDigits_spec r
      generalize (spanDigits r).1 = frac at h hne hsplit' hf
      generalize (spanDigits r).2 = exp at h hsplit'
      subst hsplit'
      obtain ⟨k', hk', rfl, rfl⟩ := exponentPart_of_exponentTail h
      have hvalue : -(frac.length : Int) + k' = k' - frac.length := by omega
      rw [hvalue]
      exact .pointed (by simpa [List.isEmpty_iff] using hne) hw hf hk'
    · -- no point: the digits, then the exponent part
      have hnp : ∀ c ∈ rest.head?, c ≠ '.' := by
        intro c hc heq
        subst heq
        exact hp ⟨rest.tail, by cases rest <;> simp_all⟩
      rw [fractionPart_of_noPointHead hnp] at h hne
      obtain ⟨k', hk', rfl, rfl⟩ := exponentPart_of_exponentTail h
      simpa using UnsignedDecimal.whole (by simpa [List.isEmpty_iff] using hne) hw hk'

/-- The number reader reads every signed decimal literal, rounding its value. -/
theorem readFloat?_of_decimal {sign body : List Char} {neg : Bool} {m : Nat} {k : Int}
    (hs : SignPart sign neg) (hb : UnsignedDecimal body m k) :
    readFloat? (String.ofList (sign ++ body)) = some (ofDecimal neg m k) := by
  have hnum := hb.numeral
  rw [readFloat?_eq, String.toList_ofList, signSplit_of_signPart hs hb.noSignHead]
  -- the body spells none of the words the reader knows
  obtain ⟨hinf, hinfinity, hnan⟩ := ofList_map_asciiLower_not_word hnum
  simp [hinf, hinfinity, hnan, readUnsignedDecimal?_of_unsignedDecimal hb]

/-- What the number reader reads from numeral characters is a signed decimal literal. -/
theorem numericLiteral_of_readFloat? {t : List Char} (ht : ∀ c ∈ t, isNumeralChar c = true)
    {v : Float} (h : readFloat? (String.ofList t) = some v) : NumericLiteral t v := by
  rw [readFloat?_eq, String.toList_ofList] at h
  obtain ⟨sign, hs, hsplit⟩ := signSplit_spec t
  generalize signSplit t = p at h hs hsplit
  rcases p with ⟨neg, body⟩
  subst hsplit
  have hnum : ∀ c ∈ body, isNumeralChar c = true := fun c hc => ht c (List.mem_append_right _ hc)
  obtain ⟨hinf, hinfinity, hnan⟩ := ofList_map_asciiLower_not_word hnum
  simp only [hinf, hinfinity, hnan, or_self, if_false] at h
  obtain ⟨⟨m, k⟩, hread, rfl⟩ := Option.map_eq_some_iff.mp h
  exact .decimal hs (unsignedDecimal_of_readUnsignedDecimal? hread)

/-! ## Strings -/

/-- Every character of a numeric string is white space, a numeral character or a letter of
`Infinity`. -/
theorem NumericString.chars {l : List Char} {x : Float} (h : NumericString l x) :
    ∀ c ∈ l, isWhiteSpace c = true ∨ isNumeralChar c = true ∨ c ∈ "Infinity".toList := by
  cases h with
  | blank hws => exact fun c hc => .inl (hws c hc)
  | literal hpre hlit hpost =>
    intro c hc
    simp only [List.mem_append] at hc
    rcases hc with (hc | hc) | hc
    · exact .inl (hpre c hc)
    · cases hlit with
      | infinity hs =>
        rcases List.mem_append.mp hc with hc | hc
        · exact .inr (.inl (hs.numeral c hc))
        · exact .inr (.inr hc)
      | decimal hs hb =>
        rcases List.mem_append.mp hc with hc | hc
        · exact .inr (.inl (hs.numeral c hc))
        · exact .inr (.inl (hb.numeral c hc))
    · exact .inl (hpost c hc)

/-- A text holding a character that is neither white space nor a character of a literal has no
numeric reading. -/
theorem not_numericString_of_mem {l : List Char} {c : Char} (hc : c ∈ l)
    (hw : isWhiteSpace c = false) (hn : isNumeralChar c = false) (hi : c ∉ "Infinity".toList) :
    ∀ x, ¬NumericString l x := by
  intro x hx
  rcases hx.chars c hc with h | h | h
  · rw [hw] at h
    cases h
  · rw [hn] at h
    cases h
  · exact hi h

/-- No character of a literal is white space. -/
theorem NumericLiteral.not_blank {lit : List Char} {x : Float} (h : NumericLiteral lit x) :
    ∀ c ∈ lit, isWhiteSpace c = false := by
  have hletters : ∀ c ∈ "Infinity".toList, isWhiteSpace c = false := by simp [isWhiteSpace]
  cases h with
  | infinity hs =>
    intro c hc
    rcases List.mem_append.mp hc with hc | hc
    · exact isWhiteSpace_of_isNumeralChar (hs.numeral c hc)
    · exact hletters c hc
  | decimal hs hb =>
    intro c hc
    rcases List.mem_append.mp hc with hc | hc
    · exact isWhiteSpace_of_isNumeralChar (hs.numeral c hc)
    · exact isWhiteSpace_of_isNumeralChar (hb.numeral c hc)

theorem NumericLiteral.ne_nil {lit : List Char} {x : Float} (h : NumericLiteral lit x) :
    lit ≠ [] := by
  cases h with
  | infinity => simp
  | decimal _ hb => simp [hb.ne_nil]

/-- A trimmed text that is a literal converts to the literal's value. -/
theorem stringNumber_of_numericLiteral {s : String} {x : Float}
    (h : NumericLiteral (trimBoth s).toList x) : stringNumber s = x := by
  unfold stringNumber
  dsimp only
  generalize trimBoth s = t at h
  obtain ⟨l, rfl⟩ : ∃ l, t = String.ofList l := ⟨t.toList, String.ofList_toList.symm⟩
  rw [String.toList_ofList] at h
  cases h with
  | infinity hs =>
    cases hs with
    | none => rfl
    | plus => rfl
    | minus => rfl
  | @decimal sign body neg m k hs hb =>
    have hread := readFloat?_of_decimal hs hb
    have hnum : ∀ c ∈ (String.ofList (sign ++ body)).toList, isNumeralChar c = true := by
      rw [String.toList_ofList]
      intro c hc
      rcases List.mem_append.mp hc with hc | hc
      · exact hs.numeral c hc
      · exact hb.numeral c hc
    have hne : (String.ofList (sign ++ body)).toList ≠ [] := by
      rw [String.toList_ofList]
      simp [hb.ne_nil]
    generalize String.ofList (sign ++ body) = t at hread hnum hne
    -- a decimal literal is not empty and none of the spelled-out infinities
    have hfull : t.isEmpty = false := by
      rw [Bool.eq_false_iff]
      intro he
      rw [String.isEmpty_iff.mp he] at hne
      exact hne rfl
    have hinf : (t == "Infinity" || t == "+Infinity") = false := by
      have h₁ : t ≠ "Infinity" := ne_of_numeral hnum ⟨'I', by simp, by decide⟩
      have h₂ : t ≠ "+Infinity" := ne_of_numeral hnum ⟨'I', by simp, by decide⟩
      simp [h₁, h₂]
    have hminus : (t == "-Infinity") = false := by
      have h₃ : t ≠ "-Infinity" := ne_of_numeral hnum ⟨'I', by simp, by decide⟩
      simp [h₃]
    have hlike : numeralLike t = true := by
      simp [numeralLike, hfull, String.all_bool_eq, List.all_eq_true.mpr hnum]
    simp only [hfull, hinf, hminus, hlike, hread, Bool.false_eq_true, if_false, if_true]
    rfl

/-- White space alone converts to zero. -/
theorem stringNumber_of_blank {s : String} (h : (trimBoth s).toList = []) : stringNumber s = 0.0 := by
  have he : (trimBoth s).isEmpty = true := by
    rw [String.isEmpty_iff, ← String.toList_inj, h]
    rfl
  unfold stringNumber
  dsimp only
  rw [if_pos he]

/-- A trimmed text that is no literal converts to not-a-number. -/
theorem stringNumber_of_not_numericLiteral {s : String} (hne : (trimBoth s).toList ≠ [])
    (h : ∀ x, ¬NumericLiteral (trimBoth s).toList x) : stringNumber s = notANumber := by
  unfold stringNumber
  dsimp only
  generalize trimBoth s = t at h hne
  obtain ⟨l, rfl⟩ : ∃ l, t = String.ofList l := ⟨t.toList, String.ofList_toList.symm⟩
  rw [String.toList_ofList] at h hne
  have hspelled : ∀ sign neg, SignPart sign neg → l ≠ sign ++ "Infinity".toList :=
    fun _ _ hs hl => by
      subst hl
      exact h _ (.infinity hs)
  split
  · rename_i he
    exact absurd (by simpa [String.isEmpty_iff, ← String.toList_inj] using he) hne
  split
  · rename_i hinf
    simp only [Bool.or_eq_true, beq_iff_eq, ← String.toList_inj, String.toList_ofList] at hinf
    rcases hinf with hinf | hinf
    · exact absurd hinf (hspelled [] false .none)
    · exact absurd hinf (hspelled ['+'] false .plus)
  split
  · rename_i hinf
    simp only [beq_iff_eq, ← String.toList_inj, String.toList_ofList] at hinf
    exact absurd hinf (hspelled ['-'] true .minus)
  split
  · rename_i hlike
    have hnum : ∀ c ∈ l, isNumeralChar c = true := by
      simp only [numeralLike, Bool.and_eq_true, String.all_bool_eq, String.toList_ofList,
        List.all_eq_true] at hlike
      exact hlike.2
    cases hread : readFloat? (String.ofList l) with
    | none => rfl
    | some v => exact absurd (numericLiteral_of_readFloat? hnum hread) (h v)
  · rfl

/-- A string converts to the value of its numeric reading. -/
theorem toNumber_str_of_numericString {s : String} {x : Float} (h : NumericString s.toList x) :
    (Value.str s).toNumber = x := by
  show stringNumber s = x
  have hs : s = String.ofList s.toList := String.ofList_toList.symm
  generalize s.toList = l at h hs
  subst hs
  cases h with
  | blank hws => exact stringNumber_of_blank (trimBoth_toList_of_blank hws)
  | literal hpre hlit hpost =>
    apply stringNumber_of_numericLiteral
    rw [trimBoth_toList_of_blank_append hpre hpost hlit.not_blank hlit.ne_nil]
    exact hlit

/-- A string with no numeric reading converts to not-a-number. -/
theorem toNumber_str_of_not_numericString {s : String} (h : ∀ x, ¬NumericString s.toList x) :
    (Value.str s).toNumber = notANumber := by
  show stringNumber s = notANumber
  obtain ⟨pre, post, hpre, hpost, hs⟩ := exists_trimBoth_decomposition s
  by_cases hne : (trimBoth s).toList = []
  · -- the whole string is white space, which reads as zero
    rw [hne, List.append_nil] at hs
    refine absurd (NumericString.blank fun c hc => ?_) (h 0.0)
    rw [hs] at hc
    rcases List.mem_append.mp hc with hc | hc
    · exact hpre c hc
    · exact hpost c hc
  · refine stringNumber_of_not_numericLiteral hne fun x hx => h x ?_
    rw [hs]
    exact .literal hpre hx hpost

/-! ## Arrays -/

theorem toText_array_cons_cons (a b : Value) (rest : List Value) :
    ',' ∈ (Value.array (a :: b :: rest)).toText.toList := by
  simp [toText, elementTexts, String.intercalate_cons_cons]

/-- An array other than a one-element one converts as the string it joins to: the empty string,
or a text with a comma, which is no numeral. -/
theorem toNumber_array_eq_toText {items : List Value} (h : items.length ≠ 1) :
    (Value.array items).toNumber = (Value.str (Value.array items).toText).toNumber := by
  rcases items with _ | ⟨a, _ | ⟨b, rest⟩⟩
  · have hempty : (Value.array []).toText = "" := rfl
    rw [hempty, toNumber_str_of_numericString (NumericString.blank fun _ hc => by simp at hc)]
    rfl
  · exact absurd rfl h
  · have hcomma : ∀ x, ¬NumericString (Value.array (a :: b :: rest)).toText.toList x :=
      not_numericString_of_mem (toText_array_cons_cons a b rest) (by decide) (by decide) (by simp)
    rw [toNumber_str_of_not_numericString hcomma]
    rfl

/-! ## The conversion -/

/-- The number a value converts to follows the grammar: a string converts to the value of its
numeric reading and to not-a-number when it has none; an array converts as the string it joins
to, except an array of one element, which converts as that element. -/
theorem toNumber_follows_numeric_grammar (s : String) (items : List Value) (v : Value) :
    (∀ x, NumericString s.toList x → (Value.str s).toNumber = x) ∧
      ((∀ x, ¬NumericString s.toList x) → (Value.str s).toNumber = notANumber) ∧
      (items.length ≠ 1 →
        (Value.array items).toNumber = (Value.str (Value.array items).toText).toNumber) ∧
      (Value.array [v]).toNumber = v.toNumber :=
  ⟨fun _ h => toNumber_str_of_numericString h, fun h => toNumber_str_of_not_numericString h,
    fun h => toNumber_array_eq_toText h, rfl⟩

/-- Where the conversion parts from the script language's own: hexadecimal text is not read,
U+FEFF is not trimmed while U+0085 is, and `[true]` converts as `true`. -/
theorem toNumber_reads_decimal_only :
    (Value.str "0x10").toNumber = notANumber ∧ (Value.str "\uFEFF1").toNumber = notANumber ∧
      (Value.str "\u00851").toNumber = 1.0 ∧ (Value.array [.bool true]).toNumber = 1.0 := by
  refine ⟨?_, ?_, ?_, (toNumber_follows_numeric_grammar "" [] (.bool true)).2.2.2⟩
  · -- `x` is neither white space nor a character of a literal
    exact (toNumber_follows_numeric_grammar "0x10" [] .undefined).2.1
      (not_numericString_of_mem (c := 'x') (by simp) (by decide) (by decide) (by simp))
  · exact (toNumber_follows_numeric_grammar "\uFEFF1" [] .undefined).2.1
      (not_numericString_of_mem (c := '\uFEFF') (by simp) (by decide) (by decide) (by simp))
  · have hblank : ∀ c ∈ ['\u0085'], isWhiteSpace c = true := by
      intro c hc
      rw [List.mem_singleton] at hc
      subst hc
      decide
    have hdigit : AllDigits ['1'] := by
      intro c hc
      rw [List.mem_singleton] at hc
      subst hc
      decide
    have hliteral : NumericString "\u00851".toList (ofDecimal false 1 0) := by
      show NumericString (['\u0085'] ++ ['1'] ++ []) _
      exact .literal hblank (.decimal .none (@UnsignedDecimal.whole ['1'] [] 0 (by simp) hdigit .absent))
        (fun _ hc => nomatch hc)
    rw [(toNumber_follows_numeric_grammar "\u00851" [] .undefined).1 _ hliteral]
    decide

end Reactive.Value
