import DdTrace.Lib.Text

/-!
# Numeral — printing and parsing of integers

Integers are printed in decimal, or in lower case hexadecimal padded with zeros, and parsed as the
standard library of the modelled language does: an optional sign, then at least one digit, in range.
The main results are the round trips `parseUnsigned_decimal`, `parseUnsigned_hexPadded` and
`parseSigned_intDecimal`.
-/

namespace DdTrace
namespace Lib
namespace Numeral

/-! ## Printing -/

/-- The decimal form of a natural number. -/
def decimal (n : Nat) : Str := Nat.toDigits 10 n

/-- The decimal form of an integer. -/
def intDecimal (i : Int) : Str :=
  if i < 0 then '-' :: decimal i.natAbs else decimal i.natAbs

theorem intDecimal_eq (i : Int) :
    intDecimal i = (if i < 0 then ['-'] else []) ++ decimal i.natAbs := by
  unfold intDecimal
  split_ifs <;> rfl

/-- The lower case hexadecimal form, padded with zeros to at least `w` digits. -/
def hexPadded (w n : Nat) : Str :=
  List.replicate (w - (Nat.toDigits 16 n).length) '0' ++ Nat.toDigits 16 n

/-! ## Parsing -/

/-- The value of a digit, if it is one in this radix; letters of either case count from ten. -/
def toDigit (radix : Nat) (c : Char) : Option Nat :=
  let n := c.toNat
  let d? :=
    if 48 ≤ n ∧ n ≤ 57 then some (n - 48)
    else if 97 ≤ n ∧ n ≤ 122 then some (n - 87)
    else if 65 ≤ n ∧ n ≤ 90 then some (n - 55)
    else none
  d?.filter (· < radix)

/-- The value of a string of digits, added to an accumulator. -/
def digitsValue (radix : Nat) : Nat → Str → Option Nat
  | acc, [] => some acc
  | acc, c :: cs =>
      match toDigit radix c with
      | none => none
      | some d => digitsValue radix (acc * radix + d) cs

/-- The value of a nonempty string of digits. -/
def parseDigits (radix : Nat) (s : Str) : Option Nat :=
  if s = [] then none else digitsValue radix 0 s

/-- Parses an unsigned integer below `bound`; a leading `+` is accepted. -/
def parseUnsigned (radix bound : Nat) (s : Str) : Option Nat :=
  let digits := match s with
    | '+' :: rest => rest
    | _ => s
  (parseDigits radix digits).filter (· < bound)

/-- Parses a decimal integer between `lo` and `hi`; a leading `+` or `-` is accepted. -/
def parseSigned (lo hi : Int) (s : Str) : Option Int :=
  let value : Option Int := match s with
    | '+' :: rest => (parseDigits 10 rest).map fun n => (n : Int)
    | '-' :: rest => (parseDigits 10 rest).map fun n => -(n : Int)
    | _ => (parseDigits 10 s).map fun n => (n : Int)
  value.filter fun i => lo ≤ i ∧ i ≤ hi

/-! ## Round trips -/

theorem toDigit_digitChar {radix d : Nat} (hd : d < radix) (hr : radix ≤ 16) :
    toDigit radix d.digitChar = some d := by
  have h16 : d < 16 := lt_of_lt_of_le hd hr
  -- radix 16 has all the digits, another radix fewer
  have hval : ∀ k < 16, toDigit 16 (Nat.digitChar k) = some k := by decide
  have hsome := hval d h16
  simp only [toDigit, Option.filter_eq_some_iff, decide_eq_true_eq] at hsome ⊢
  exact ⟨hsome.1, hd⟩

theorem digitsValue_append (radix : Nat) (s t : Str) (acc : Nat) :
    digitsValue radix acc (s ++ t) = (digitsValue radix acc s).bind fun v => digitsValue radix v t := by
  induction s generalizing acc with
  | nil => rfl
  | cons c s ih =>
      cases hc : toDigit radix c with
      | none => simp [digitsValue, hc]
      | some d => simp [digitsValue, hc, ih]

theorem digitsValue_replicate_zero (radix : Nat) (hr : 0 < radix) (k : Nat) :
    digitsValue radix 0 (List.replicate k '0') = some 0 := by
  have hzero : toDigit radix '0' = some 0 := by
    simp [toDigit, hr]
  induction k with
  | zero => rfl
  | succ k ih => simp [List.replicate_succ, digitsValue, hzero, ih]

theorem digitsValue_toDigits {radix : Nat} (h1 : 1 < radix) (h16 : radix ≤ 16) (n : Nat) :
    digitsValue radix 0 (Nat.toDigits radix n) = some n := by
  -- the last digit is the remainder, the others are those of the quotient
  induction n using Nat.strong_induction_on with
  | _ n ih =>
      by_cases hn : n < radix
      · simp [Nat.toDigits_of_lt_base hn, digitsValue, toDigit_digitChar hn h16]
      · have hbase : radix ≤ n := Nat.le_of_not_lt hn
        have hlt : n / radix < n := Nat.div_lt_self (by omega) h1
        have hmod : n % radix < radix := Nat.mod_lt n (by omega)
        rw [Nat.toDigits_of_base_le h1 hbase, digitsValue_append, ih _ hlt]
        simp [digitsValue, toDigit_digitChar hmod h16, Nat.div_add_mod']

theorem toDigit_eq_none_of_sign {radix : Nat} : toDigit radix '+' = none ∧ toDigit radix '-' = none := by
  constructor <;> simp [toDigit]

/-- A string of digits does not start with a sign. -/
theorem head_ne_sign {radix v acc : Nat} {c : Char} {s : Str}
    (h : digitsValue radix acc (c :: s) = some v) : c ≠ '+' ∧ c ≠ '-' := by
  constructor
  · rintro rfl
    simp [digitsValue, toDigit_eq_none_of_sign.1] at h
  · rintro rfl
    simp [digitsValue, toDigit_eq_none_of_sign.2] at h

/-- Parsing a string of digits as an unsigned integer reads its value. -/
theorem parseUnsigned_of_digits {radix bound v : Nat} {s : Str} (hne : s ≠ [])
    (h : digitsValue radix 0 s = some v) (hv : v < bound) :
    parseUnsigned radix bound s = some v := by
  cases s with
  | nil => exact absurd rfl hne
  | cons c s =>
      have hsign : c ≠ '+' := (head_ne_sign h).1
      simp [parseUnsigned, parseDigits, hsign, h, hv]

theorem decimal_injective {m n : Nat} (h : decimal m = decimal n) : m = n := by
  have hm : digitsValue 10 0 (decimal m) = some m := digitsValue_toDigits (by decide) (by decide) m
  have hn : digitsValue 10 0 (decimal n) = some n := digitsValue_toDigits (by decide) (by decide) n
  rw [h, hn] at hm
  exact (Option.some.inj hm).symm

theorem parseUnsigned_decimal {n bound : Nat} (h : n < bound) :
    parseUnsigned 10 bound (decimal n) = some n :=
  parseUnsigned_of_digits Nat.toDigits_ne_nil (digitsValue_toDigits (by decide) (by decide) n) h

theorem digitsValue_hexPadded (w n : Nat) : digitsValue 16 0 (hexPadded w n) = some n := by
  rw [hexPadded, digitsValue_append, digitsValue_replicate_zero 16 (by decide)]
  exact digitsValue_toDigits (by decide) (by decide) n

theorem hexPadded_ne_nil (w n : Nat) : hexPadded w n ≠ [] := by
  simp [hexPadded]

theorem parseUnsigned_hexPadded {w n bound : Nat} (h : n < bound) :
    parseUnsigned 16 bound (hexPadded w n) = some n :=
  parseUnsigned_of_digits (hexPadded_ne_nil w n) (digitsValue_hexPadded w n) h

/-- A number below `16 ^ w` takes exactly `w` hexadecimal digits. -/
theorem length_hexPadded {w n : Nat} (hw : 0 < w) (h : n < 16 ^ w) : (hexPadded w n).length = w := by
  have hle : (Nat.toDigits 16 n).length ≤ w := (Nat.length_toDigits_le_iff (by decide) hw).2 h
  simp [hexPadded, hle]

theorem parseSigned_intDecimal {lo hi i : Int} (hlo : lo ≤ i) (hhi : i ≤ hi) :
    parseSigned lo hi (intDecimal i) = some i := by
  have hdigits := @digitsValue_toDigits 10 (by decide) (by decide) i.natAbs
  have hne : Nat.toDigits 10 i.natAbs ≠ [] := Nat.toDigits_ne_nil
  -- the sign is read off the front, the rest is the absolute value
  by_cases hneg : i < 0
  · have habs : -(i.natAbs : Int) = i := by omega
    have hread : parseDigits 10 (decimal i.natAbs) = some i.natAbs := by
      simp [parseDigits, decimal, hdigits, hne]
    have hvalue : parseSigned lo hi (intDecimal i) =
        (some (-(i.natAbs : Int))).filter fun j => lo ≤ j ∧ j ≤ hi := by
      simp only [parseSigned, intDecimal, if_pos hneg, hread]
      rfl
    rw [hvalue, habs]
    simp [hlo, hhi]
  · have habs : (i.natAbs : Int) = i := by omega
    -- without a sign the first character is a digit, which is none
    cases hs : Nat.toDigits 10 i.natAbs with
    | nil => exact absurd hs hne
    | cons c s =>
        rw [hs] at hdigits
        obtain ⟨hplus, hminus⟩ := head_ne_sign hdigits
        simp [parseSigned, intDecimal, decimal, hneg, hs, parseDigits, hplus, hminus, hdigits, hlo,
          hhi, habs]

/-! ## Range -/

theorem parseSigned_eq_some {lo hi i : Int} {s : Str} (h : parseSigned lo hi s = some i) :
    lo ≤ i ∧ i ≤ hi := by
  simpa using (Option.filter_eq_some_iff.1 h).2

/-- A number that is in range is read in another range that it is in. -/
theorem parseSigned_mono {lo hi lo' hi' i : Int} {s : Str} (h : parseSigned lo hi s = some i)
    (hlo : lo' ≤ i) (hhi : i ≤ hi') : parseSigned lo' hi' s = some i :=
  Option.filter_eq_some_iff.2 ⟨(Option.filter_eq_some_iff.1 h).1, by simp [hlo, hhi]⟩

/-! ## Length -/

theorem lt_of_toDigit {radix d : Nat} {c : Char} (h : toDigit radix c = some d) : d < radix := by
  simp only [toDigit, Option.filter_eq_some_iff, decide_eq_true_eq] at h
  exact h.2

/-- The value of a string is below the next power of the radix. -/
theorem digitsValue_lt {radix acc v : Nat} {s : Str} (h : digitsValue radix acc s = some v) :
    v < (acc + 1) * radix ^ s.length := by
  induction s generalizing acc with
  | nil =>
      rw [digitsValue, Option.some.injEq] at h
      simp [h]
  | cons c s ih =>
      cases hc : toDigit radix c with
      | none => simp [digitsValue, hc] at h
      | some d =>
          simp only [digitsValue, hc] at h
          have hd : acc * radix + d + 1 ≤ (acc + 1) * radix := by
            have := lt_of_toDigit hc
            rw [Nat.add_mul, Nat.one_mul]
            omega
          calc
            v < (acc * radix + d + 1) * radix ^ s.length := ih h
            _ ≤ (acc + 1) * radix * radix ^ s.length := Nat.mul_le_mul_right _ hd
            _ = (acc + 1) * radix ^ (c :: s).length := by
                  rw [List.length_cons, Nat.pow_succ', Nat.mul_assoc]

/-- No string of digits is shorter than the number printed. -/
theorem length_decimal_le {n : Nat} {s : Str} (h : parseDigits 10 s = some n) :
    (decimal n).length ≤ s.length := by
  unfold parseDigits at h
  split at h
  · cases h
  · rename_i hne
    have hlt := digitsValue_lt h
    rw [Nat.zero_add, Nat.one_mul] at hlt
    exact (Nat.length_toDigits_le_iff (by decide) (List.length_pos_iff.2 hne)).2 hlt

/-- The only digit with the value zero. -/
theorem eq_zero_of_toDigit {c : Char} (h : toDigit 10 c = some 0) : c = '0' := by
  have hcode : c.toNat = '0'.toNat := by
    have hzero : '0'.toNat = 48 := rfl
    simp only [toDigit, Option.filter_eq_some_iff] at h
    split_ifs at h <;> simp at h <;> omega
  exact Char.toNat_inj.1 hcode

theorem eq_zero_of_parseDigits {s : Str} (h : parseDigits 10 s = some 0) (hone : s.length = 1) :
    s = ['0'] := by
  rcases List.length_eq_one_iff.1 hone with ⟨c, rfl⟩
  cases hc : toDigit 10 c with
  | none => simp [parseDigits, digitsValue, hc] at h
  | some d =>
      have hd : d = 0 := by simpa [parseDigits, digitsValue, hc] using h
      subst hd
      rw [eq_zero_of_toDigit hc]

/-- A number that is not positive takes, with its sign, no more digits than the text it was read from,
unless that is the one digit zero. -/
theorem length_of_parseSigned {lo hi i : Int} {s : Str} (h : parseSigned lo hi s = some i)
    (hi : i ≤ 0) :
    1 + (decimal i.natAbs).length ≤ s.length + (if s = ['0'] then 1 else 0) := by
  have hvalue := (Option.filter_eq_some_iff.1 h).1
  have hzero : (decimal 0).length = 1 := rfl
  -- a number without `-` in front is zero
  have hunsigned : ∀ n : Nat, (n : Int) = i → n = 0 ∧ i.natAbs = 0 := by
    intro n hn
    omega
  split at hvalue
  · rename_i rest
    cases hdigits : parseDigits 10 rest with
    | none => simp [hdigits] at hvalue
    | some n =>
        obtain ⟨hn, habs⟩ := hunsigned n (by simpa [hdigits] using hvalue)
        have hlen := length_decimal_le hdigits
        rw [hn, hzero] at hlen
        rw [habs, hzero, List.length_cons]
        omega
  · rename_i rest
    cases hdigits : parseDigits 10 rest with
    | none => simp [hdigits] at hvalue
    | some n =>
        have hn : -(n : Int) = i := by simpa [hdigits] using hvalue
        have habs : i.natAbs = n := by omega
        have hlen := length_decimal_le hdigits
        rw [habs, List.length_cons]
        omega
  · cases hdigits : parseDigits 10 s with
    | none => simp [hdigits] at hvalue
    | some n =>
        obtain ⟨hn, habs⟩ := hunsigned n (by simpa [hdigits] using hvalue)
        have hlen := length_decimal_le hdigits
        rw [hn, hzero] at hlen
        rw [habs, hzero]
        by_cases hone : s.length = 1
        · rw [if_pos (eq_zero_of_parseDigits (hn ▸ hdigits) hone), hone]
        · omega

/-! ## The characters of a numeral -/

/-- The characters of a printed number: decimal digits and the letters `a` to `f`. -/
def isHexDigit (c : Char) : Bool :=
  let n := c.toNat
  (48 ≤ n && n ≤ 57) || (97 ≤ n && n ≤ 102)

theorem isHexDigit_digitChar {d : Nat} (h : d < 16) : isHexDigit d.digitChar = true := by
  have hall : ∀ k < 16, isHexDigit (Nat.digitChar k) = true := by decide
  exact hall d h

/-- A property of the digits can be checked digit by digit. -/
theorem forall_isHexDigit {P : Char → Prop} (h : ∀ d < 16, P (Nat.digitChar d)) {c : Char}
    (hc : isHexDigit c = true) : P c := by
  have hascii : Text.isAscii c = true := by
    simp only [isHexDigit, Bool.or_eq_true, Bool.and_eq_true, decide_eq_true_eq] at hc
    simp only [Text.isAscii, decide_eq_true_eq]
    omega
  -- each of the ASCII characters is tried
  have hdigit : ∃ d < 16, c = Nat.digitChar d :=
    Text.forall_isAscii (P := fun c => isHexDigit c = true → ∃ d < 16, c = Nat.digitChar d)
      (by decide) hascii hc
  rcases hdigit with ⟨d, hd, rfl⟩
  exact h d hd

theorem isAscii_of_isHexDigit {c : Char} (h : isHexDigit c = true) : Text.isAscii c = true :=
  forall_isHexDigit (P := fun c => Text.isAscii c = true) (by decide) h

theorem isHexDigit_of_mem_toDigits {radix n : Nat} {c : Char} (h1 : 1 < radix) (h16 : radix ≤ 16)
    (h : c ∈ Nat.toDigits radix n) : isHexDigit c = true := by
  induction n using Nat.strong_induction_on with
  | _ n ih =>
      by_cases hn : n < radix
      · rw [Nat.toDigits_of_lt_base hn, List.mem_singleton] at h
        rw [h]
        exact isHexDigit_digitChar (lt_of_lt_of_le hn h16)
      · have hbase : radix ≤ n := Nat.le_of_not_lt hn
        rw [Nat.toDigits_of_base_le h1 hbase, List.mem_append, List.mem_singleton] at h
        rcases h with h | h
        · exact ih _ (Nat.div_lt_self (by omega) h1) h
        · rw [h]
          exact isHexDigit_digitChar (lt_of_lt_of_le (Nat.mod_lt n (by omega)) h16)

theorem isHexDigit_of_mem_decimal {n : Nat} {c : Char} (h : c ∈ decimal n) : isHexDigit c = true :=
  isHexDigit_of_mem_toDigits (by decide) (by decide) h

theorem isHexDigit_of_mem_hexPadded {w n : Nat} {c : Char} (h : c ∈ hexPadded w n) :
    isHexDigit c = true := by
  rw [hexPadded, List.mem_append] at h
  rcases h with h | h
  · rw [List.eq_of_mem_replicate h]
    decide
  · exact isHexDigit_of_mem_toDigits (by decide) (by decide) h

/-- The characters of a printed integer are digits, but for the sign. -/
theorem of_mem_intDecimal {i : Int} {c : Char} (h : c ∈ intDecimal i) :
    c = '-' ∨ isHexDigit c = true := by
  unfold intDecimal at h
  split at h
  · rcases List.mem_cons.1 h with h | h
    · exact .inl h
    · exact .inr (isHexDigit_of_mem_decimal h)
  · exact .inr (isHexDigit_of_mem_decimal h)

end Numeral
end Lib
end DdTrace
