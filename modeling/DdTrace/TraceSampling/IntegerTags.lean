import DdTrace.Lib.ShortestDecimal
import DdTrace.TraceSampling.GlobCharacters
import DdTrace.TraceSampling.RuleMatching

/-!
# IntegerTags — integer attributes go through a double

The tag test of a rule converts an integer to a double and compares the text of the double.  That is
the decimal form of the integer as long as the double is printed as it: of the integers that are
rounded to the same double, only one is (`matchesDecimal_iff`).
-/

namespace DdTrace
namespace TraceSampling

open DdTrace.Lib DdTrace.Core DdTrace.Otel DdTrace.Mappings

/-! ## The tag test -/

/-- The printing of doubles by the standard library, as far as it is of integers. -/
def printsIntegers (api : MappingApi) : MappingApi :=
  { api with displayF64 := Binary64.displayIntegral api.displayF64 }

section TagTest

variable {C : Type*} (api : MappingApi) (cacheApi : LruCache C Str Bool) (lower : Str → Str)

/-- The test of a value with the matcher of a pattern, after other subjects were matched. -/
def tagTest (pattern : Str) (earlier : List Str) (value : Value) : Option Bool :=
  ((CachedGlobMatcher.machine cacheApi lower).exec (.new cacheApi lower pattern) earlier).bind
    fun (matcher, _) =>
      matchAttributeValue (printsIntegers api)
        (fun _ subject => (matcher.matches cacheApi lower subject).any Prod.fst) value
        matcher.toGlobMatcher

end TagTest

/-! ## The text that is compared -/

/-- The double of an integer, as it is printed. -/
def comparedText (api : MappingApi) (i : Int64) : Str :=
  (printsIntegers api).displayF64 (Binary64.ofInt i.toInt)

theorem natAbs_toInt_le (i : Int64) : i.toInt.natAbs ≤ 2 ^ 63 := by
  have hlow := i.le_toInt
  have hhigh := i.toInt_lt
  omega

theorem log2_natAbs_toInt_le (i : Int64) : i.toInt.natAbs.log2 ≤ 1022 := by
  have hlt : i.toInt.natAbs < 2 ^ 64 := Nat.lt_of_le_of_lt (natAbs_toInt_le i) (by decide)
  by_cases hzero : i.toInt.natAbs = 0
  · rw [hzero]
    decide
  · have hlog := (Nat.log2_lt hzero).2 hlt
    omega

/-- No integer has decimals after the conversion, not even where it is rounded out of its type. -/
theorem hasDecimal_ofInt (i : Int64) : hasDecimal (Binary64.ofInt i.toInt) = false := by
  have hround := Binary64.roundNat_le_two_pow (natAbs_toInt_le i)
  rw [hasDecimal, Binary64.toInt?_ofInt_round (log2_natAbs_toInt_le i)]
  simp only [Int.ofNat_eq_natCast, Bool.not_eq_false', decide_eq_true_eq]
  split_ifs <;> omega

/-- The characters of printed integers. -/
def isPrintedChar (c : Char) : Bool := c.isDigit || c = '-'

theorem isPrintedChar_of_mem_decimal {n : Nat} {c : Char} (h : c ∈ Numeral.decimal n) :
    isPrintedChar c = true := by
  have hdigit : c.isDigit = true := Nat.isDigit_of_mem_toDigits (by decide) (by decide) h
  simp [isPrintedChar, hdigit]

theorem isPrintedChar_of_mem_signed {negative : Prop} [Decidable negative] {n : Nat} {c : Char}
    (h : c ∈ (if negative then ['-'] else []) ++ Numeral.decimal n) : isPrintedChar c = true := by
  rcases List.mem_append.1 h with hsign | hdigit
  · split_ifs at hsign
    · rw [List.mem_singleton.1 hsign]
      decide
    · cases hsign
  · exact isPrintedChar_of_mem_decimal hdigit

theorem isPrintedChar_of_mem_intDecimal {i : Int} {c : Char} (h : c ∈ Numeral.intDecimal i) :
    isPrintedChar c = true := by
  rw [Numeral.intDecimal_eq] at h
  exact isPrintedChar_of_mem_signed h

theorem isPrintedChar_of_mem_comparedText {api : MappingApi} {i : Int64} {c : Char}
    (h : c ∈ comparedText api i) : isPrintedChar c = true := by
  have htext : comparedText api i = (if i.toInt < 0 then ['-'] else []) ++
      Numeral.decimal (Binary64.shortest (Binary64.roundNat i.toInt.natAbs)) :=
    Binary64.displayIntegral_ofInt api.displayF64 (log2_natAbs_toInt_le i)
  rw [htext] at h
  exact isPrintedChar_of_mem_signed h

theorem not_isWildcard_of_isPrintedChar {c : Char} (h : isPrintedChar c = true) :
    isWildcard c = false := by
  rcases wildcard_cases c with rfl | rfl | hlit
  · cases h
  · cases h
  · exact hlit

theorem isAscii_of_isPrintedChar {c : Char} (h : isPrintedChar c = true) :
    Text.isAscii c = true := by
  rcases Bool.or_eq_true_iff.1 h with hdigit | hminus
  · have hle : c.val ≤ 57 := by
      simp only [Char.isDigit, Bool.and_eq_true, decide_eq_true_eq] at hdigit
      exact hdigit.2
    have hnat : c.toNat ≤ 57 := UInt32.le_iff_toNat_le.1 hle
    exact decide_eq_true (Nat.lt_of_le_of_lt hnat (by decide))
  · rw [of_decide_eq_true hminus]
    decide

/-- What is relied on of the lower case of a text: digits and the minus sign have no case, and no
other character turns into one of them; and so for the wildcards. -/
structure LowerUncased (lower : Str → Str) : Prop where
  eq_iff : ∀ s t : Str, (∀ c ∈ t, isPrintedChar c = true) → (lower s = t ↔ s = t)
  wildcard_iff : ∀ (s : Str) (c : Char), isWildcard c = true → (c ∈ lower s ↔ c ∈ s)

section Law

variable {C : Type*} (api : MappingApi) (cacheApi : LruCache C Str Bool) (lower : Str → Str)

/-- An integer tag matches its decimal form: a pattern without wildcards matches if it is that form,
and any pattern if that form is in its language. -/
structure MatchesDecimal (i : Int64) : Prop where
  exact : ∀ pattern earlier, (∀ c ∈ pattern, isWildcard c = false) →
    (tagTest api cacheApi lower pattern earlier (.i64 i) = some true ↔
      pattern = Numeral.intDecimal i.toInt)
  glob : ∀ pattern earlier, ∃ answer,
    tagTest api cacheApi lower pattern earlier (.i64 i) = some answer ∧
      (answer = true ↔
        Numeral.intDecimal i.toInt ∈ Glob.language (charPattern (lower pattern)))

variable {lower}

/-- The test answers whether the text of the double is in the language of the pattern. -/
theorem tagTest_i64 (hlower : LowerUncased lower) (pattern : Str) (earlier : List Str) (i : Int64) :
    ∃ answer, tagTest api cacheApi lower pattern earlier (.i64 i) = some answer ∧
      (answer = true ↔
        Text.bytes (comparedText api i) ∈ Glob.language (bytePattern (lower pattern))) := by
  obtain ⟨matcher, history, hexec, hpattern, hremembers⟩ :=
    CachedGlobMatcher.exec_spec lower (CachedGlobMatcher.remembers_new cacheApi lower pattern) earlier
  obtain ⟨answer, next, hmatches, -, -, hanswer⟩ :=
    CachedGlobMatcher.matches_spec lower hremembers (comparedText api i)
  have hsubject : lower (comparedText api i) = comparedText api i :=
    (hlower.eq_iff _ _ fun c hc => isPrintedChar_of_mem_comparedText hc).2 rfl
  have hnew : (CachedGlobMatcher.new cacheApi lower pattern).patternLower = lower pattern := rfl
  refine ⟨answer, ?_, ?_⟩
  · have hglob : (matcher.matches cacheApi lower (comparedText api i)).any Prod.fst = answer := by
      rw [hmatches]
      rfl
    simp only [tagTest, hexec, Option.bind_some, matchAttributeValue, extractFloatValue,
      hasDecimal_ofInt, Bool.false_eq_true, if_false]
    exact congrArg some hglob
  · rwa [hsubject, hpattern, hnew] at hanswer

/-- A text of digits is matched by a pattern without wildcards if it is that pattern. -/
theorem mem_bytePattern_iff (hlower : LowerUncased lower) {pattern text : Str}
    (hplain : ∀ c ∈ pattern, isWildcard c = false) (htext : ∀ c ∈ text, isPrintedChar c = true) :
    Text.bytes text ∈ Glob.language (bytePattern (lower pattern)) ↔ pattern = text := by
  have hnone : ∀ c, isWildcard c = true → c ∉ lower pattern := by
    intro c hc hmem
    have hwild := hplain c ((hlower.wildcard_iff pattern c hc).1 hmem)
    rw [hc] at hwild
    cases hwild
  rw [← hlower.eq_iff pattern text htext]
  constructor
  · exact eq_of_mem_bytePattern (hnone '*' rfl) (hnone '?' rfl)
  · rintro rfl
    exact bytes_mem_bytePattern _

/-- The tag test of an integer is about its decimal form exactly if that is the shortest decimal of
the double that the integer is rounded to. -/
theorem matchesDecimal_iff (hlower : LowerUncased lower) (i : Int64) :
    MatchesDecimal api cacheApi lower i ↔ Binary64.IsPrinted i.toInt.natAbs := by
  have hprinted : comparedText api i = Numeral.intDecimal i.toInt ↔
      Binary64.IsPrinted i.toInt.natAbs :=
    Binary64.displayIntegral_ofInt_iff api.displayF64 (log2_natAbs_toInt_le i)
  have hcompared : ∀ c ∈ comparedText api i, isPrintedChar c = true :=
    fun c hc => isPrintedChar_of_mem_comparedText hc
  have hdecimal : ∀ c ∈ Numeral.intDecimal i.toInt, isPrintedChar c = true :=
    fun c hc => isPrintedChar_of_mem_intDecimal hc
  rw [← hprinted]
  constructor
  · intro hlaw
    -- the decimal form itself is a pattern without wildcards
    have hplain : ∀ c ∈ Numeral.intDecimal i.toInt, isWildcard c = false :=
      fun c hc => not_isWildcard_of_isPrintedChar (hdecimal c hc)
    rcases tagTest_i64 api cacheApi hlower (Numeral.intDecimal i.toInt) [] i with
      ⟨answer, htest, hanswer⟩
    have htrue := (hlaw.exact _ [] hplain).2 rfl
    rw [htest, Option.some.injEq, hanswer, mem_bytePattern_iff hlower hplain hcompared] at htrue
    exact htrue.symm
  · intro htext
    refine ⟨?_, ?_⟩
    · intro pattern earlier hplain
      rcases tagTest_i64 api cacheApi hlower pattern earlier i with ⟨answer, htest, hanswer⟩
      rw [htest, Option.some.injEq, hanswer, mem_bytePattern_iff hlower hplain hcompared, htext]
    · intro pattern earlier
      rcases tagTest_i64 api cacheApi hlower pattern earlier i with ⟨answer, htest, hanswer⟩
      rw [htext] at hanswer
      have hascii := mem_iff_of_isAscii (fun c hc => isAscii_of_isPrintedChar (hdecimal c hc))
        (lower pattern)
      exact ⟨answer, htest, hanswer.trans hascii⟩

end Law

section Example

/-- Characters that are neither letters nor turned into letters. -/
def isUncased (c : Char) : Bool := isPrintedChar c || isWildcard c

/-- No other character has the lower case of an uncased one. -/
theorem toLower_eq_iff {c d : Char} (hd : isUncased d = true) : c.toLower = d ↔ c = d := by
  have hfixed : ∀ c : Char, isUncased c = true ∨ isUncased c.toLower = true → c.toLower = c := by
    intro c
    cases hc : Text.isAscii c with
    | true =>
        exact Text.forall_isAscii
          (P := fun c => isUncased c = true ∨ isUncased c.toLower = true → c.toLower = c)
          (by decide) hc
    | false =>
        intro _
        have hlarge : ¬ c.toNat < 128 := of_decide_eq_false hc
        have hletter : ¬ (c.val ≥ 'A'.val ∧ c.val ≤ 'Z'.val) := by
          intro hletter
          have hle : c.toNat ≤ 90 := UInt32.le_iff_toNat_le.1 hletter.2
          omega
        exact dif_neg hletter
  constructor
  · rintro rfl
    exact (hfixed c (.inr hd)).symm
  · rintro rfl
    exact hfixed c (.inl hd)

theorem lowerUncased_asciiLower : LowerUncased asciiLower := by
  constructor
  · intro s t ht
    induction s generalizing t with
    | nil => simp [asciiLower]
    | cons c s ih =>
        cases t with
        | nil => simp [asciiLower]
        | cons d t =>
            have hd : isUncased d = true := by simp [isUncased, ht d (List.mem_cons_self ..)]
            have hrest := ih t fun e he => ht e (List.mem_cons_of_mem _ he)
            rw [asciiLower, List.map_cons, List.cons.injEq, List.cons.injEq, toLower_eq_iff hd]
            exact and_congr_right fun _ => hrest
  · intro s c hc
    have huncased : isUncased c = true := by simp [isUncased, hc]
    simp only [asciiLower, List.mem_map, toLower_eq_iff huncased, exists_eq_right]

/-- A status code is matched as it is written. -/
theorem matchesDecimal_status : MatchesDecimal .plain LruCache.list asciiLower 404 :=
  (matchesDecimal_iff .plain LruCache.list lowerUncased_asciiLower 404).2
    (Binary64.isPrinted_of_lt (by decide))

/-- The double of `2 ^ 53 + 1` is `2 ^ 53`, and that is what the pattern is compared with. -/
theorem not_matchesDecimal_odd :
    ¬ MatchesDecimal .plain LruCache.list asciiLower (2 ^ 53 + 1) := by
  intro hlaw
  have hdigits : ∀ c ∈ "9007199254740993".toList, isPrintedChar c = true :=
    List.all_eq_true.1 (by decide)
  have hplain : ∀ c ∈ "9007199254740993".toList, isWildcard c = false := fun c hc =>
    not_isWildcard_of_isPrintedChar (hdigits c hc)
  have hdecimal : "9007199254740993".toList = Numeral.intDecimal (2 ^ 53 + 1 : Int64).toInt := by
    decide +kernel
  have htrue := (hlaw.exact "9007199254740993".toList [] hplain).2 hdecimal
  rcases tagTest_i64 .plain LruCache.list lowerUncased_asciiLower "9007199254740993".toList []
    (2 ^ 53 + 1) with ⟨answer, htest, hanswer⟩
  have hcompared : comparedText .plain (2 ^ 53 + 1) = "9007199254740992".toList := by decide +kernel
  have hprinted : ∀ c ∈ "9007199254740992".toList, isPrintedChar c = true :=
    List.all_eq_true.1 (by decide)
  rw [htest, Option.some.injEq, hanswer, hcompared,
    mem_bytePattern_iff lowerUncased_asciiLower hplain hprinted] at htrue
  exact absurd htrue (by decide)

end Example

end TraceSampling
end DdTrace
