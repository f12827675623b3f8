import DdTrace.Lib.Glob
import DdTrace.Lib.LruCache
import DdTrace.Lib.Machine
import DdTrace.Lib.Utf8
import DdTrace.TraceSampling.SamplingRule

/-!
# GlobMatcher — matching a text against a pattern with wildcards

The matcher walks the bytes of pattern and subject with two indices.  At a star it saves where it is,
and where a later byte does not match it goes back to the last star and lets it take one byte more.
Two shortcuts and a cache stand before this search.

`search_spec` says that the search ends, with the answer of the pattern language over bytes;
`matches_iff` that shortcuts and cache do not change it, whatever was matched before.
-/

namespace DdTrace
namespace TraceSampling

open DdTrace.Lib DdTrace.Core

/-! ## The search -/

/-- The indices into pattern and subject, and those to go back to. -/
structure Cursor where
  px : Nat
  sx : Nat
  nextPx : Nat
  nextSx : Nat
  deriving DecidableEq

namespace Cursor

def start : Cursor := { px := 0, sx := 0, nextPx := 0, nextSx := 0 }

/-- The cursor behind the next byte of the pattern, if that byte matches. -/
def advance (pattern subject : List UInt8) (self : Cursor) : Option Cursor :=
  match pattern[self.px]? with
  | none => none
  | some char =>
      if char = Text.byte '?' then
        if self.sx < subject.length then some { self with px := self.px + 1, sx := self.sx + 1 }
        else none
      else if char = Text.byte '*' then
        some { self with px := self.px + 1, nextPx := self.px, nextSx := self.sx + 1 }
      else if subject[self.sx]? = some char then
        some { self with px := self.px + 1, sx := self.sx + 1 }
      else none

/-- One pass of the loop: the answer, or the next cursor. -/
def iterate (pattern subject : List UInt8) (self : Cursor) : Bool ⊕ Cursor :=
  if self.px < pattern.length ∨ self.sx < subject.length then
    match self.advance pattern subject with
    | some cursor => .inr cursor
    | none =>
        -- back to the last star, while there is a byte left for it to take
        if 0 < self.nextSx ∧ self.nextSx ≤ subject.length then
          .inr { self with px := self.nextPx, sx := self.nextSx }
        else .inl false
  else .inl true

end Cursor

/-- At most so many passes of the loop; `none` if they are not enough. -/
def search (pattern subject : List UInt8) : Nat → Cursor → Option Bool
  | 0, _ => none
  | passes + 1, cursor =>
      match cursor.iterate pattern subject with
      | .inl answer => some answer
      | .inr cursor => search pattern subject passes cursor

/-- More passes than the loop makes. -/
def maxPasses (pattern subject : List UInt8) : Nat :=
  (pattern.length + 1) * (subject.length + 2) * (pattern.length + 2)

def backtrack (pattern subject : List UInt8) : Option Bool :=
  search pattern subject (maxPasses pattern subject) .start

/-! ## The matcher -/

/-- A matcher with the answers that it remembers. -/
structure CachedGlobMatcher (C : Type*) extends GlobMatcher where
  cache : C

namespace CachedGlobMatcher

variable {C : Type*} (api : LruCache C Str Bool) (lower : Str → Str)

def CACHE_SIZE : Nat := 256

def new (pattern : Str) : CachedGlobMatcher C :=
  { toGlobMatcher := .new lower pattern, cache := api.new CACHE_SIZE }

/-- Whether a subject matches; `none` if the search does not end. -/
def «matches» (self : CachedGlobMatcher C) (subject : Str) : Option (Bool × CachedGlobMatcher C) :=
  let subjectLower := lower subject
  if self.patternLower = ['*'] then some (true, self)
  else if self.patternLower = subjectLower then some (true, self)
  else if '*' ∉ self.patternLower ∧ '?' ∉ self.patternLower then some (false, self)
  else
    match api.get self.cache subjectLower with
    | (some result, cache) => some (result, { self with cache := cache })
    | (none, cache) =>
        (backtrack (Text.bytes self.patternLower) (Text.bytes subjectLower)).map fun result =>
          (result, { self with cache := api.put cache subjectLower result })

/-- Calls of `matches` on one matcher. -/
def machine : Machine (CachedGlobMatcher C) Str Bool := fun self subject =>
  (self.matches api lower subject).map fun (answer, self) => (self, answer)

end CachedGlobMatcher

/-! ## The pattern language over bytes -/

/-- What a byte of a pattern stands for. -/
def byteToken (b : UInt8) : Glob.Token UInt8 :=
  if b = Text.byte '?' then .one else if b = Text.byte '*' then .star else .lit b

/-- The pattern of a text, byte by byte. -/
def bytePattern (pattern : Str) : List (Glob.Token UInt8) := (Text.bytes pattern).map byteToken

theorem byteToken_eq_star {b : UInt8} : byteToken b = .star ↔ b = Text.byte '*' := by
  have hne : Text.byte '*' ≠ Text.byte '?' := by decide
  unfold byteToken
  split_ifs with hone hstar
  · simp [hone, Ne.symm hne]
  · simp [hstar]
  · simp [hstar]

/-! ## One pass of the loop -/

namespace Cursor

variable {pattern subject : List UInt8} {self : Cursor}

/-- The rest of the subject matches the rest of the pattern. -/
def Here (pattern subject : List UInt8) (self : Cursor) : Prop :=
  subject.drop self.sx ∈ Glob.language ((pattern.map byteToken).drop self.px)

/-- The rest of the subject matches from the saved star on, if that star takes one byte more. -/
def Back (pattern subject : List UInt8) (self : Cursor) : Prop :=
  0 < self.nextSx ∧ self.nextSx ≤ subject.length ∧
    subject.drop self.nextSx ∈ Glob.language ((pattern.map byteToken).drop self.nextPx)

theorem drop_eq_cons {α : Type*} {l : List α} {i : Nat} {a : α} (h : l[i]? = some a) :
    l.drop i = a :: l.drop (i + 1) := by
  obtain ⟨hi, rfl⟩ := List.getElem?_eq_some_iff.1 h
  exact List.drop_eq_getElem_cons hi

theorem drop_eq_star {i : Nat} (h : pattern[i]? = some (Text.byte '*')) :
    (pattern.map byteToken).drop i = .star :: (pattern.map byteToken).drop (i + 1) := by
  have hstar : (pattern.map byteToken)[i]? = some (byteToken (Text.byte '*')) := by simp [h]
  rw [drop_eq_cons hstar, byteToken_eq_star.2 rfl]

/-- What `advance` can do. -/
theorem advance_cases :
    (∃ char, pattern[self.px]? = some char ∧ self.sx < subject.length ∧ byteToken char ≠ .star ∧
        self.advance pattern subject = some { self with px := self.px + 1, sx := self.sx + 1 } ∧
        (self.Here pattern subject ↔
          Here pattern subject { self with px := self.px + 1, sx := self.sx + 1 })) ∨
      (pattern[self.px]? = some (Text.byte '*') ∧
        self.advance pattern subject =
          some { self with px := self.px + 1, nextPx := self.px, nextSx := self.sx + 1 }) ∨
      (self.advance pattern subject = none ∧ pattern[self.px]? ≠ some (Text.byte '*') ∧
        (self.px < pattern.length ∨ self.sx < subject.length → ¬ self.Here pattern subject)) := by
  cases hchar : pattern[self.px]? with
  | none =>
      -- the pattern is used up
      refine .inr (.inr ⟨by simp [advance, hchar], by simp, ?_⟩)
      intro hrest hhere
      have hpx : pattern.length ≤ self.px := List.getElem?_eq_none_iff.1 hchar
      have hsx : self.sx < subject.length := hrest.resolve_left (Nat.not_lt.2 hpx)
      have hend : (pattern.map byteToken).drop self.px = [] :=
        List.drop_eq_nil_of_le (by simpa using hpx)
      rw [Here, hend, Glob.mem_nil, List.drop_eq_nil_iff] at hhere
      omega
  | some char =>
      have hpattern : (pattern.map byteToken).drop self.px =
          byteToken char :: (pattern.map byteToken).drop (self.px + 1) :=
        drop_eq_cons (by simp [hchar])
      by_cases hstar : char = Text.byte '*'
      · -- a star is remembered, whatever the subject goes on with
        have hone : ¬ char = Text.byte '?' := by
          rw [hstar]
          decide
        refine .inr (.inl ⟨by rw [hstar], ?_⟩)
        simp only [advance, hchar, if_neg hone, if_pos hstar]
      · cases hnext : subject[self.sx]? with
        | none =>
            have hsx : subject.length ≤ self.sx := List.getElem?_eq_none_iff.1 hnext
            have hsubject : subject.drop self.sx = [] := List.drop_eq_nil_of_le hsx
            by_cases hone : char = Text.byte '?'
            · refine .inr (.inr ⟨by simp [advance, hchar, hone, Nat.not_lt.2 hsx], ?_, fun _ => ?_⟩)
              · rw [hone]
                decide
              · simp [Here, hpattern, hsubject, byteToken, hone]
            · refine .inr (.inr ⟨by simp [advance, hchar, hone, hstar, hnext], ?_, fun _ => ?_⟩)
              · simpa using hstar
              · simp [Here, hpattern, hsubject, byteToken, hone, hstar]
        | some next =>
            obtain ⟨hsx, _⟩ := List.getElem?_eq_some_iff.1 hnext
            have hsubject : subject.drop self.sx = next :: subject.drop (self.sx + 1) :=
              drop_eq_cons hnext
            by_cases hone : char = Text.byte '?'
            · refine .inl ⟨char, rfl, hsx, ?_, by simp [advance, hchar, hone, hsx], ?_⟩
              · simp [byteToken, hone]
              · simp [Here, hpattern, hsubject, byteToken, hone]
            · by_cases heq : next = char
              · refine .inl ⟨char, rfl, hsx, ?_, by simp [advance, hchar, hone, hstar, hnext, heq], ?_⟩
                · simp [byteToken, hone, hstar]
                · simp [Here, hpattern, hsubject, byteToken, hone, hstar, heq]
              · refine .inr (.inr
                  ⟨by simp [advance, hchar, hone, hstar, hnext, heq], ?_, fun _ => ?_⟩)
                · simpa using hstar
                · simp [Here, hpattern, hsubject, byteToken, hone, hstar, heq]

/-- Where the cursor is relative to the last star: on it, or behind it by a part of the pattern
without stars that took as many bytes as it has. -/
structure Valid (pattern subject : List UInt8) (cursor : Cursor) : Prop where
  px_le : cursor.px ≤ pattern.length
  sx_le : cursor.sx ≤ subject.length
  nextPx_le : cursor.nextPx ≤ pattern.length
  nextSx_le : cursor.nextSx ≤ subject.length + 1
  fresh : cursor.nextSx = 0 → cursor.nextPx = 0
  star : 0 < cursor.nextSx → pattern[cursor.nextPx]? = some (Text.byte '*')
  since : 0 < cursor.nextSx →
    (cursor.px = cursor.nextPx ∧ cursor.sx = cursor.nextSx) ∨
      ∃ k, cursor.px = cursor.nextPx + 1 + k ∧ cursor.sx + 1 = cursor.nextSx + k ∧
        .star ∉ ((pattern.map byteToken).drop (cursor.nextPx + 1)).take k

theorem valid_start : Valid pattern subject .start :=
  { px_le := Nat.zero_le _
    sx_le := Nat.zero_le _
    nextPx_le := Nat.zero_le _
    nextSx_le := Nat.zero_le _
    fresh := fun _ => rfl
    star := fun h => absurd h (Nat.lt_irrefl 0)
    since := fun h => absurd h (Nat.lt_irrefl 0) }

/-- What is left to do: first the stars of the pattern, then the bytes for the last one, then the
bytes behind it. -/
def measure (pattern subject : List UInt8) (self : Cursor) : Nat :=
  ((pattern.length - self.nextPx) * (subject.length + 2) + (subject.length + 1 - self.nextSx)) *
      (pattern.length + 2) +
    (if 0 < self.nextSx ∧ self.px = self.nextPx then 0 else pattern.length - self.px + 1)

/-- A pass that takes a byte keeps the cursor valid. -/
theorem Valid.take (h : self.Valid pattern subject) {char : UInt8}
    (hchar : pattern[self.px]? = some char) (hsx : self.sx < subject.length)
    (hne : byteToken char ≠ .star) :
    Valid pattern subject { self with px := self.px + 1, sx := self.sx + 1 } := by
  obtain ⟨hpx, _⟩ := List.getElem?_eq_some_iff.1 hchar
  refine { h with px_le := hpx, sx_le := hsx, since := fun hpos => .inr ?_ }
  rcases h.since hpos with ⟨hpx', _⟩ | ⟨k, hpx', hsx', hstars⟩
  · -- on the star itself no byte is taken
    have hstar := h.star hpos
    rw [← hpx', hchar, Option.some.injEq] at hstar
    exact absurd (byteToken_eq_star.2 hstar) hne
  · refine ⟨k + 1, by simp only; omega, by simp only; omega, ?_⟩
    have hlast : ((pattern.map byteToken).drop (self.nextPx + 1))[k]? = some (byteToken char) := by
      rw [List.getElem?_drop, List.getElem?_map, ← hpx', hchar]
      rfl
    rw [List.take_add_one, hlast]
    simp [hstars, Ne.symm hne]

/-- A pass at a star keeps the cursor valid. -/
theorem Valid.star_step (h : self.Valid pattern subject)
    (hchar : pattern[self.px]? = some (Text.byte '*')) :
    Valid pattern subject
      { self with px := self.px + 1, nextPx := self.px, nextSx := self.sx + 1 } := by
  obtain ⟨hpx, _⟩ := List.getElem?_eq_some_iff.1 hchar
  exact
    { px_le := hpx
      sx_le := h.sx_le
      nextPx_le := h.px_le
      nextSx_le := Nat.succ_le_succ h.sx_le
      fresh := fun hzero => absurd hzero (Nat.succ_ne_zero _)
      star := fun _ => hchar
      since := fun _ => .inr ⟨0, rfl, rfl, by simp⟩ }

/-- Going back keeps the cursor valid. -/
theorem Valid.back (h : self.Valid pattern subject) (hle : self.nextSx ≤ subject.length) :
    Valid pattern subject { self with px := self.nextPx, sx := self.nextSx } :=
  { h with
    px_le := h.nextPx_le
    sx_le := hle
    since := fun _ => .inl ⟨rfl, rfl⟩ }

/-- At a new star the old one need not be remembered: what it could still match, the new one can. -/
theorem Valid.here_of_back (h : self.Valid pattern subject)
    (hchar : pattern[self.px]? = some (Text.byte '*')) (hback : self.Back pattern subject) :
    self.Here pattern subject := by
  obtain ⟨hpos, _, hmem⟩ := hback
  rcases h.since hpos with ⟨hpx, hsx⟩ | ⟨k, hpx, hsx, hstars⟩
  · rw [Here, hpx, hsx]
    exact hmem
  · have hold := drop_eq_star (h.star hpos)
    have hnew := drop_eq_star hchar
    obtain ⟨u, v, heq, hv⟩ := Glob.mem_star.1 (hold ▸ hmem)
    -- between the stars there are `k` tokens, which take the first `k` bytes of `v`
    have hbetween : (pattern.map byteToken).drop (self.nextPx + 1) =
        ((pattern.map byteToken).drop (self.nextPx + 1)).take k ++
          (pattern.map byteToken).drop self.px := by
      have hrest : (pattern.map byteToken).drop self.px =
          ((pattern.map byteToken).drop (self.nextPx + 1)).drop k := by rw [hpx, List.drop_drop]
      rw [hrest, List.take_append_drop]
    have hlength : (((pattern.map byteToken).drop (self.nextPx + 1)).take k).length = k := by
      have hle := h.px_le
      simp only [List.length_take, List.length_drop, List.length_map]
      omega
    rw [hbetween] at hv
    have hrest : v.drop k ∈ Glob.language ((pattern.map byteToken).drop self.px) := by
      rw [← hlength]
      exact Glob.drop_mem hstars hv
    have hdrop : v.drop k = (subject.drop self.sx).drop (u.length + 1) := by
      have hv' : v = (subject.drop self.nextSx).drop u.length := by rw [← heq, List.drop_left]
      rw [hv', List.drop_drop, List.drop_drop, List.drop_drop]
      congr 1
      omega
    rw [hdrop, hnew] at hrest
    rw [Here, hnew]
    exact Glob.mem_star_of_drop hrest

/-! ## The search ends -/

/-- A number in two digits falls when its first digit falls, or its second under the same first. -/
theorem digits_lt {a a' b b' n : Nat} (hdigit : b' < n) (h : a' < a ∨ a' = a ∧ b' < b) :
    a' * n + b' < a * n + b := by
  rcases h with hlt | ⟨rfl, hlt⟩
  · calc
      a' * n + b' < a' * n + n := Nat.add_lt_add_left hdigit _
      _ = (a' + 1) * n := (Nat.succ_mul a' n).symm
      _ ≤ a * n := Nat.mul_le_mul_right n hlt
      _ ≤ a * n + b := Nat.le_add_right _ _
  · exact Nat.add_lt_add_left hlt _

/-- The last digit of the measure. -/
theorem behind_lt : (if 0 < self.nextSx ∧ self.px = self.nextPx then 0
    else pattern.length - self.px + 1) < pattern.length + 2 := by
  split_ifs
  · exact Nat.succ_pos _
  · omega

theorem measure_take_lt (h : self.Valid pattern subject) {char : UInt8}
    (hchar : pattern[self.px]? = some char) (hne : byteToken char ≠ .star) :
    measure pattern subject { self with px := self.px + 1, sx := self.sx + 1 } <
      self.measure pattern subject := by
  obtain ⟨hpx, _⟩ := List.getElem?_eq_some_iff.1 hchar
  -- the cursor is not on the last star
  have hoff : ¬ (0 < self.nextSx ∧ self.px = self.nextPx) := by
    rintro ⟨hpos, hon⟩
    have hstar := h.star hpos
    rw [← hon, hchar, Option.some.injEq] at hstar
    exact hne (byteToken_eq_star.2 hstar)
  refine digits_lt behind_lt (.inr ⟨rfl, ?_⟩)
  rw [if_neg hoff]
  simp only
  split_ifs
  · exact Nat.succ_pos _
  · omega

theorem measure_star_lt (h : self.Valid pattern subject)
    (hchar : pattern[self.px]? = some (Text.byte '*')) :
    measure pattern subject
        { self with px := self.px + 1, nextPx := self.px, nextSx := self.sx + 1 } <
      self.measure pattern subject := by
  obtain ⟨hpx, _⟩ := List.getElem?_eq_some_iff.1 hchar
  have hsx := h.sx_le
  refine digits_lt behind_lt (.inl (digits_lt (by simp only; omega) ?_))
  simp only
  by_cases hpos : 0 < self.nextSx
  · rcases h.since hpos with ⟨hon, hsame⟩ | ⟨k, hbehind, _, _⟩
    · -- the same star again, after it took one byte more
      exact .inr ⟨by omega, by omega⟩
    · exact .inl (by omega)
  · -- the first star
    have hzero : self.nextSx = 0 := by omega
    have hfresh := h.fresh hzero
    by_cases hfirst : self.px = 0
    · exact .inr ⟨by omega, by omega⟩
    · exact .inl (by omega)

theorem measure_back_lt (h : self.Valid pattern subject)
    (hchar : pattern[self.px]? ≠ some (Text.byte '*')) (hpos : 0 < self.nextSx) :
    measure pattern subject { self with px := self.nextPx, sx := self.nextSx } <
      self.measure pattern subject := by
  have hoff : ¬ (0 < self.nextSx ∧ self.px = self.nextPx) := by
    rintro ⟨_, hon⟩
    rw [hon] at hchar
    exact hchar (h.star hpos)
  refine digits_lt behind_lt (.inr ⟨rfl, ?_⟩)
  rw [if_neg hoff, if_pos ⟨hpos, rfl⟩]
  exact Nat.succ_pos _

theorem measure_start_lt : measure pattern subject .start < maxPasses pattern subject := by
  have hfront : pattern.length * (subject.length + 2) + (subject.length + 1) <
      (pattern.length + 1) * (subject.length + 2) + 0 :=
    digits_lt (by omega) (.inl (by omega))
  have hall : (pattern.length * (subject.length + 2) + (subject.length + 1)) * (pattern.length + 2) +
        (pattern.length + 1) <
      (pattern.length + 1) * (subject.length + 2) * (pattern.length + 2) + 0 :=
    digits_lt (by omega) (.inl hfront)
  simpa [measure, start, maxPasses] using hall

/-- At a star the rest matches if the star takes nothing, or one byte and then again as a star. -/
theorem here_star (hchar : pattern[self.px]? = some (Text.byte '*')) :
    self.Here pattern subject ↔
      Here pattern subject
          { self with px := self.px + 1, nextPx := self.px, nextSx := self.sx + 1 } ∨
        Back pattern subject
          { self with px := self.px + 1, nextPx := self.px, nextSx := self.sx + 1 } := by
  simp only [Here, Back, drop_eq_star hchar]
  cases hnext : subject[self.sx]? with
  | none =>
      have hsx : subject.length ≤ self.sx := List.getElem?_eq_none_iff.1 hnext
      have hend : ¬ self.sx + 1 ≤ subject.length := by omega
      simp [List.drop_eq_nil_of_le hsx, hend]
  | some next =>
      obtain ⟨hsx, _⟩ := List.getElem?_eq_some_iff.1 hnext
      have hle : self.sx + 1 ≤ subject.length := hsx
      rw [drop_eq_cons hnext, Glob.cons_mem_star]
      simp [hle]

/-- What a pass does: it answers rightly, or it keeps what can still match and comes nearer to the
end. -/
theorem iterate_cases (h : self.Valid pattern subject) :
    (∃ answer, self.iterate pattern subject = .inl answer ∧
        (answer = true ↔ self.Here pattern subject ∨ self.Back pattern subject)) ∨
      ∃ cursor, self.iterate pattern subject = .inr cursor ∧ cursor.Valid pattern subject ∧
        cursor.measure pattern subject < self.measure pattern subject ∧
        (cursor.Here pattern subject ∨ cursor.Back pattern subject ↔
          self.Here pattern subject ∨ self.Back pattern subject) := by
  unfold iterate
  by_cases hrest : self.px < pattern.length ∨ self.sx < subject.length
  · rw [if_pos hrest]
    rcases self.advance_cases with
      ⟨char, hchar, hsx, hne, hadvance, hhere⟩ | ⟨hchar, hadvance⟩ | ⟨hadvance, hchar, hstuck⟩
    · rw [hadvance]
      refine .inr ⟨_, rfl, h.take hchar hsx hne, measure_take_lt h hchar hne, ?_⟩
      exact or_congr hhere.symm Iff.rfl
    · rw [hadvance]
      refine .inr ⟨_, rfl, h.star_step hchar, measure_star_lt h hchar, ?_⟩
      rw [← here_star hchar]
      exact (or_iff_left_of_imp (h.here_of_back hchar)).symm
    · rw [hadvance]
      have hnot := hstuck hrest
      by_cases hback : 0 < self.nextSx ∧ self.nextSx ≤ subject.length
      · simp only [if_pos hback]
        refine .inr ⟨_, rfl, h.back hback.2, measure_back_lt h hchar hback.1, ?_⟩
        simp [Here, Back, hback, show ¬ (subject.drop self.sx ∈
          Glob.language ((pattern.map byteToken).drop self.px)) from hnot]
      · simp only [if_neg hback]
        refine .inl ⟨false, rfl, ?_⟩
        have hno : ¬ self.Back pattern subject := fun hb => hback ⟨hb.1, hb.2.1⟩
        simp [hnot, hno]
  · rw [if_neg hrest]
    refine .inl ⟨true, rfl, ?_⟩
    obtain ⟨hpx, hsx⟩ := not_or.1 hrest
    have hpattern : (pattern.map byteToken).drop self.px = [] :=
      List.drop_eq_nil_of_le (by simpa using hpx)
    have hsubject : subject.drop self.sx = [] := List.drop_eq_nil_of_le (Nat.not_lt.1 hsx)
    have hhere : self.Here pattern subject := by
      rw [Here, hpattern, hsubject]
      exact Glob.mem_nil.2 rfl
    simp [hhere]

end Cursor

/-! ## The whole search -/

section Search

variable {pattern subject : List UInt8}

/-- From a valid cursor the loop ends, and answers whether the cursor can still match. -/
theorem search_spec {cursor : Cursor} {passes : Nat} (h : cursor.Valid pattern subject)
    (hpasses : cursor.measure pattern subject < passes) :
    ∃ answer, search pattern subject passes cursor = some answer ∧
      (answer = true ↔ cursor.Here pattern subject ∨ cursor.Back pattern subject) := by
  induction passes generalizing cursor with
  | zero => exact absurd hpasses (Nat.not_lt_zero _)
  | succ passes ih =>
      rcases Cursor.iterate_cases h with
        ⟨answer, hiterate, hanswer⟩ | ⟨next, hiterate, hvalid, hmeasure, hsame⟩
      · exact ⟨answer, by simp [search, hiterate], hanswer⟩
      · obtain ⟨answer, hsearch, hanswer⟩ := ih hvalid (by omega)
        exact ⟨answer, by simp [search, hiterate, hsearch], hanswer.trans hsame⟩

/-- The search ends with the answer of the pattern language. -/
theorem backtrack_eq : backtrack pattern subject =
    some (decide (subject ∈ Glob.language (pattern.map byteToken))) := by
  have hpasses : Cursor.measure pattern subject .start < maxPasses pattern subject :=
    Cursor.measure_start_lt
  obtain ⟨answer, hsearch, hanswer⟩ := search_spec Cursor.valid_start hpasses
  have hstart : answer = true ↔ subject ∈ Glob.language (pattern.map byteToken) := by
    simpa [Cursor.Here, Cursor.Back, Cursor.start] using hanswer
  rw [backtrack, hsearch, Option.some.injEq, Bool.eq_iff_iff, hstart, decide_eq_true_iff]

end Search

/-! ## The shortcuts -/

section Shortcuts

variable {pattern subject : Str}

/-- A text matches itself, wildcards included. -/
theorem bytes_mem_bytePattern (pattern : Str) :
    Text.bytes pattern ∈ Glob.language (bytePattern pattern) := by
  unfold bytePattern
  induction Text.bytes pattern with
  | nil => exact Glob.mem_nil.2 rfl
  | cons b rest ih =>
      rw [List.map_cons]
      unfold byteToken
      split_ifs
      · exact Glob.cons_mem_one.2 ih
      · exact Glob.cons_mem_star.2 (.inr (Glob.mem_star_of_mem ih))
      · exact Glob.cons_mem_lit.2 ⟨rfl, ih⟩

/-- Every text matches a star. -/
theorem mem_bytePattern_star (subject : List UInt8) :
    subject ∈ Glob.language (bytePattern ['*']) := by
  have hstar : bytePattern ['*'] = [.star] := by decide
  rw [hstar]
  exact Glob.mem_star.2 ⟨subject, [], List.append_nil _, rfl⟩

/-- A pattern without wildcards is matched by itself only. -/
theorem eq_of_mem_bytePattern (hstar : '*' ∉ pattern) (hone : '?' ∉ pattern)
    (h : Text.bytes subject ∈ Glob.language (bytePattern pattern)) : pattern = subject := by
  have hlits : ∀ (l : List UInt8), Text.byte '*' ∉ l → Text.byte '?' ∉ l → ∀ w,
      w ∈ Glob.language (l.map byteToken) → l = w := by
    intro l
    induction l with
    | nil => intro _ _ w hw; exact (Glob.mem_nil.1 hw).symm
    | cons b l ih =>
        intro hs ho w hw
        have hb : byteToken b = .lit b := by
          simp only [List.mem_cons, not_or] at hs ho
          simp [byteToken, Ne.symm hs.1, Ne.symm ho.1]
        rw [List.map_cons, hb] at hw
        cases w with
        | nil => exact absurd hw (by simp)
        | cons a w =>
            obtain ⟨rfl, hrest⟩ := Glob.cons_mem_lit.1 hw
            rw [ih (fun hmem => hs (List.mem_cons_of_mem _ hmem))
              (fun hmem => ho (List.mem_cons_of_mem _ hmem)) w hrest]
  refine Text.bytes_injective (hlits _ ?_ ?_ _ h)
  · rwa [Text.byte_mem_bytes_iff (by decide)]
  · rwa [Text.byte_mem_bytes_iff (by decide)]

end Shortcuts

/-! ## The cache -/

namespace CachedGlobMatcher

variable {C : Type*} {api : LruCache C Str Bool} {self : CachedGlobMatcher C}

/-- What the cache holds are answers of the pattern language. -/
def Remembers (api : LruCache C Str Bool) (self : CachedGlobMatcher C) : Prop :=
  api.All (fun subject answer =>
    answer = true ↔ Text.bytes subject ∈ Glob.language (bytePattern self.patternLower)) self.cache

theorem remembers_new (api : LruCache C Str Bool) (lower : Str → Str) (pattern : Str) :
    Remembers api (new api lower pattern) :=
  api.all_new _

/-- A call returns the answer of the pattern language, and remembers nothing else. -/
theorem matches_spec (lower : Str → Str) (h : self.Remembers api) (subject : Str) :
    ∃ answer next, self.matches api lower subject = some (answer, next) ∧
      next.patternLower = self.patternLower ∧ next.Remembers api ∧
      (answer = true ↔
        Text.bytes (lower subject) ∈ Glob.language (bytePattern self.patternLower)) := by
  unfold «matches»
  by_cases hstar : self.patternLower = ['*']
  · refine ⟨true, self, by simp [hstar], rfl, h, ?_⟩
    rw [hstar]
    simp [mem_bytePattern_star]
  · by_cases hexact : self.patternLower = lower subject
    · refine ⟨true, self, by simp [hexact], rfl, h, ?_⟩
      rw [hexact]
      simp [bytes_mem_bytePattern]
    · by_cases hplain : '*' ∉ self.patternLower ∧ '?' ∉ self.patternLower
      · refine ⟨false, self, by simp [hstar, hexact, hplain], rfl, h, ?_⟩
        have hno : Text.bytes (lower subject) ∉ Glob.language (bytePattern self.patternLower) :=
          fun hmem => hexact (eq_of_mem_bytePattern hplain.1 hplain.2 hmem)
        simp [hno]
      · rw [if_neg hstar, if_neg hexact, if_neg hplain]
        obtain ⟨found, cache, hget⟩ : ∃ found cache, api.get self.cache (lower subject) =
            (found, cache) := ⟨_, _, rfl⟩
        have hcache : api.All _ (api.get self.cache (lower subject)).2 := LruCache.All.get api h
        rw [hget] at hcache ⊢
        cases found with
        | some answer =>
            have hheld := h _ _ (api.holds_of_get (by rw [hget]))
            exact ⟨answer, { self with cache := cache }, rfl, rfl, hcache, hheld⟩
        | none =>
            simp only [backtrack_eq, Option.map_some]
            refine ⟨_, _, rfl, rfl, LruCache.All.put api hcache ?_, ?_⟩
            · rw [decide_eq_true_iff]
              rfl
            · rw [decide_eq_true_iff]
              rfl

/-- Along any calls the matcher keeps its pattern, and remembers right answers only. -/
theorem exec_spec (lower : Str → Str) (h : self.Remembers api) (earlier : List Str) :
    ∃ next history, (machine api lower).exec self earlier = some (next, history) ∧
      next.patternLower = self.patternLower ∧ next.Remembers api := by
  induction earlier generalizing self with
  | nil => exact ⟨self, [], rfl, rfl, h⟩
  | cons subject earlier ih =>
      obtain ⟨answer, first, hmatches, hpattern, hfirst, -⟩ := matches_spec lower h subject
      obtain ⟨next, history, hexec, hsame, hnext⟩ := ih hfirst
      refine ⟨next, (subject, answer) :: history, ?_, hsame.trans hpattern, hnext⟩
      have hstep : machine api lower self subject = some (first, answer) := by
        simp [machine, hmatches]
      simp [Machine.exec, hstep, hexec]

/-- Whatever was matched before, `matches` ends and says whether the lower case of the subject is in
the language of the lower case of the pattern. -/
theorem matches_iff (api : LruCache C Str Bool) (lower : Str → Str) (pattern subject : Str)
    (earlier : List Str) :
    ∃ self history answer next,
      (machine api lower).exec (new api lower pattern) earlier = some (self, history) ∧
        self.matches api lower subject = some (answer, next) ∧
        (answer = true ↔
          Text.bytes (lower subject) ∈ Glob.language (bytePattern (lower pattern))) := by
  obtain ⟨self, history, hexec, hpattern, hself⟩ :=
    exec_spec lower (remembers_new api lower pattern) earlier
  obtain ⟨answer, next, hmatches, -, -, hanswer⟩ := matches_spec lower hself subject
  refine ⟨self, history, answer, next, hexec, hmatches, ?_⟩
  rw [hanswer, hpattern]
  rfl

end CachedGlobMatcher

end TraceSampling
end DdTrace
