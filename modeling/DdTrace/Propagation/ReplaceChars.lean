import DdTrace.Lib.Text

/-!
# ReplaceChars — replacing bytes of a string

`replaceChars` finds the next byte to replace, copies the slice in front of it, and skips one
character.  Its slices are at byte positions, so each of them could be inside a character; none is,
and the result is a map over the characters (`replaceChars_eq_map`).
-/

namespace DdTrace
namespace Propagation

open Lib

/-- The bytes that are replaced: those that are not ASCII, and those matched by `f`. -/
def isReplaced (f : UInt8 → Bool) (b : UInt8) : Bool := !Text.isAsciiByte b || f b

/-- The loop over the tail; `none` is a panic, or the end of the fuel. -/
def replaceTail (f : UInt8 → Bool) (replacementChar : Char) : Nat → Str → Option Str
  | 0, _ => none
  | fuel + 1, tail =>
      match (Text.bytes tail).findIdx? (isReplaced f) with
      | none => some tail
      | some pos =>
          match Text.splitAtByte tail pos with
          | none => none
          | some (before, after) =>
              let isAscii := ((Text.bytes tail)[pos]?).any Text.isAsciiByte
              -- The width of the character at `pos`, if another one follows it.
              let offset :=
                if !isAscii then
                  match after with
                  | c :: _ :: _ => some c.utf8Size
                  | _ => none
                else some 1
              match offset with
              | none => some (before ++ [replacementChar])
              | some offset =>
                  match Text.splitAtByte tail (pos + offset) with
                  | none => none
                  | some (_, rest) =>
                      (replaceTail f replacementChar fuel rest).map fun replaced =>
                        before ++ replacementChar :: replaced

/-- The function with its slices. -/
def replaceSlices (f : UInt8 → Bool) (replacementChar : Char) (s : Str) : Option Str :=
  if (Text.bytes s).all fun c => !isReplaced f c then some s
  else replaceTail f replacementChar (s.length + 1) s

/-- What becomes of one character. -/
def replaceChar (f : UInt8 → Bool) (replacementChar : Char) (c : Char) : Char :=
  if Text.isAscii c && !f (Text.byte c) then c else replacementChar

def isKept (f : UInt8 → Bool) (c : Char) : Bool := Text.isAscii c && !f (Text.byte c)

/-- What holds of the replaced ASCII characters and of the replacement holds of every result. -/
theorem forall_replaceChar {P : Char → Prop} {f : UInt8 → Bool} {r : Char}
    (hascii : ∀ n < 128, P (replaceChar f r (Char.ofNat n))) (hr : P r) (c : Char) :
    P (replaceChar f r c) := by
  cases hc : Text.isAscii c with
  | true => exact Text.forall_isAscii (P := fun c => P (replaceChar f r c)) hascii hc
  | false => simpa [replaceChar, hc] using hr

/-- Replacing brings in no character other than the replacement. -/
theorem eq_of_replaceChar_eq {f : UInt8 → Bool} {r c d : Char} (h : replaceChar f r c = d)
    (hd : d ≠ r) : c = d := by
  simp only [replaceChar] at h
  split at h
  · exact h
  · exact absurd h.symm hd

theorem bytes_of_isKept {f : UInt8 → Bool} {s : Str} (h : ∀ c ∈ s, isKept f c = true) :
    (Text.bytes s).length = Text.utf8Len s ∧ ∀ b ∈ Text.bytes s, isReplaced f b = false := by
  induction s with
  | nil => exact ⟨rfl, by simp [Text.bytes]⟩
  | cons c s ih =>
      have hc : Text.isAscii c = true ∧ f (Text.byte c) = false := by
        simpa [isKept] using h c (List.mem_cons_self ..)
      rcases ih fun d hd => h d (List.mem_cons_of_mem _ hd) with ⟨hlen, hbytes⟩
      refine ⟨?_, ?_⟩
      · simp [hlen]
      · intro b hb
        rw [Text.bytes_cons, Text.utf8EncodeChar_of_isAscii hc.1] at hb
        rcases List.mem_append.1 hb with hb | hb
        · rw [List.mem_singleton.1 hb]
          simp [isReplaced, Text.isAsciiByte_byte hc.1, hc.2]
        · exact hbytes b hb

/-- A string is kept as a whole, or has a first character that is replaced. -/
theorem kept_or_split (f : UInt8 → Bool) (s : Str) :
    (∀ c ∈ s, isKept f c = true) ∨
    ∃ before c after, s = before ++ c :: after ∧ (∀ d ∈ before, isKept f d = true) ∧
      isKept f c = false := by
  induction s with
  | nil => exact .inl (by simp)
  | cons c s ih =>
      cases hc : isKept f c with
      | false => exact .inr ⟨[], c, s, rfl, by simp, hc⟩
      | true =>
          rcases ih with hall | ⟨before, d, after, rfl, hbefore, hd⟩
          · exact .inl (by simpa [hc] using hall)
          · exact .inr ⟨c :: before, d, after, rfl, by simpa [hc] using hbefore, hd⟩

theorem map_replaceChar_of_isKept {f : UInt8 → Bool} {r : Char} {s : Str}
    (h : ∀ c ∈ s, isKept f c = true) : s.map (replaceChar f r) = s := by
  rw [List.map_congr_left (g := id)]
  · simp
  · intro c hc
    have hkept := h c hc
    simp [replaceChar, isKept] at hkept ⊢
    simp [hkept]

/-- The first byte of a character that is replaced, and whether it is ASCII. -/
theorem head_of_not_isKept {f : UInt8 → Bool} {c : Char} (h : isKept f c = false) :
    ∃ b rest, String.utf8EncodeChar c = b :: rest ∧ isReplaced f b = true ∧
      Text.isAsciiByte b = Text.isAscii c := by
  cases hc : Text.isAscii c with
  | false =>
      rcases Text.utf8EncodeChar_of_not_isAscii hc with ⟨b, rest, henc, hb⟩
      exact ⟨b, rest, henc, by simp [isReplaced, hb], hb⟩
  | true =>
      have hf : f (Text.byte c) = true := by simpa [isKept, hc] using h
      exact ⟨_, [], Text.utf8EncodeChar_of_isAscii hc, by simp [isReplaced, hf],
        Text.isAsciiByte_byte hc⟩

/-- A string without a replaced byte has no replaced character. -/
theorem forall_isKept_of_bytes {f : UInt8 → Bool} {s : Str}
    (h : ∀ b ∈ Text.bytes s, isReplaced f b = false) : ∀ c ∈ s, isKept f c = true := by
  rcases kept_or_split f s with hall | ⟨before, c, after, rfl, -, hc⟩
  · exact hall
  · -- the first byte of a replaced character is a replaced byte
    rcases head_of_not_isKept hc with ⟨b, rest, henc, hb, -⟩
    have hmem : b ∈ Text.bytes (before ++ c :: after) := by
      simp [henc]
    exact absurd (h b hmem) (by simp [hb])

/-- The loop maps the tail, and no slice is inside a character. -/
theorem replaceTail_eq_map (f : UInt8 → Bool) (r : Char) {fuel : Nat} {tail : Str}
    (h : tail.length < fuel) :
    replaceTail f r fuel tail = some (tail.map (replaceChar f r)) := by
  -- each round takes at least one character off the tail, so one unit of fuel pays for it
  induction fuel generalizing tail with
  | zero => exact absurd h (Nat.not_lt_zero _)
  | succ fuel ih =>
      rcases kept_or_split f tail with hall | ⟨before, c, after, rfl, hbefore, hc⟩
      · have hnone : (Text.bytes tail).findIdx? (isReplaced f) = none :=
          List.findIdx?_eq_none_iff.2 (bytes_of_isKept hall).2
        simp [replaceTail, hnone, map_replaceChar_of_isKept hall]
      · -- the first replaced byte is the first byte of the first replaced character
        rcases head_of_not_isKept hc with ⟨b, rest, henc, hb, hascii⟩
        rcases bytes_of_isKept hbefore with ⟨hlen, hbytes⟩
        have hpos : (Text.bytes (before ++ c :: after)).findIdx? (isReplaced f) =
            some (Text.utf8Len before) := by
          have hnone : (Text.bytes before).findIdx? (isReplaced f) = none :=
            List.findIdx?_eq_none_iff.2 hbytes
          simp [List.findIdx?_append, hnone, henc, List.findIdx?_cons, hb, hlen]
        have hbyte : (Text.bytes (before ++ c :: after))[Text.utf8Len before]? = some b := by
          rw [Text.bytes_append, ← hlen, List.getElem?_append_right (Nat.le_refl _), Nat.sub_self,
            Text.bytes_cons, henc]
          rfl
        have hsplit := Text.splitAtByte_append before (c :: after)
        have hnext : Text.splitAtByte (before ++ c :: after)
            (Text.utf8Len before + c.utf8Size) = some (before ++ [c], after) := by
          have happ := Text.splitAtByte_append (before ++ [c]) after
          simpa using happ
        have hrest : after.length < fuel := by
          simp only [List.length_append, List.length_cons] at h
          omega
        have hchar : replaceChar f r c = r := by
          have hkept : (Text.isAscii c && !f (Text.byte c)) = false := hc
          simp [replaceChar, hkept]
        have hmap : (before ++ c :: after).map (replaceChar f r) =
            before ++ r :: after.map (replaceChar f r) := by
          simp [map_replaceChar_of_isKept hbefore, hchar]
        rw [hmap]
        cases ha : Text.isAscii c with
        | true =>
            have hsize : c.utf8Size = 1 := Text.utf8Size_of_isAscii ha
            rw [hsize] at hnext
            simp only [replaceTail, hpos, hbyte, hsplit, Option.any_some, hascii, ha, Bool.not_true,
              Bool.false_eq_true, if_false, hnext, ih hrest, Option.map_some]
        | false =>
            -- the source reads the width of a wide character off the one behind it
            cases after with
            | nil =>
                simp only [replaceTail, hpos, hbyte, hsplit, Option.any_some, hascii, ha,
                  Bool.not_false, if_true, List.map_nil]
            | cons d after =>
                simp only [replaceTail, hpos, hbyte, hsplit, Option.any_some, hascii, ha,
                  Bool.not_false, if_true, hnext, ih hrest, Option.map_some]

theorem replaceSlices_eq_map (f : UInt8 → Bool) (r : Char) (s : Str) :
    replaceSlices f r s = some (s.map (replaceChar f r)) := by
  unfold replaceSlices
  split
  · rename_i hall
    have hbytes : ∀ b ∈ Text.bytes s, isReplaced f b = false := by
      simpa using hall
    rw [map_replaceChar_of_isKept (forall_isKept_of_bytes hbytes)]
  · exact replaceTail_eq_map f r (Nat.lt_succ_self _)

/-- Replace all characters that are either not ASCII, or matched by `f`. -/
def replaceChars (f : UInt8 → Bool) (replacementChar : Char) (s : Str) : Str :=
  (replaceSlices f replacementChar s).get (by rw [replaceSlices_eq_map]; rfl)

theorem replaceChars_eq_map (f : UInt8 → Bool) (r : Char) (s : Str) :
    replaceChars f r s = s.map (replaceChar f r) := by
  simp [replaceChars, replaceSlices_eq_map]

/-- Where the replacement does not show, nothing was replaced. -/
theorem eq_of_replaceChars_eq {f : UInt8 → Bool} {r : Char} {s t : Str}
    (h : replaceChars f r s = t) (hr : r ∉ t) : s = t := by
  rw [replaceChars_eq_map] at h
  have hsame : ∀ c ∈ s, c = replaceChar f r c := by
    intro c hc
    have hmem : replaceChar f r c ∈ t := h ▸ List.mem_map_of_mem hc
    exact eq_of_replaceChar_eq rfl fun heq => hr (heq ▸ hmem)
  calc
    s = s.map id := (List.map_id s).symm
    _ = s.map (replaceChar f r) := List.map_congr_left hsame
    _ = t := h

theorem replaceChar_eq_ite (f : UInt8 → Bool) (r c : Char) :
    replaceChar f r c = if ¬ Text.isAscii c ∨ f (Text.byte c) then r else c := by
  unfold replaceChar
  cases Text.isAscii c <;> cases f (Text.byte c) <;> rfl

/-- `replaceChars` replaces character by character: the loop ends within one round for each
character, none of its slices is inside a character, and it returns the map.  The string that the
first pass hands back as it stands is what the loop would have returned. -/
theorem replaceChars_characterwise (f : UInt8 → Bool) (replacementChar : Char) (s : Str) :
    let replaced := s.map fun c =>
      if ¬ Text.isAscii c ∨ f (Text.byte c) then replacementChar else c
    (∀ fuel > s.length, replaceTail f replacementChar fuel s = some replaced) ∧
      replaceSlices f replacementChar s = some replaced ∧
      replaceChars f replacementChar s = replaced ∧
      ((Text.bytes s).all (fun b => !isReplaced f b) → replaced = s) := by
  intro replaced
  have hmap : s.map (replaceChar f replacementChar) = replaced :=
    List.map_congr_left fun c _ => replaceChar_eq_ite f replacementChar c
  refine ⟨?_, ?_, ?_, ?_⟩
  · intro fuel hfuel
    exact (replaceTail_eq_map f replacementChar hfuel).trans (congrArg some hmap)
  · exact (replaceSlices_eq_map f replacementChar s).trans (congrArg some hmap)
  · exact (replaceChars_eq_map f replacementChar s).trans hmap
  · intro hfast
    have hbytes : ∀ b ∈ Text.bytes s, isReplaced f b = false := by
      simpa using hfast
    exact hmap.symm.trans (map_replaceChar_of_isKept (forall_isKept_of_bytes hbytes))

example : replaceChars (fun b => b == 98) '_' "漢a字cb".toList = "_a_c_".toList := by
  rw [replaceChars_eq_map]
  rfl

end Propagation
end DdTrace
