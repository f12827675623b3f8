import Mathlib.Algebra.Ring.Nat
import Mathlib.Data.List.DropRight
import Mathlib.Data.List.ModifyLast
import Mathlib.Tactic.Common

/-!
# Text — strings as lists of characters

A string is the list of its characters; its length in bytes is `utf8Len`.  The operations are those
of a string library that splits at a separator, splits once, strips a prefix and trims white space.
The lemmas say how they undo joining.
-/

namespace DdTrace
namespace Lib

/-- A string, as the list of its characters. -/
abbrev Str := List Char

namespace Text

/-! ## Length in bytes -/

/-- The number of bytes of the UTF-8 encoding. -/
def utf8Len (s : Str) : Nat :=
  (s.map fun c => c.utf8Size).sum

@[simp] theorem utf8Len_nil : utf8Len [] = 0 := rfl

@[simp] theorem utf8Len_cons (c : Char) (s : Str) : utf8Len (c :: s) = c.utf8Size + utf8Len s := by
  simp [utf8Len]

@[simp] theorem utf8Len_append (s t : Str) : utf8Len (s ++ t) = utf8Len s + utf8Len t := by
  simp [utf8Len]

theorem length_le_utf8Len (s : Str) : s.length ≤ utf8Len s := by
  induction s with
  | nil => exact Nat.le_refl _
  | cons c s ih =>
      have hpos : 0 < c.utf8Size := Char.utf8Size_pos c
      rw [List.length_cons, utf8Len_cons]
      omega

/-- The ASCII characters are those of one byte. -/
def isAscii (c : Char) : Bool := c.toNat < 128

theorem utf8Size_of_isAscii {c : Char} (h : isAscii c = true) : c.utf8Size = 1 := by
  have hlt : c.toNat < 128 := by simpa [isAscii] using h
  have hval : c.val ≤ 127 := by
    rw [UInt32.le_iff_toNat_le]
    show c.toNat ≤ 127
    omega
  simp [Char.utf8Size, hval]

/-- A property of the ASCII characters can be checked code by code. -/
theorem forall_isAscii {P : Char → Prop} (h : ∀ n < 128, P (Char.ofNat n)) {c : Char}
    (hc : isAscii c = true) : P c := by
  have hlt : c.toNat < 128 := by simpa [isAscii] using hc
  simpa using h c.toNat hlt

/-- An ASCII string has as many bytes as characters. -/
theorem utf8Len_of_isAscii {s : Str} (h : ∀ c ∈ s, isAscii c = true) : utf8Len s = s.length := by
  induction s with
  | nil => rfl
  | cons c s ih =>
      have hc : c.utf8Size = 1 := utf8Size_of_isAscii (h c (List.mem_cons_self ..))
      have hs : utf8Len s = s.length := ih fun d hd => h d (List.mem_cons_of_mem _ hd)
      rw [utf8Len_cons, hc, hs, List.length_cons, Nat.add_comm]

/-! ## Bytes -/

/-- The bytes of the UTF-8 encoding. -/
def bytes (s : Str) : List UInt8 := s.flatMap String.utf8EncodeChar

@[simp] theorem bytes_cons (c : Char) (s : Str) :
    bytes (c :: s) = String.utf8EncodeChar c ++ bytes s := by
  simp [bytes]

@[simp] theorem bytes_append (s t : Str) : bytes (s ++ t) = bytes s ++ bytes t := by
  simp [bytes]

/-- The byte of an ASCII character. -/
def byte (c : Char) : UInt8 := UInt8.ofNat c.toNat

def isAsciiByte (b : UInt8) : Bool := b < 128

theorem utf8EncodeChar_of_isAscii {c : Char} (h : isAscii c = true) :
    String.utf8EncodeChar c = [byte c] := by
  have hlt : c.toNat < 128 := by simpa [isAscii] using h
  have hle : c.val.toNat ≤ 127 := Nat.le_of_lt_succ hlt
  unfold String.utf8EncodeChar byte
  simp only [if_pos hle]
  rfl

theorem isAsciiByte_byte {c : Char} (h : isAscii c = true) : isAsciiByte (byte c) = true := by
  have hlt : c.toNat < 128 := by simpa [isAscii] using h
  simp only [isAsciiByte, byte, decide_eq_true_eq, UInt8.lt_iff_toNat_lt, UInt8.toNat_ofNat']
  simp
  omega

theorem byte_mem_bytes {c : Char} {s : Str} (hc : isAscii c = true) (h : c ∈ s) :
    byte c ∈ bytes s :=
  List.mem_flatMap.2 ⟨c, h, by simp [utf8EncodeChar_of_isAscii hc]⟩

/-- The encoding of any other character starts with a byte that is not ASCII. -/
theorem utf8EncodeChar_of_not_isAscii {c : Char} (h : isAscii c = false) :
    ∃ b rest, String.utf8EncodeChar c = b :: rest ∧ isAsciiByte b = false := by
  have hge : 128 ≤ c.toNat := by simpa [isAscii] using h
  have hgt : ¬ c.val.toNat ≤ 127 := Nat.not_le_of_lt hge
  unfold String.utf8EncodeChar
  simp only [if_neg hgt]
  -- an encoding of two, three or four bytes
  split_ifs
  · refine ⟨_, _, rfl, ?_⟩
    simp [isAsciiByte, UInt8.le_iff_toNat_le]
    omega
  · refine ⟨_, _, rfl, ?_⟩
    simp [isAsciiByte, UInt8.le_iff_toNat_le]
    omega
  · refine ⟨_, _, rfl, ?_⟩
    simp [isAsciiByte, UInt8.le_iff_toNat_le]
    omega

/-- The two slices at a byte position; `none` if it is inside a character or past the end. -/
def splitAtByte : Str → Nat → Option (Str × Str)
  | s, 0 => some ([], s)
  | [], _ + 1 => none
  | c :: s, n + 1 =>
      if c.utf8Size ≤ n + 1 then
        (splitAtByte s (n + 1 - c.utf8Size)).map fun (before, after) => (c :: before, after)
      else none

theorem splitAtByte_append (s t : Str) : splitAtByte (s ++ t) (utf8Len s) = some (s, t) := by
  induction s with
  | nil => cases t <;> rfl
  | cons c s ih =>
      -- no character is empty, so the position is past the first one
      have hpos : 0 < c.utf8Size := Char.utf8Size_pos c
      obtain ⟨n, hn⟩ : ∃ n, c.utf8Size + utf8Len s = n + 1 :=
        ⟨c.utf8Size + utf8Len s - 1, by omega⟩
      have hle : c.utf8Size ≤ n + 1 := by omega
      have hrest : n + 1 - c.utf8Size = utf8Len s := by omega
      rw [utf8Len_cons, hn]
      simp [splitAtByte, hle, hrest, ih]

/-! ## Splitting -/

/-- The parts before and after the first `c`; `none` if there is none. -/
def splitOnce (c : Char) : Str → Option (Str × Str)
  | [] => none
  | x :: xs =>
      if x = c then some ([], xs)
      else (splitOnce c xs).map fun (before, after) => (x :: before, after)

theorem splitOnce_append {c : Char} {k : Str} (h : c ∉ k) (v : Str) :
    splitOnce c (k ++ c :: v) = some (k, v) := by
  induction k with
  | nil => simp [splitOnce]
  | cons x k ih =>
      have hx : x ≠ c := fun hxc => h (by simp [hxc])
      have hk : c ∉ k := fun hck => h (List.mem_cons_of_mem _ hck)
      simp [splitOnce, hx, ih hk]

theorem eq_of_splitOnce {c : Char} {s k v : Str} (h : splitOnce c s = some (k, v)) :
    s = k ++ c :: v ∧ c ∉ k := by
  induction s generalizing k v with
  | nil => cases h
  | cons x s ih =>
      by_cases hx : x = c
      · simp only [splitOnce, hx, if_true, Option.some.injEq, Prod.mk.injEq] at h
        rcases h with ⟨rfl, rfl⟩
        exact ⟨by rw [hx]; rfl, List.not_mem_nil⟩
      · simp only [splitOnce, if_neg hx, Option.map_eq_some_iff, Prod.mk.injEq] at h
        rcases h with ⟨⟨k', v'⟩, hsplit, rfl, rfl⟩
        rcases ih hsplit with ⟨rfl, hk⟩
        exact ⟨rfl, by simp [Ne.symm hx, hk]⟩

/-- The parts of a split are free of the separator. -/
theorem not_mem_of_mem_splitOn {c : Char} {s part : Str} (h : part ∈ s.splitOn c) : c ∉ part := by
  induction s generalizing part with
  | nil =>
      have hpart : part = [] := by simpa using h
      simp [hpart]
  | cons x s ih =>
      rcases List.exists_cons_of_ne_nil (List.splitOn_ne_nil c s) with ⟨first, others, hs⟩
      rw [hs] at ih
      by_cases hx : x = c
      · -- a separator starts a new part, any other character goes to the first one
        have hcases : part = [] ∨ part ∈ first :: others := by
          simpa [List.splitOn_cons_eq_if_modifyHead, hx, hs] using h
        rcases hcases with rfl | hpart
        · simp
        · exact ih hpart
      · have hcases : part = x :: first ∨ part ∈ others := by
          simpa [List.splitOn_cons_eq_if_modifyHead, hx, hs] using h
        rcases hcases with rfl | hpart
        · have hfirst : c ∉ first := ih (List.mem_cons_self ..)
          simpa [Ne.symm hx] using hfirst
        · exact ih (List.mem_cons_of_mem _ hpart)

/-- Splitting a string to which parts were appended, each behind a separator. -/
theorem splitOn_append_flatMap (c : Char) (s : Str) (parts : List Str) :
    (s ++ parts.flatMap fun part => c :: part).splitOn c =
      s.splitOn c ++ parts.flatMap fun part => part.splitOn c := by
  induction parts generalizing s with
  | nil => simp
  | cons part parts ih =>
      calc
        (s ++ (part :: parts).flatMap fun part => c :: part).splitOn c
            = (s ++ c :: (part ++ parts.flatMap fun part => c :: part)).splitOn c := by
              simp
        _ = s.splitOn c ++ (part ++ parts.flatMap fun part => c :: part).splitOn c :=
              List.splitOn_append_cons_self s _
        _ = s.splitOn c ++ (part :: parts).flatMap fun part => part.splitOn c := by
              simp [ih part]

/-- Text without the separator goes to the first part of what it stands before. -/
theorem splitOn_append_of_not_mem {c : Char} {s : Str} (h : c ∉ s) (t : Str) :
    (s ++ t).splitOn c = (t.splitOn c).modifyHead (s ++ ·) := by
  rcases List.exists_cons_of_ne_nil (List.splitOn_ne_nil c t) with ⟨first, others, ht⟩
  induction s with
  | nil => simp [ht]
  | cons x s ih =>
      have hx : x ≠ c := by
        rintro rfl
        exact h (List.mem_cons_self ..)
      have hrest := ih fun hs => h (List.mem_cons_of_mem _ hs)
      rw [ht] at hrest ⊢
      simp [List.splitOn_cons_eq_if_modifyHead, hx, hrest]

/-- The last part of a split is open: text without the separator goes on with it. -/
theorem exists_open_part (c : Char) (s : Str) :
    ∃ closed last, ∀ t, c ∉ t → (s ++ t).splitOn c = closed ++ [last ++ t] := by
  induction s with
  | nil => exact ⟨[], [], fun t ht => List.splitOn_eq_singleton ht⟩
  | cons x s ih =>
      rcases ih with ⟨closed, last, hparts⟩
      by_cases hx : x = c
      · refine ⟨[] :: closed, last, ?_⟩
        intro t ht
        simp [List.splitOn_cons_eq_if_modifyHead, hx, hparts t ht]
      · -- the character goes to the first part, which may be the open one
        cases closed with
        | nil =>
            refine ⟨[], x :: last, ?_⟩
            intro t ht
            simp [List.splitOn_cons_eq_if_modifyHead, hx, hparts t ht]
        | cons first closed =>
            refine ⟨(x :: first) :: closed, last, ?_⟩
            intro t ht
            simp [List.splitOn_cons_eq_if_modifyHead, hx, hparts t ht]

/-- The length of a joined text: a separator stands behind every part but the last. -/
theorem utf8Len_intercalate (c : Char) {parts : List Str} (hne : parts ≠ []) :
    utf8Len ([c].intercalate parts) + c.utf8Size =
      (parts.map fun part => utf8Len part + c.utf8Size).sum := by
  induction parts with
  | nil => exact absurd rfl hne
  | cons part parts ih =>
      cases parts with
      | nil => simp [List.intercalate]
      | cons next parts =>
          have hstep : [c].intercalate (part :: next :: parts) =
              part ++ c :: [c].intercalate (next :: parts) := by
            simp [List.intercalate]
          have hrest := ih (List.cons_ne_nil _ _)
          rw [hstep, utf8Len_append, utf8Len_cons, List.map_cons, List.sum_cons, ← hrest]
          omega

/-- The parts of a split, with their separators, are as long as the text. -/
theorem sum_utf8Len_splitOn (c : Char) (s : Str) :
    ((s.splitOn c).map fun part => utf8Len part + c.utf8Size).sum = utf8Len s + c.utf8Size := by
  rw [← utf8Len_intercalate c (List.splitOn_ne_nil c s), List.intercalate_splitOn]

/-- The first part of a split ends at the first separator. -/
theorem head?_splitOn (c : Char) (s : Str) :
    (s.splitOn c).head? = some (s.takeWhile fun x => x != c) := by
  induction s with
  | nil => simp
  | cons x s ih =>
      by_cases hx : x = c
      · simp [List.splitOn_cons_eq_if_modifyHead, hx]
      · rcases List.exists_cons_of_ne_nil (List.splitOn_ne_nil c s) with ⟨first, others, hs⟩
        have hfirst : first = s.takeWhile fun x => x != c := by simpa [hs] using ih
        simp [List.splitOn_cons_eq_if_modifyHead, hx, hs, hfirst]

/-- The rest after a prefix; `none` if the string does not start with it. -/
def stripPrefix (p s : Str) : Option Str :=
  if p.isPrefixOf s then some (s.drop p.length) else none

theorem stripPrefix_eq_some {p s r : Str} : stripPrefix p s = some r ↔ s = p ++ r := by
  unfold stripPrefix
  constructor
  · intro h
    split at h
    · rename_i hp
      obtain ⟨t, rfl⟩ := List.isPrefixOf_iff_prefix.1 hp
      simp only [List.drop_left, Option.some.injEq] at h
      rw [h]
    · cases h
  · rintro rfl
    simp

/-- The part before a suffix; `none` if the string does not end in it. -/
def stripSuffix (p s : Str) : Option Str :=
  (stripPrefix p.reverse s.reverse).map List.reverse

/-! ## White space -/

/-- The characters with the Unicode property `White_Space`. -/
def isWhitespace (c : Char) : Bool :=
  let n := c.toNat
  (9 ≤ n && n ≤ 13) || n == 0x20 || n == 0x85 || n == 0xA0 || n == 0x1680 ||
    (0x2000 ≤ n && n ≤ 0x200A) || n == 0x2028 || n == 0x2029 || n == 0x202F || n == 0x205F ||
    n == 0x3000

/-- The string without the white space at its two ends. -/
def trim (s : Str) : Str :=
  (s.dropWhile isWhitespace).rdropWhile isWhitespace

/-- The string without the white space at its end. -/
def trimEnd (s : Str) : Str := s.rdropWhile isWhitespace

@[simp] theorem trimEnd_nil : trimEnd [] = [] := rfl

theorem trim_cons {c : Char} (h : isWhitespace c = false) (s : Str) :
    trim (c :: s) = trimEnd (c :: s) := by
  simp [trim, trimEnd, h]

/-- A string that ends in another character keeps its end. -/
theorem trimEnd_concat {c : Char} (h : isWhitespace c = false) (s : Str) :
    trimEnd (s ++ [c]) = s ++ [c] :=
  List.rdropWhile_concat_neg _ _ _ (by simp [h])

theorem trimEnd_eq_self {s : Str} (h : ∀ c ∈ s.getLast?, isWhitespace c = false) :
    trimEnd s = s := by
  rcases List.eq_nil_or_concat' s with rfl | ⟨init, c, rfl⟩
  · rfl
  · exact trimEnd_concat (h c (by simp)) init

/-- Trimming does not go beyond a character that is no white space. -/
theorem trimEnd_append_cons {c : Char} (h : isWhitespace c = false) (s t : Str) :
    trimEnd (s ++ c :: t) = s ++ c :: trimEnd t := by
  -- by induction from the end, where the trimming takes place
  induction t using List.reverseRecOn with
  | nil => exact trimEnd_concat h s
  | append_singleton t d ih =>
      have hassoc : s ++ c :: (t ++ [d]) = (s ++ c :: t) ++ [d] := by simp
      rw [hassoc]
      cases hd : isWhitespace d with
      | false =>
          rw [trimEnd_concat hd, trimEnd_concat hd, hassoc]
      | true =>
          have hleft : trimEnd ((s ++ c :: t) ++ [d]) = trimEnd (s ++ c :: t) :=
            List.rdropWhile_concat_pos _ _ _ hd
          have hright : trimEnd (t ++ [d]) = trimEnd t := List.rdropWhile_concat_pos _ _ _ hd
          rw [hleft, hright, ih]

/-- Trimming a string of parts, each behind a separator, trims the last part. -/
theorem trimEnd_append_flatMap {c : Char} (h : isWhitespace c = false) (s : Str)
    {parts : List Str} (hne : parts ≠ []) :
    trimEnd (s ++ parts.flatMap fun part => c :: part) =
      s ++ (parts.modifyLast trimEnd).flatMap fun part => c :: part := by
  rcases List.eq_nil_or_concat' parts with rfl | ⟨init, last, rfl⟩
  · exact absurd rfl hne
  · calc
      trimEnd (s ++ (init ++ [last]).flatMap fun part => c :: part)
          = trimEnd ((s ++ init.flatMap fun part => c :: part) ++ c :: last) := by
            simp
      _ = (s ++ init.flatMap fun part => c :: part) ++ c :: trimEnd last :=
            trimEnd_append_cons h _ last
      _ = s ++ ((init ++ [last]).modifyLast trimEnd).flatMap fun part => c :: part := by
            simp [List.modifyLast_concat]

theorem mem_of_mem_trimEnd {c : Char} {s : Str} (h : c ∈ trimEnd s) : c ∈ s :=
  (List.rdropWhile_prefix isWhitespace s).subset h

theorem mem_of_mem_trim {c : Char} {s : Str} (h : c ∈ trim s) : c ∈ s :=
  (List.dropWhile_suffix isWhitespace).subset (mem_of_mem_trimEnd h)

@[simp] theorem trim_trim (s : Str) : trim (trim s) = trim s := by
  -- what is left begins as it did before its end was cut off
  have hstart : (trim s).dropWhile isWhitespace = trim s := by
    refine List.dropWhile_eq_self_iff.2 fun hne => ?_
    have hfirst : trim s <+: s.dropWhile isWhitespace := List.rdropWhile_prefix _ _
    have hlen : 0 < (s.dropWhile isWhitespace).length := Nat.lt_of_lt_of_le hne hfirst.length_le
    rw [hfirst.getElem hne]
    exact List.dropWhile_get_zero_not _ _ hlen
  calc
    trim (trim s) = (trim s).rdropWhile isWhitespace := congrArg (List.rdropWhile isWhitespace) hstart
    _ = trim s := List.rdropWhile_idempotent _ _

/-- A map that keeps white space apart commutes with trimming. -/
theorem trimEnd_map {f : Char → Char} (h : ∀ c, isWhitespace (f c) = isWhitespace c) (s : Str) :
    trimEnd (s.map f) = (trimEnd s).map f := by
  have hcomp : (isWhitespace ∘ f) = isWhitespace := funext h
  simp [trimEnd, List.rdropWhile, ← List.map_reverse, List.dropWhile_map, hcomp]

end Text

end Lib
end DdTrace
