import DdTrace.Lib.Text
import Mathlib.Data.Nat.Bitwise

/-!
# Utf8 — characters and their bytes

The encoding is a prefix code whose first bytes occur nowhere else, so that a text can be cut between
two bytes exactly where a first byte, or the end, follows.

* `bytes_injective` — a text is known from its bytes;
* `split_bytes` — a cut of the bytes before a first byte is a cut of the text;
* `utf8Len_eq_length_iff` — the ASCII texts are those with as many bytes as characters.
-/

namespace DdTrace
namespace Lib
namespace Text

open UInt8 (IsUTF8FirstByte)

variable {c d : Char} {s t : Str} {b : UInt8} {u v : List UInt8}

/-! ## First bytes -/

theorem isUTF8FirstByte_of_isAsciiByte (h : isAsciiByte b = true) : b.IsUTF8FirstByte := by
  have hlt : b.toNat < 2 ^ 7 := by simpa [isAsciiByte, UInt8.lt_iff_toNat_lt] using h
  have hbit : b.toNat &&& 2 ^ 7 = 0 := by
    rw [Nat.and_two_pow, Nat.testBit_lt_two_pow hlt]
    rfl
  exact .inl (UInt8.toNat_inj.1 (by rw [UInt8.toNat_and]; exact hbit))

/-- The encoding of a character: a first byte, then bytes that are none. -/
theorem utf8EncodeChar_eq_cons (c : Char) :
    ∃ b rest, String.utf8EncodeChar c = b :: rest ∧ b.IsUTF8FirstByte ∧
      ∀ b' ∈ rest, ¬ b'.IsUTF8FirstByte := by
  cases hencode : String.utf8EncodeChar c with
  | nil => exact absurd hencode String.utf8EncodeChar_ne_nil
  | cons b rest =>
      have hfirst : ∀ i (hi : i < (b :: rest).length), (b :: rest)[i].IsUTF8FirstByte ↔ i = 0 := by
        intro i hi
        have hi' : i < (String.utf8EncodeChar c).length := by rwa [hencode]
        have hget := @UInt8.isUTF8FirstByte_getElem_utf8EncodeChar c i hi'
        simpa only [hencode] using hget
      refine ⟨b, rest, rfl, (hfirst 0 (by simp)).2 rfl, ?_⟩
      intro b' hmem hfirstByte
      obtain ⟨i, hi, rfl⟩ := List.getElem_of_mem hmem
      have hzero := (hfirst (i + 1) (by simpa using hi)).1 (by simpa using hfirstByte)
      exact Nat.succ_ne_zero i hzero

/-- A character that is not ASCII has no ASCII byte. -/
theorem not_isAsciiByte_of_mem (hc : isAscii c = false) (hb : b ∈ String.utf8EncodeChar c) :
    isAsciiByte b = false := by
  obtain ⟨first, rest, hencode, hfirst⟩ := utf8EncodeChar_of_not_isAscii hc
  obtain ⟨first', rest', hencode', -, hrest⟩ := utf8EncodeChar_eq_cons c
  obtain ⟨rfl, rfl⟩ : first' = first ∧ rest' = rest := by simpa [hencode'] using hencode
  rw [hencode, List.mem_cons] at hb
  rcases hb with rfl | hb
  · exact hfirst
  · rw [Bool.eq_false_iff]
    exact fun hascii => hrest b hb (isUTF8FirstByte_of_isAsciiByte hascii)

theorem byte_inj (hc : isAscii c = true) (hd : isAscii d = true) (h : byte c = byte d) : c = d := by
  have hc' : c.toNat < 128 := by simpa [isAscii] using hc
  have hd' : d.toNat < 128 := by simpa [isAscii] using hd
  have hnat := congrArg UInt8.toNat h
  simp only [byte, UInt8.toNat_ofNat'] at hnat
  exact Char.toNat_inj.1 (by omega)

/-- An ASCII byte occurs where its character does. -/
theorem byte_mem_bytes_iff (hc : isAscii c = true) : byte c ∈ bytes s ↔ c ∈ s := by
  constructor
  · intro hmem
    obtain ⟨d, hd, hbyte⟩ := List.mem_flatMap.1 hmem
    cases hascii : isAscii d with
    | true =>
        rw [utf8EncodeChar_of_isAscii hascii, List.mem_singleton] at hbyte
        rwa [byte_inj hc hascii hbyte]
    | false =>
        have hnot := not_isAsciiByte_of_mem hascii hbyte
        rw [isAsciiByte_byte hc] at hnot
        cases hnot
  · exact byte_mem_bytes hc

/-! ## Reading back -/

/-- No encoding is the beginning of another one. -/
theorem utf8EncodeChar_append_inj (h : String.utf8EncodeChar c ++ u = String.utf8EncodeChar d ++ v) :
    c = d ∧ u = v := by
  have hdecode : ∀ (e : Char) (w : List UInt8),
      ByteArray.utf8DecodeChar? (String.utf8EncodeChar e ++ w).toByteArray 0 = some e := by
    intro e w
    rw [List.toByteArray_append]
    exact ByteArray.utf8DecodeChar?_utf8EncodeChar_append
  have hcd : c = d := by
    have hc := hdecode c u
    rw [h, hdecode d v] at hc
    exact (Option.some.inj hc).symm
  subst hcd
  exact ⟨rfl, List.append_cancel_left h⟩

theorem bytes_injective (h : bytes s = bytes t) : s = t := by
  induction s generalizing t with
  | nil =>
      cases t with
      | nil => rfl
      | cons d t => simp [bytes, String.utf8EncodeChar_ne_nil] at h
  | cons c s ih =>
      cases t with
      | nil => simp [bytes, String.utf8EncodeChar_ne_nil] at h
      | cons d t =>
          obtain ⟨rfl, hrest⟩ := utf8EncodeChar_append_inj (by simpa only [bytes_cons] using h)
          rw [ih hrest]

/-! ## Cuts -/

/-- Whether bytes begin where a character can begin: they are none, or the first is a first byte. -/
def AtBoundary : List UInt8 → Prop
  | [] => True
  | b :: _ => b.IsUTF8FirstByte

theorem atBoundary_bytes (s : Str) : AtBoundary (bytes s) := by
  cases s with
  | nil => trivial
  | cons c s =>
      obtain ⟨b, rest, hencode, hfirst, -⟩ := utf8EncodeChar_eq_cons c
      rw [bytes_cons, hencode]
      exact hfirst

/-- A cut of the bytes before a first byte, or at the end, is a cut of the text. -/
theorem split_bytes (h : u ++ v = bytes s) (hv : AtBoundary v) :
    ∃ s₁ s₂, s₁ ++ s₂ = s ∧ bytes s₁ = u ∧ bytes s₂ = v := by
  induction s generalizing u with
  | nil =>
      obtain ⟨rfl, rfl⟩ := List.append_eq_nil_iff.1 h
      exact ⟨[], [], rfl, rfl, rfl⟩
  | cons c s ih =>
      rw [bytes_cons] at h
      rcases List.append_eq_append_iff.1 h with ⟨w, hu, hvw⟩ | ⟨w, rfl, hrest⟩
      · obtain ⟨b, rest, hencode, -, hlater⟩ := utf8EncodeChar_eq_cons c
        cases u with
        | nil => exact ⟨[], c :: s, rfl, rfl, by rw [bytes_cons, hu, hvw, List.nil_append]⟩
        | cons b' u =>
            obtain ⟨-, hrest⟩ : b = b' ∧ rest = u ++ w := by simpa [hencode] using hu
            cases w with
            | nil => exact ⟨[c], s, rfl, by simp [bytes, hu], by simpa using hvw.symm⟩
            | cons b'' w =>
                -- a cut inside of the first character is not before a first byte
                have hmem : b'' ∈ rest := by simp [hrest]
                rw [hvw] at hv
                exact absurd hv (hlater b'' hmem)
      · obtain ⟨s₁, s₂, rfl, rfl, rfl⟩ := ih hrest.symm
        exact ⟨c :: s₁, s₂, rfl, bytes_cons c s₁, rfl⟩

/-! ## Lengths -/

@[simp] theorem length_bytes (s : Str) : (bytes s).length = utf8Len s := by
  induction s with
  | nil => rfl
  | cons c s ih => rw [bytes_cons, List.length_append, String.length_utf8EncodeChar, ih, utf8Len_cons]

theorem eq_nil_of_utf8Len_eq_zero (h : utf8Len s = 0) : s = [] := by
  have hle := length_le_utf8Len s
  rw [h] at hle
  exact List.eq_nil_of_length_eq_zero (Nat.le_zero.1 hle)

/-- The bytes of a string are those of its characters. -/
theorem toByteArray_bytes (s : String) : (bytes s.toList).toByteArray = s.toByteArray :=
  String.utf8Encode_toList

theorem utf8Len_toList (s : String) : utf8Len s.toList = s.utf8ByteSize := by
  have hsize := congrArg ByteArray.size (toByteArray_bytes s)
  rwa [List.size_toByteArray, length_bytes] at hsize

theorem utf8Size_of_not_isAscii (h : isAscii c = false) : 2 ≤ c.utf8Size := by
  have hge : 128 ≤ c.toNat := by simpa [isAscii] using h
  have hval : ¬ c.val ≤ 127 := by
    rw [UInt32.le_iff_toNat_le]
    exact Nat.not_le_of_lt hge
  have hpos := Char.utf8Size_pos c
  have hne : c.utf8Size ≠ 1 := fun hone => hval (Char.utf8Size_eq_one_iff.1 hone)
  omega

/-- The ASCII texts are those with as many bytes as characters. -/
theorem utf8Len_eq_length_iff : utf8Len s = s.length ↔ ∀ c ∈ s, isAscii c = true := by
  constructor
  · intro hlen
    induction s with
    | nil => simp
    | cons c s ih =>
        have hle := length_le_utf8Len s
        have hpos := Char.utf8Size_pos c
        rw [utf8Len_cons, List.length_cons] at hlen
        have hc : isAscii c = true := by
          by_contra hnot
          have htwo := utf8Size_of_not_isAscii (Bool.eq_false_iff.2 hnot)
          omega
        intro d hd
        rcases List.mem_cons.1 hd with rfl | hd
        · exact hc
        · exact ih (by omega) d hd
  · exact utf8Len_of_isAscii

end Text
end Lib
end DdTrace
