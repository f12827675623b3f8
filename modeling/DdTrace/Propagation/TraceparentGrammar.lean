import DdTrace.Lib.HexValue
import DdTrace.Lib.Utf8
import DdTrace.Propagation.SamplingReconciliation

/-!
# TraceparentGrammar — what the traceparent parser accepts

The parser of the source looks at bytes and slices at byte positions.  An index past the end or a
slice inside a character panics; the functions `…Slices` keep that outcome apart.  They never panic,
and compute what the functions over characters compute, because everything in front of a slice is a
hexadecimal digit or a dash.

The grammar is a structure `TraceparentFields` with its text: the parser accepts the texts of well
formed fields and no others (`traceparent_grammar`).
-/

namespace DdTrace
namespace Propagation
namespace TraceContext

open DdTrace.Lib DdTrace.Core

/-! ## The parser over bytes -/

/-- A parser that may panic (the outer `none`) or find nothing (the inner one). -/
abbrev Slices := OptionT Option

/-- An index or a slice: it panics if there is none. -/
def slice {α : Type} (x : Option α) : Slices α := OptionT.lift x

/-- The bytes `b'0'..=b'9' | b'a'..=b'f'`. -/
def isHexByte (b : UInt8) : Bool := inRange '0' '9' b || inRange 'a' 'f' b

def takeCharSlices (s : Str) (c : UInt8) : Slices Str :=
  if s.isEmpty then failure
  else do
    let b ← slice (Text.bytes s)[0]?
    if b ≠ c then failure
    -- the byte is a whole character only if it is ASCII
    else do
      let (_, rest) ← slice (Text.splitAtByte s 1)
      return rest

/-- The loop over the `k` bytes from the byte `i` on. -/
def hexLoop (bytes : List UInt8) (i : Nat) : Nat → Slices Unit
  | 0 => return ()
  | k + 1 => do
      let b ← slice bytes[i]?
      if !isHexByte b then failure else hexLoop bytes (i + 1) k

def takeNHexCharsSlices (s : Str) (n : Nat) : Slices (Str × Str) :=
  if Text.utf8Len s < n then failure
  else do
    hexLoop (Text.bytes s) 0 n
    -- digits have been read up to here, and so this is the end of a character
    slice (Text.splitAtByte s n)

def parseTraceparentComponentsSlices (traceparent : Str) : Slices TraceparentComponents := do
  let (version, rest) ← takeNHexCharsSlices traceparent 2
  let rest ← takeCharSlices rest (Text.byte '-')
  let (traceId, rest) ← takeNHexCharsSlices rest 32
  let rest ← takeCharSlices rest (Text.byte '-')
  let (spanId, rest) ← takeNHexCharsSlices rest 16
  let rest ← takeCharSlices rest (Text.byte '-')
  let (flags, rest) ← takeNHexCharsSlices rest 2
  -- the text may end with the flags, or go on behind a dash
  let tail ← if rest.isEmpty then pure [] else takeCharSlices rest (Text.byte '-')
  return {
    version := version
    traceId := traceId
    spanId := spanId
    flags := flags
    tail := tail }

/-- The rest of `extract_traceparent`, which does not slice. -/
def extractComponents (components : TraceparentComponents) : Except String Traceparent := do
  let traceId ← extractTraceId components.traceId
  let spanId ← extractSpanId components.spanId
  let traceFlags ← extractTraceFlags components.flags
  extractVersion components.version components.tail traceFlags
  let isSampled := traceFlags &&& 1 = 1
  .ok
    { samplingPriority := if isSampled then Priority.autoKeep else Priority.autoReject
      traceId := traceId
      spanId := spanId }

/-- `extract_traceparent` over bytes; `none` is a panic. -/
def extractTraceparentSlices (traceparent : Str) : Option (Except String Traceparent) :=
  (parseTraceparentComponentsSlices traceparent).run.map fun components =>
    match components with
    | some components => extractComponents components
    | none => .error "invalid traceparent"

/-! ## The slices never panic -/

/-- A result that was found, or not, without a panic. -/
def noPanic {α : Type} (x : Option α) : Slices α := OptionT.mk (some x)

theorem noPanic_bind {α β : Type} {x : Option α} {f : α → Slices β} {g : α → Option β}
    (h : ∀ a, f a = noPanic (g a)) : (noPanic x >>= f) = noPanic (x >>= g) := by
  cases x with
  | none => rfl
  | some a => exact h a

theorem slice_some {α β : Type} (a : α) (f : α → Slices β) : (slice (some a) >>= f) = f a := rfl

theorem isAscii_of_isHexChar {c : Char} (h : isHexChar c = true) : Text.isAscii c = true :=
  Numeral.isAscii_of_isHexDigit h

theorem isHexByte_of_isAscii {c : Char} (hc : Text.isAscii c = true) :
    isHexByte (Text.byte c) = isHexChar c :=
  Text.forall_isAscii (P := fun c => isHexByte (Text.byte c) = isHexChar c) (by decide) hc

theorem isHexByte_eq_false {b : UInt8} (h : Text.isAsciiByte b = false) : isHexByte b = false := by
  have hb : 128 ≤ b.toNat := by simpa [Text.isAsciiByte, UInt8.le_iff_toNat_le] using h
  have hdigits : '9'.toNat = 57 ∧ 'f'.toNat = 102 := ⟨rfl, rfl⟩
  simp only [isHexByte, inRange, Bool.or_eq_false_iff, Bool.and_eq_false_iff,
    decide_eq_false_iff_not]
  omega

/-- The first byte of a character tells whether it is a digit. -/
theorem head_bytes_hex (c : Char) (s : Str) :
    ∃ b, (Text.bytes (c :: s))[0]? = some b ∧ isHexByte b = isHexChar c := by
  cases hc : Text.isAscii c with
  | true =>
      exact ⟨Text.byte c, by simp [Text.utf8EncodeChar_of_isAscii hc], isHexByte_of_isAscii hc⟩
  | false =>
      obtain ⟨b, rest, hencode, hb⟩ := Text.utf8EncodeChar_of_not_isAscii hc
      refine ⟨b, by simp [hencode], ?_⟩
      rw [isHexByte_eq_false hb]
      cases hhex : isHexChar c with
      | true => rw [isAscii_of_isHexChar hhex] at hc; cases hc
      | false => rfl

/-- The first byte of a character tells whether it is the ASCII character `d`. -/
theorem head_bytes_eq {d : Char} (hd : Text.isAscii d = true) (c : Char) (s : Str) :
    ∃ b, (Text.bytes (c :: s))[0]? = some b ∧ (b = Text.byte d ↔ c = d) := by
  cases hc : Text.isAscii c with
  | true =>
      refine ⟨Text.byte c, by simp [Text.utf8EncodeChar_of_isAscii hc], ?_⟩
      exact ⟨Text.byte_inj hc hd, fun h => by rw [h]⟩
  | false =>
      obtain ⟨b, rest, hencode, hb⟩ := Text.utf8EncodeChar_of_not_isAscii hc
      refine ⟨b, by simp [hencode], ?_, ?_⟩
      · rintro rfl
        rw [Text.isAsciiByte_byte hd] at hb
        cases hb
      · rintro rfl
        rw [hd] at hc
        cases hc

theorem takeCharSlices_eq {d : Char} (hd : Text.isAscii d = true) (s : Str) :
    takeCharSlices s (Text.byte d) = noPanic (takeChar s d) := by
  cases s with
  | nil => rfl
  | cons c s =>
      obtain ⟨b, hb, hiff⟩ := head_bytes_eq hd c s
      simp only [takeCharSlices, List.isEmpty_cons, Bool.false_eq_true, if_false, hb, slice_some]
      by_cases hc : c = d
      · -- the slice is behind a character of one byte
        have hsize : c.utf8Size = 1 := by rw [hc, Text.utf8Size_of_isAscii hd]
        have hsplit : Text.splitAtByte (c :: s) 1 = some ([c], s) := by
          simpa [hsize] using Text.splitAtByte_append [c] s
        have hne : ¬ b ≠ Text.byte d := fun h => h (hiff.2 hc)
        simp only [if_neg hne, hsplit, slice_some, takeChar, if_pos hc]
        rfl
      · have hne : b ≠ Text.byte d := fun h => hc (hiff.1 h)
        simp only [if_pos hne, takeChar, if_neg hc]
        rfl

/-- A byte in front moves the loop by one. -/
theorem hexLoop_cons (b : UInt8) (bytes : List UInt8) (i k : Nat) :
    hexLoop (b :: bytes) (i + 1) k = hexLoop bytes i k := by
  induction k generalizing i with
  | zero => rfl
  | succ k ih => simp [hexLoop, ih]

/-- The loop reads one character for each byte, as long as they are digits. -/
theorem hexLoop_bytes (s : Str) (k : Nat) (hk : k ≤ Text.utf8Len s) :
    hexLoop (Text.bytes s) 0 k =
      noPanic (if (s.take k).length = k ∧ (s.take k).all isHexChar then some () else none) := by
  induction k generalizing s with
  | zero => simp [hexLoop]; rfl
  | succ k ih =>
      cases s with
      | nil => simp at hk
      | cons c s =>
          obtain ⟨b, hb, hhex⟩ := head_bytes_hex c s
          simp only [hexLoop, hb, slice_some, hhex]
          cases hc : isHexChar c with
          | false => simp [hc]; rfl
          | true =>
              have hascii := isAscii_of_isHexChar hc
              have hk' : k ≤ Text.utf8Len s := by
                rw [Text.utf8Len_cons, Text.utf8Size_of_isAscii hascii] at hk
                omega
              have hbytes : Text.bytes (c :: s) = Text.byte c :: Text.bytes s := by
                simp [Text.utf8EncodeChar_of_isAscii hascii]
              rw [hbytes, hexLoop_cons]
              simp [ih s hk', hc]

theorem takeNHexCharsSlices_eq (s : Str) (n : Nat) :
    takeNHexCharsSlices s n = noPanic (takeNHexChars s n) := by
  unfold takeNHexCharsSlices takeNHexChars
  by_cases hlen : Text.utf8Len s < n
  · -- there are not even `n` bytes
    have hshort : ¬ ((s.take n).length = n ∧ (s.take n).all isHexChar) := by
      intro h
      have hchars : n ≤ s.length := by simpa using h.1
      have := Text.length_le_utf8Len s
      omega
    rw [if_pos hlen, if_neg hshort]
    rfl
  · rw [if_neg hlen, hexLoop_bytes s n (Nat.le_of_not_lt hlen)]
    by_cases hdigits : (s.take n).length = n ∧ (s.take n).all isHexChar
    · -- the slice is behind `n` digits, which are `n` bytes
      have hascii : ∀ c ∈ s.take n, Text.isAscii c = true := fun c hc =>
        isAscii_of_isHexChar (List.all_eq_true.1 hdigits.2 c hc)
      have hsplit : Text.splitAtByte s n = some (s.take n, s.drop n) := by
        have := Text.splitAtByte_append (s.take n) (s.drop n)
        rwa [List.take_append_drop, Text.utf8Len_of_isAscii hascii, hdigits.1] at this
      simp only [if_pos hdigits, hsplit]
      rfl
    · simp only [if_neg hdigits]
      rfl

/-- The parser over bytes does not panic, and computes the one over characters. -/
theorem parseTraceparentComponentsSlices_eq (s : Str) :
    parseTraceparentComponentsSlices s = noPanic (parseTraceparentComponents s) := by
  have hdash : ∀ s, takeCharSlices s (Text.byte '-') = noPanic (takeChar s '-') :=
    takeCharSlices_eq (by decide)
  unfold parseTraceparentComponentsSlices parseTraceparentComponents
  simp only [takeNHexCharsSlices_eq, hdash]
  apply noPanic_bind
  rintro ⟨version, rest⟩
  apply noPanic_bind
  intro rest
  apply noPanic_bind
  rintro ⟨traceId, rest⟩
  apply noPanic_bind
  intro rest
  apply noPanic_bind
  rintro ⟨spanId, rest⟩
  apply noPanic_bind
  intro rest
  apply noPanic_bind
  rintro ⟨flags, rest⟩
  cases rest with
  | nil => rfl
  | cons c rest =>
      apply noPanic_bind
      intro tail
      rfl

theorem extractTraceparentSlices_eq (s : Str) :
    extractTraceparentSlices s = some (extractTraceparent s) := by
  unfold extractTraceparentSlices
  rw [parseTraceparentComponentsSlices_eq]
  unfold extractTraceparent
  cases parseTraceparentComponents s with
  | none => rfl
  | some components => rfl

/-! ## The grammar -/

/-- A text of `n` lowercase hexadecimal digits. -/
structure IsHexText (n : Nat) (s : Str) : Prop where
  length : s.length = n
  digits : ∀ c ∈ s, Numeral.isHexDigit c = true

/-- The fields of a header.  No tail is a header that ends behind the flags. -/
structure TraceparentFields where
  version : Str
  traceId : Str
  spanId : Str
  flags : Str
  tail : Option Str

namespace TraceparentFields

def text (fields : TraceparentFields) : Str :=
  fields.version ++ '-' :: (fields.traceId ++ '-' :: (fields.spanId ++ '-' :: (fields.flags ++
    fields.tail.elim [] fun tail => '-' :: tail)))

/-- The fields are digits, each as many as it should be. -/
structure Shape (fields : TraceparentFields) : Prop where
  version : IsHexText 2 fields.version
  traceId : IsHexText 32 fields.traceId
  spanId : IsHexText 16 fields.spanId
  flags : IsHexText 2 fields.flags

structure WellFormed (fields : TraceparentFields) : Prop extends Shape fields where
  traceId_ne_zero : ∃ c ∈ fields.traceId, c ≠ '0'
  spanId_ne_zero : ∃ c ∈ fields.spanId, c ≠ '0'
  version_ne : fields.version ≠ "ff".toList
  version_zero : fields.version = "00".toList →
    fields.tail.getD [] = [] ∧ Numeral.hexValue fields.flags ≤ 2

/-- What the header says: the values of the ids, and the lowest bit of the flags. -/
def value (fields : TraceparentFields) : Traceparent :=
  { samplingPriority :=
      SamplingPriority.fromI8 (if (Numeral.hexValue fields.flags).testBit 0 then 1 else 0)
    traceId := BitVec.ofNat 128 (Numeral.hexValue fields.traceId)
    spanId := BitVec.ofNat 64 (Numeral.hexValue fields.spanId) }

def components (fields : TraceparentFields) : TraceparentComponents :=
  { version := fields.version
    traceId := fields.traceId
    spanId := fields.spanId
    flags := fields.flags
    tail := fields.tail.getD [] }

end TraceparentFields

theorem takeChar_eq_some {s rest : Str} {c : Char} : takeChar s c = some rest ↔ s = c :: rest := by
  cases s with
  | nil => simp [takeChar]
  | cons d s => simp [takeChar]

theorem takeNHexChars_eq_some {s digits rest : Str} {n : Nat} :
    takeNHexChars s n = some (digits, rest) ↔ s = digits ++ rest ∧ IsHexText n digits := by
  constructor
  · intro h
    unfold takeNHexChars at h
    split_ifs at h with hcond
    rw [Option.some.injEq, Prod.mk.injEq] at h
    obtain ⟨rfl, rfl⟩ := h
    exact ⟨(List.take_append_drop n s).symm, hcond.1, List.all_eq_true.1 hcond.2⟩
  · rintro ⟨rfl, hdigits⟩
    exact takeNHexChars_append hdigits.length hdigits.digits rest

/-- The parser finds the components of the texts of fields that have the shape. -/
theorem parseTraceparentComponents_eq_some {s : Str} {components : TraceparentComponents} :
    parseTraceparentComponents s = some components ↔
      ∃ fields : TraceparentFields, fields.Shape ∧ s = fields.text ∧
        components = fields.components := by
  constructor
  · intro h
    simp only [parseTraceparentComponents, Option.bind_eq_bind, Option.bind_eq_some_iff,
      Prod.exists, takeNHexChars_eq_some, takeChar_eq_some] at h
    obtain ⟨version, _, ⟨rfl, hversion⟩, _, rfl, traceId, _, ⟨rfl, htraceId⟩, _, rfl, spanId, _,
      ⟨rfl, hspanId⟩, _, rfl, flags, rest, ⟨rfl, hflags⟩, htail⟩ := h
    cases rest with
    | nil =>
        refine ⟨⟨version, traceId, spanId, flags, none⟩, ⟨hversion, htraceId, hspanId, hflags⟩, rfl,
          ?_⟩
        exact (Option.some.inj htail).symm
    | cons c rest =>
        simp only [List.isEmpty_cons, Bool.false_eq_true, if_false, Option.bind_eq_some_iff,
          takeChar_eq_some] at htail
        obtain ⟨tail, hrest, hcomponents⟩ := htail
        refine ⟨⟨version, traceId, spanId, flags, some tail⟩,
          ⟨hversion, htraceId, hspanId, hflags⟩, ?_, (Option.some.inj hcomponents).symm⟩
        rw [hrest]
        rfl
  · rintro ⟨fields, hshape, rfl, rfl⟩
    have hversion := takeNHexChars_append hshape.version.length hshape.version.digits
    have htraceId := takeNHexChars_append hshape.traceId.length hshape.traceId.digits
    have hspanId := takeNHexChars_append hshape.spanId.length hshape.spanId.digits
    have hflags := takeNHexChars_append hshape.flags.length hshape.flags.digits
    simp only [parseTraceparentComponents, TraceparentFields.text, hversion, htraceId, hspanId,
      hflags, takeChar, if_true, Option.bind_eq_bind, Option.bind_some]
    cases htail : fields.tail with
    | none => simp [TraceparentFields.components, htail]
    | some tail => simp [TraceparentFields.components, htail]

/-! ## The fields -/

theorem IsHexText.anyCase {n : Nat} {s : Str} (h : IsHexText n s) :
    ∀ c ∈ s, Numeral.isHexDigitAnyCase c = true :=
  fun c hc => Numeral.isHexDigitAnyCase_of_isHexDigit (h.digits c hc)

/-- A text of digits is parsed as its value. -/
theorem IsHexText.parse {n : Nat} {s : Str} (h : IsHexText n s) (hn : 0 < n) :
    Numeral.parseUnsigned 16 (16 ^ n) s = some (Numeral.hexValue s) := by
  have hne : s ≠ [] := by
    rintro rfl
    rw [← h.length] at hn
    exact Nat.lt_irrefl 0 hn
  have hlt := Numeral.hexValue_lt h.anyCase
  rw [h.length] at hlt
  exact Numeral.parseUnsigned_hexValue hne h.anyCase hlt

/-- The value is zero only where all the digits are. -/
theorem IsHexText.value_ne_zero {n : Nat} {s : Str} (h : IsHexText n s) :
    Numeral.hexValue s ≠ 0 ↔ ∃ c ∈ s, c ≠ '0' := by
  rw [ne_eq, Numeral.hexValue_eq_zero h.anyCase]
  simp only [not_forall, exists_prop, ne_eq]

theorem extractTraceId_eq_ok {s : Str} (h : IsHexText 32 s) {traceId : BitVec 128} :
    extractTraceId s = .ok traceId ↔
      (∃ c ∈ s, c ≠ '0') ∧ traceId = BitVec.ofNat 128 (Numeral.hexValue s) := by
  have hparse : Numeral.parseUnsigned 16 (2 ^ 128) s = some (Numeral.hexValue s) :=
    h.parse (by decide)
  rw [← h.value_ne_zero, extractTraceId, hparse]
  by_cases hzero : Numeral.hexValue s = 0
  · simp [hzero]
  · simp [hzero, eq_comm]

theorem extractSpanId_eq_ok {s : Str} (h : IsHexText 16 s) {spanId : BitVec 64} :
    extractSpanId s = .ok spanId ↔
      (∃ c ∈ s, c ≠ '0') ∧ spanId = BitVec.ofNat 64 (Numeral.hexValue s) := by
  have hparse : Numeral.parseUnsigned 16 (2 ^ 64) s = some (Numeral.hexValue s) :=
    h.parse (by decide)
  rw [← h.value_ne_zero, extractSpanId, hparse]
  by_cases hzero : Numeral.hexValue s = 0
  · simp [hzero]
  · simp [hzero, eq_comm]

/-- Two digits are two bytes, and fit in a byte. -/
theorem extractTraceFlags_eq {s : Str} (h : IsHexText 2 s) :
    extractTraceFlags s = .ok (BitVec.ofNat 8 (Numeral.hexValue s)) := by
  have hparse : Numeral.parseUnsigned 16 (2 ^ 8) s = some (Numeral.hexValue s) :=
    h.parse (by decide)
  have hascii : ∀ c ∈ s, Text.isAscii c = true := fun c hc =>
    Numeral.isAscii_of_isHexDigit (h.digits c hc)
  have hlen : Text.utf8Len s = 2 := by rw [Text.utf8Len_of_isAscii hascii, h.length]
  simp only [extractTraceFlags, hlen, ne_eq, not_true_eq_false, if_false, hparse]

theorem extractVersion_eq_ok {version tail : Str} {flags : BitVec 8} :
    extractVersion version tail flags = .ok () ↔
      version ≠ "ff".toList ∧ (version = "00".toList → tail = [] ∧ flags.toNat ≤ 2) := by
  unfold extractVersion
  by_cases hff : version = "ff".toList
  · simp [hff]
  · rw [if_neg hff]
    by_cases hzero : version = "00".toList
    · cases tail with
      | nil => simp [hzero, BitVec.lt_def]
      | cons c tail => simp [hzero]
    · rw [if_neg hzero]
      exact ⟨fun _ => ⟨hff, fun h => absurd h hzero⟩, fun _ => rfl⟩

theorem bind_eq_ok {ε α β : Type} {x : Except ε α} {f : α → Except ε β} {b : β} :
    (x >>= f) = .ok b ↔ ∃ a, x = .ok a ∧ f a = .ok b := by
  cases x with
  | error e => simp [bind, Except.bind]
  | ok a => simp [bind, Except.bind]

theorem TraceparentFields.Shape.toNat_flags {fields : TraceparentFields} (h : fields.Shape) :
    (BitVec.ofNat 8 (Numeral.hexValue fields.flags)).toNat = Numeral.hexValue fields.flags := by
  have hlt := Numeral.hexValue_lt h.flags.anyCase
  rw [h.flags.length] at hlt
  rw [BitVec.toNat_ofNat]
  exact Nat.mod_eq_of_lt hlt

/-- The priority that the lowest bit of the flags stands for. -/
theorem TraceparentFields.samplingPriority_value (fields : TraceparentFields) :
    (if BitVec.ofNat 8 (Numeral.hexValue fields.flags) &&& 1 = 1 then Priority.autoKeep
      else Priority.autoReject) = fields.value.samplingPriority := by
  simp only [value, and_one_eq_one_iff]
  cases (Numeral.hexValue fields.flags).testBit 0 <;> rfl

/-- The components of fields that have the shape are accepted if the fields are well formed. -/
theorem extractComponents_eq_ok {fields : TraceparentFields} (hshape : fields.Shape)
    {traceparent : Traceparent} :
    extractComponents fields.components = .ok traceparent ↔
      fields.WellFormed ∧ traceparent = fields.value := by
  simp only [extractComponents, TraceparentFields.components, extractTraceFlags_eq hshape.flags,
    bind_eq_ok, extractTraceId_eq_ok hshape.traceId, extractSpanId_eq_ok hshape.spanId,
    Except.ok.injEq]
  constructor
  · rintro ⟨_, ⟨htraceId, rfl⟩, _, ⟨hspanId, rfl⟩, _, rfl, _, hversion, rfl⟩
    obtain ⟨hff, hzero⟩ := extractVersion_eq_ok.1 hversion
    rw [hshape.toNat_flags] at hzero
    refine ⟨⟨hshape, htraceId, hspanId, hff, hzero⟩, ?_⟩
    rw [fields.samplingPriority_value]
    rfl
  · rintro ⟨hfields, rfl⟩
    have hzero := hfields.version_zero
    rw [← hshape.toNat_flags] at hzero
    have hversion := extractVersion_eq_ok.2 ⟨hfields.version_ne, hzero⟩
    refine ⟨_, ⟨hfields.traceId_ne_zero, rfl⟩, _, ⟨hfields.spanId_ne_zero, rfl⟩, _, rfl, (),
      hversion, ?_⟩
    rw [fields.samplingPriority_value]
    rfl

/-- The parser accepts the texts of well formed fields, and reads what they say. -/
theorem extractTraceparent_eq_ok_iff {s : Str} {traceparent : Traceparent} :
    extractTraceparent s = .ok traceparent ↔
      ∃ fields : TraceparentFields, fields.WellFormed ∧ s = fields.text ∧
        traceparent = fields.value := by
  have hsteps : extractTraceparent s = .ok traceparent ↔
      ∃ components, parseTraceparentComponents s = some components ∧
        extractComponents components = .ok traceparent := by
    unfold extractTraceparent
    cases parseTraceparentComponents s with
    | none => simp [bind, Except.bind]
    | some components => simp [extractComponents, bind, Except.bind]
  rw [hsteps]
  simp only [parseTraceparentComponents_eq_some]
  constructor
  · rintro ⟨_, ⟨fields, hshape, htext, rfl⟩, hok⟩
    obtain ⟨hfields, hvalue⟩ := (extractComponents_eq_ok hshape).1 hok
    exact ⟨fields, hfields, htext, hvalue⟩
  · rintro ⟨fields, hfields, htext, hvalue⟩
    exact ⟨fields.components, ⟨fields, hfields.toShape, htext, rfl⟩,
      (extractComponents_eq_ok hfields.toShape).2 ⟨hfields, hvalue⟩⟩

/-- The values of the ids fit. -/
theorem TraceparentFields.Shape.toNat_ids {fields : TraceparentFields} (h : fields.Shape) :
    fields.value.traceId.toNat = Numeral.hexValue fields.traceId ∧
      fields.value.spanId.toNat = Numeral.hexValue fields.spanId := by
  have htraceId := Numeral.hexValue_lt h.traceId.anyCase
  have hspanId := Numeral.hexValue_lt h.spanId.anyCase
  rw [h.traceId.length] at htraceId
  rw [h.spanId.length] at hspanId
  constructor
  · exact (BitVec.toNat_ofNat _ _).trans (Nat.mod_eq_of_lt htraceId)
  · exact (BitVec.toNat_ofNat _ _).trans (Nat.mod_eq_of_lt hspanId)

/-! ## The grammar of the header -/

/-- The parser never panics.  It accepts the texts of well formed fields and no others, and reads
the values of their digits and the lowest bit of their flags; and it reads back what was injected. -/
theorem traceparent_grammar :
    (∀ s : Str, ∃ result, extractTraceparentSlices s = some result ∧
      ((∃ traceparent, result = .ok traceparent) ↔
        ∃ fields : TraceparentFields, fields.WellFormed ∧ s = fields.text) ∧
      ∀ fields : TraceparentFields, fields.WellFormed → s = fields.text →
        ∃ traceparent, result = .ok traceparent ∧
          traceparent.traceId.toNat = Numeral.hexValue fields.traceId ∧
          traceparent.spanId.toNat = Numeral.hexValue fields.spanId ∧
          traceparent.samplingPriority =
            SamplingPriority.fromI8 (if (Numeral.hexValue fields.flags).testBit 0 then 1 else 0)) ∧
      ∀ (context : InjectSpanContext) (carrier : Carrier), context.traceId ≠ 0 →
        context.spanId ≠ 0 →
        ∃ header traceparent,
          (injectTraceparent context carrier).get TRACEPARENT_KEY = some header ∧
          extractTraceparentSlices header = some (.ok traceparent) ∧
          traceparent.traceId = context.traceId ∧ traceparent.spanId = context.spanId ∧
          traceparent.samplingPriority.isKeep =
            context.sampling.priority.any fun priority => priority.isKeep := by
  constructor
  · intro s
    refine ⟨extractTraceparent s, extractTraceparentSlices_eq s, ?_, ?_⟩
    · constructor
      · rintro ⟨traceparent, hok⟩
        obtain ⟨fields, hfields, htext, -⟩ := extractTraceparent_eq_ok_iff.1 hok
        exact ⟨fields, hfields, htext⟩
      · rintro ⟨fields, hfields, htext⟩
        exact ⟨fields.value, extractTraceparent_eq_ok_iff.2 ⟨fields, hfields, htext, rfl⟩⟩
    · intro fields hfields htext
      obtain ⟨htraceId, hspanId⟩ := hfields.toShape.toNat_ids
      exact ⟨fields.value, extractTraceparent_eq_ok_iff.2 ⟨fields, hfields, htext, rfl⟩, htraceId,
        hspanId, rfl⟩
  · intro context carrier htraceId hspanId
    have hget : (injectTraceparent context carrier).get TRACEPARENT_KEY =
        some (traceparentText context.traceId context.spanId (keeps context)) := by
      rw [injectTraceparent_eq, Carrier.get_set_self]
    have hread := extractTraceparentSlices_eq
      (traceparentText context.traceId context.spanId (keeps context))
    rw [extractTraceparent_text htraceId hspanId] at hread
    exact ⟨_, ⟨flagPriority (keeps context), context.traceId, context.spanId⟩, hget, hread, rfl,
      rfl, isKeep_flagPriority (keeps context)⟩

end TraceContext
end Propagation
end DdTrace
