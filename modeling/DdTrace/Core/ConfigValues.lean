import DdTrace.Core.ConfigSources
import DdTrace.Lib.Binary64Product
import DdTrace.Lib.Numeral

/-!
# ConfigValues — how the values of the settings are read and reported

Each type of setting is read from a text and, for telemetry, printed.  What is printed need not be the
text that was read: lists are trimmed, and unknown names dropped.  But it is read as the same value, which
is what `ReadsBack` says of a type.
-/

namespace DdTrace
namespace Core

open Lib

/-- A type of setting, read and printed. -/
structure ConfigType (α : Type*) extends FromStr α where
  getConfigurationValue : α → Str

/-- What is printed of a value that was read is read as that value. -/
def ConfigType.ReadsBack {α : Type*} (self : ConfigType α) : Prop :=
  ∀ text value, self.fromStr text = .ok value →
    self.fromStr (self.getConfigurationValue value) = .ok value

/-! ## Integers -/

inductive IntErrorKind
  | empty
  | invalidDigit
  | posOverflow
  | negOverflow

def IntErrorKind.display : IntErrorKind → Str
  | .empty => "cannot parse integer from empty string".toList
  | .invalidDigit => "invalid digit found in string".toList
  | .posOverflow => "number too large to fit in target type".toList
  | .negOverflow => "number too small to fit in target type".toList

/-- The digits of a number, away from zero. -/
def checkedDigits (lo hi : Int) (isPositive : Bool) : Int → Str → Except IntErrorKind Int
  | result, [] => .ok result
  | result, c :: digits =>
      match Numeral.toDigit 10 c with
      | none => .error .invalidDigit
      | some x =>
          if isPositive then
            if hi < result * 10 + x then .error .posOverflow
            else checkedDigits lo hi isPositive (result * 10 + x) digits
          else
            if result * 10 - x < lo then .error .negOverflow
            else checkedDigits lo hi isPositive (result * 10 - x) digits

/-- An integer of a type with these bounds; a minus belongs to the number in a signed type. -/
def intFromStr (lo hi : Int) (src : Str) : Except IntErrorKind Int :=
  match src with
  | [] => .error .empty
  | '+' :: digits =>
      if digits = [] then .error .invalidDigit else checkedDigits lo hi true 0 digits
  | '-' :: digits =>
      if digits = [] then .error .invalidDigit
      else if lo < 0 then checkedDigits lo hi false 0 digits
      else checkedDigits lo hi true 0 src
  | _ => checkedDigits lo hi true 0 src

theorem le_of_digitsValue {s : Str} {acc v : Nat} (h : Numeral.digitsValue 10 acc s = some v) :
    acc ≤ v := by
  induction s generalizing acc with
  | nil =>
      rw [Numeral.digitsValue, Option.some.injEq] at h
      omega
  | cons c s ih =>
      cases hc : Numeral.toDigit 10 c with
      | none => simp [Numeral.digitsValue, hc] at h
      | some x =>
          simp only [Numeral.digitsValue, hc] at h
          have := ih h
          omega

/-- Digits whose number is in the range never leave it. -/
theorem checkedDigits_of_digitsValue {lo hi : Int} {s : Str} {acc v : Nat}
    (h : Numeral.digitsValue 10 acc s = some v) :
    ((v : Int) ≤ hi → checkedDigits lo hi true acc s = .ok (v : Int)) ∧
      (lo ≤ -(v : Int) → checkedDigits lo hi false (-acc) s = .ok (-(v : Int))) := by
  induction s generalizing acc with
  | nil =>
      rw [Numeral.digitsValue, Option.some.injEq] at h
      subst h
      exact ⟨fun _ => rfl, fun _ => rfl⟩
  | cons c s ih =>
      cases hc : Numeral.toDigit 10 c with
      | none => simp [Numeral.digitsValue, hc] at h
      | some x =>
          simp only [Numeral.digitsValue, hc] at h
          obtain ⟨hpos, hneg⟩ := ih h
          have hle := le_of_digitsValue h
          constructor
          · intro hv
            have hcast : (acc : Int) * 10 + x = ((acc * 10 + x : Nat) : Int) := by push_cast; rfl
            have hrange : ¬ hi < ((acc * 10 + x : Nat) : Int) := by omega
            rw [checkedDigits, hc]
            simp only [if_true, hcast, if_neg hrange]
            exact hpos hv
          · intro hv
            have hcast : -(acc : Int) * 10 - x = -((acc * 10 + x : Nat) : Int) := by
              push_cast
              ring
            have hrange : ¬ -((acc * 10 + x : Nat) : Int) < lo := by omega
            rw [checkedDigits, hc]
            simp only [Bool.false_eq_true, if_false, hcast, if_neg hrange]
            exact hneg hv

theorem intFromStr_intDecimal {lo hi i : Int} (hlo : lo ≤ i) (hhi : i ≤ hi) :
    intFromStr lo hi (Numeral.intDecimal i) = .ok i := by
  have hdigits : Numeral.digitsValue 10 0 (Numeral.decimal i.natAbs) = some i.natAbs :=
    Numeral.digitsValue_toDigits (by decide) (by decide) i.natAbs
  have hread := @checkedDigits_of_digitsValue lo hi _ _ _ hdigits
  have hne : Numeral.decimal i.natAbs ≠ [] := Nat.toDigits_ne_nil
  by_cases hneg : i < 0
  · have habs : -(i.natAbs : Int) = i := by omega
    have hsigned : lo < 0 := by omega
    rw [habs] at hread
    rw [Numeral.intDecimal, if_pos hneg, intFromStr, if_neg hne, if_pos hsigned]
    exact hread.2 hlo
  · have habs : (i.natAbs : Int) = i := by omega
    rw [habs] at hread
    rw [Numeral.intDecimal, if_neg hneg]
    -- the first digit is no sign
    cases hs : Numeral.decimal i.natAbs with
    | nil => exact absurd hs hne
    | cons c s =>
        rw [hs] at hdigits hread
        obtain ⟨hplus, hminus⟩ := Numeral.head_ne_sign hdigits
        have hplain : intFromStr lo hi (c :: s) = checkedDigits lo hi true 0 (c :: s) := by
          unfold intFromStr
          split <;> simp_all
        rw [hplain]
        exact hread.1 hhi

def intType (typeName : Str) (lo hi : Int) : ConfigType Int :=
  { typeName := typeName
    fromStr := fun s => (intFromStr lo hi s).mapError IntErrorKind.display
    getConfigurationValue := Numeral.intDecimal }

/-- A fixed-width type is read through its integers. -/
def u32Type : ConfigType UInt32 :=
  { toFromStr := (intType "u32".toList 0 (2 ^ 32 - 1)).toFromStr.map fun n => .ofNat n.toNat
    getConfigurationValue := fun n => Numeral.intDecimal n.toNat }

def usizeType : ConfigType UInt64 :=
  { toFromStr := (intType "usize".toList 0 (2 ^ 64 - 1)).toFromStr.map fun n => .ofNat n.toNat
    getConfigurationValue := fun n => Numeral.intDecimal n.toNat }

def i32Type : ConfigType Int32 :=
  { toFromStr := (intType "i32".toList (-2 ^ 31) (2 ^ 31 - 1)).toFromStr.map .ofInt
    getConfigurationValue := fun n => Numeral.intDecimal n.toInt }

theorem fromStr_intType {typeName : Str} {lo hi i : Int} (hlo : lo ≤ i) (hhi : i ≤ hi) :
    (intType typeName lo hi).fromStr (Numeral.intDecimal i) = .ok i := by
  simp [intType, intFromStr_intDecimal hlo hhi, Except.mapError]

theorem fromStr_u32Type (n : UInt32) :
    u32Type.fromStr (u32Type.getConfigurationValue n) = .ok n := by
  have hlt := n.toNat_lt
  have hread := @fromStr_intType "u32".toList 0 (2 ^ 32 - 1) n.toNat (by omega) (by omega)
  simp only [u32Type, FromStr.map, hread]
  exact congrArg Except.ok (UInt32.ofNat_toNat)

theorem fromStr_usizeType (n : UInt64) :
    usizeType.fromStr (usizeType.getConfigurationValue n) = .ok n := by
  have hlt := n.toNat_lt
  have hread := @fromStr_intType "usize".toList 0 (2 ^ 64 - 1) n.toNat (by omega) (by omega)
  simp only [usizeType, FromStr.map, hread]
  exact congrArg Except.ok (UInt64.ofNat_toNat)

theorem fromStr_i32Type (n : Int32) :
    i32Type.fromStr (i32Type.getConfigurationValue n) = .ok n := by
  have hread := @fromStr_intType "i32".toList (-2 ^ 31) (2 ^ 31 - 1) n.toInt n.le_toInt
    (by have := n.toInt_lt; omega)
  simp only [i32Type, FromStr.map, hread]
  exact congrArg Except.ok (Int32.ofInt_toInt n)

/-! ## Texts and switches -/

def stringType : ConfigType Str :=
  { typeName := "alloc::string::String".toList
    fromStr := .ok
    getConfigurationValue := id }

/-- A setting that may be absent is present once it is read. -/
def optionalStringType : ConfigType (Option Str) :=
  { toFromStr := stringType.toFromStr.map some
    getConfigurationValue := fun value => value.getD [] }

def boolType : ConfigType Bool :=
  { typeName := "bool".toList
    fromStr := fun s =>
      if s = "true".toList then .ok true
      else if s = "false".toList then .ok false
      else .error "provided string was not `true` or `false`".toList
    getConfigurationValue := fun value => if value then "true".toList else "false".toList }

inductive LevelFilter
  | off
  | error
  | warn
  | info
  | debug
  deriving DecidableEq

namespace LevelFilter

def display : LevelFilter → Str
  | debug => "DEBUG".toList
  | info => "INFO".toList
  | warn => "WARN".toList
  | error => "ERROR".toList
  | off => "OFF".toList

/-- The names, in letters of either case. -/
def fromStr (s : Str) : Except Str LevelFilter :=
  let lowered := s.map Char.toLower
  if lowered = "debug".toList then .ok debug
  else if lowered = "info".toList then .ok info
  else if lowered = "warn".toList then .ok warn
  else if lowered = "error".toList then .ok error
  else if lowered = "off".toList then .ok off
  else .error "log level filter should be one of DEBUG, INFO, WARN, ERROR, OFF".toList

end LevelFilter

def levelFilterType : ConfigType LevelFilter :=
  { typeName := "dd_trace::log::LevelFilter".toList
    fromStr := LevelFilter.fromStr
    getConfigurationValue := LevelFilter.display }

theorem readsBack_stringType : stringType.ReadsBack := fun _ _ _ => rfl

theorem readsBack_optionalStringType : optionalStringType.ReadsBack := by
  intro text value h
  cases h
  rfl

theorem fromStr_boolType (value : Bool) :
    boolType.fromStr (boolType.getConfigurationValue value) = .ok value := by
  cases value <;> decide

theorem fromStr_levelFilterType (value : LevelFilter) :
    levelFilterType.fromStr (levelFilterType.getConfigurationValue value) = .ok value := by
  cases value <;> decide

/-! ## Doubles -/

/-- How the standard library reads and prints doubles. -/
structure F64Text where
  fromStr : Str → Except Str F64
  display : F64 → Str

/-- A double is printed so that it is read back, and there is one text for all that are no number. -/
structure F64Text.Lawful (api : F64Text) : Prop where
  number : ∀ x, Binary64.isNaN x = false → api.fromStr (api.display x) = .ok x
  noNumber : ∀ x, Binary64.isNaN x = true → api.fromStr (api.display x) = .ok Binary64.nan
  read : ∀ text x, api.fromStr text = .ok x → Binary64.isNaN x = true →
    Binary64.abs x = Binary64.nan

def RC_DEFAULT_POLL_INTERVAL : F64 := 0x4014000000000000

def f64Type (api : F64Text) : ConfigType F64 :=
  { typeName := "f64".toList
    fromStr := api.fromStr
    getConfigurationValue := api.display }

/-- An interval has no sign. -/
def intervalType (api : F64Text) : ConfigType F64 :=
  { f64Type api with toFromStr := (f64Type api).toFromStr.map Binary64.abs }

/-- How often remote configuration is polled, at most every five seconds. -/
def pollInterval (seconds : F64) : F64 := Binary64.minNum (Binary64.abs seconds) RC_DEFAULT_POLL_INTERVAL

def pollIntervalType (api : F64Text) : ConfigType F64 :=
  { f64Type api with toFromStr := (f64Type api).toFromStr.map pollInterval }

/-- Whatever is asked for, the interval is between zero and five seconds. -/
theorem pollInterval_bounds (seconds : F64) :
    Binary64.isNegative (pollInterval seconds) = false ∧
      Binary64.le (pollInterval seconds) RC_DEFAULT_POLL_INTERVAL = true :=
  Binary64.minNum_bounds (Binary64.isNegative_abs seconds) (by decide) (by decide)

theorem pollInterval_pollInterval (seconds : F64) :
    pollInterval (pollInterval seconds) = pollInterval seconds := by
  obtain ⟨hsign, hle⟩ := pollInterval_bounds seconds
  calc
    pollInterval (pollInterval seconds) =
        Binary64.minNum (pollInterval seconds) RC_DEFAULT_POLL_INTERVAL :=
      congrArg (fun x => Binary64.minNum x RC_DEFAULT_POLL_INTERVAL) (Binary64.abs_eq_self hsign)
    _ = pollInterval seconds := Binary64.minNum_eq_left hle

/-- What was read before a change, and what is read after it. -/
theorem of_map_eq_ok {α β : Type*} {reader : FromStr α} {transform : α → β} {text : Str} {value : β}
    (h : (reader.map transform).fromStr text = .ok value) :
    ∃ x, reader.fromStr text = .ok x ∧ transform x = value := by
  rw [FromStr.map] at h
  cases hread : reader.fromStr text with
  | error e => simp [hread, Except.map] at h
  | ok x =>
      refine ⟨x, rfl, ?_⟩
      simpa [hread, Except.map] using h

theorem fromStr_map {α β : Type*} {reader : FromStr α} (transform : α → β) {text : Str} {x : α}
    (h : reader.fromStr text = .ok x) : (reader.map transform).fromStr text = .ok (transform x) := by
  simp only [FromStr.map, h]
  rfl

theorem readsBack_intervalType {api : F64Text} (hapi : api.Lawful) :
    (intervalType api).ReadsBack := by
  intro text value h
  obtain ⟨x, hread, rfl⟩ := of_map_eq_ok h
  by_cases hnan : Binary64.isNaN x = true
  · have habs : Binary64.abs x = Binary64.nan := hapi.read text x hread hnan
    have hback := @fromStr_map _ _ (f64Type api).toFromStr Binary64.abs _ _
      (hapi.noNumber (Binary64.abs x) (by simpa using hnan))
    rw [← habs, Binary64.abs_abs] at hback
    exact hback
  · have hback := @fromStr_map _ _ (f64Type api).toFromStr Binary64.abs _ _
      (hapi.number (Binary64.abs x) (by simpa using hnan))
    rw [Binary64.abs_abs] at hback
    exact hback

theorem readsBack_pollIntervalType {api : F64Text} (hapi : api.Lawful) :
    (pollIntervalType api).ReadsBack := by
  intro text value h
  obtain ⟨x, -, rfl⟩ := of_map_eq_ok h
  have hnan := (Binary64.le_iff.1 (pollInterval_bounds x).2).1
  have hback := @fromStr_map _ _ (f64Type api).toFromStr pollInterval _ _ (hapi.number _ hnan)
  rw [pollInterval_pollInterval] at hback
  exact hback

/-! ## Lists -/

/-- The lower case of a character that is no letter of English is none of the letters of these names. -/
def TracePropagationStyle.fromStr (s : Str) : Except Str TracePropagationStyle :=
  let lowered := (Text.trim s).map Char.toLower
  if lowered = "datadog".toList then .ok .datadog
  else if lowered = "tracecontext".toList then .ok .traceContext
  else if lowered = "none".toList then .ok .none
  else .error ("Unknown trace propagation style: '".toList ++ s ++ "'".toList)

/-- The styles with a known name. -/
def TracePropagationStyle.fromTags : Option (List Str) → Option (List TracePropagationStyle)
  | .some tags =>
      if tags.isEmpty then .none
      else .some (tags.filterMap fun value => (TracePropagationStyle.fromStr value).toOption)
  | .none => .none

/-- A list of texts, apart at the commas. -/
def ddTags : FromStr (List Str) :=
  { typeName := "dd_trace::configuration::configuration::Config::from_sources::DdTags".toList
    fromStr := fun s => .ok (s.splitOn ',') }

def stylesType : ConfigType (Option (List TracePropagationStyle)) :=
  { toFromStr := ddTags.map fun tags => TracePropagationStyle.fromTags (some tags)
    getConfigurationValue := fun styles =>
      match styles with
      | some styles => [','].intercalate (styles.map TracePropagationStyle.display)
      | none => [] }

/-- A key and a value, apart at the first colon. -/
def ddKeyValueTag (s : Str) : Option (Str × Str) :=
  (Text.splitOnce ':' s).map fun (k, v) => (Text.trim k, Text.trim v)

def ddKeyValueTags : FromStr (List (Str × Str)) :=
  { typeName :=
      "dd_trace::configuration::configuration::Config::from_sources::DdKeyValueTags".toList
    fromStr := fun s => .ok ((s.splitOn ',').filterMap ddKeyValueTag) }

def tagText (tag : Str × Str) : Str := tag.1 ++ ':' :: tag.2

def tagsType : ConfigType (List (Str × Str)) :=
  { toFromStr := ddKeyValueTags
    getConfigurationValue := fun tags => [','].intercalate (tags.map tagText) }

theorem fromStr_display (style : TracePropagationStyle) :
    TracePropagationStyle.fromStr style.display = .ok style := by
  cases style <;> decide

theorem not_mem_display (style : TracePropagationStyle) : ',' ∉ style.display := by
  cases style <;> decide

/-- A list of styles that is not absent. -/
theorem fromStr_stylesType (styles : List TracePropagationStyle) :
    stylesType.fromStr (stylesType.getConfigurationValue (some styles)) = .ok (some styles) := by
  rcases eq_or_ne styles [] with rfl | hne
  · rfl
  · have hsplit : ([','].intercalate (styles.map TracePropagationStyle.display)).splitOn ',' =
        styles.map TracePropagationStyle.display := by
      refine List.splitOn_intercalate ',' ?_ (by simpa using hne)
      intro part hpart
      obtain ⟨style, -, rfl⟩ := List.mem_map.1 hpart
      exact not_mem_display style
    have hread : TracePropagationStyle.fromTags (some (styles.map TracePropagationStyle.display)) =
        some styles := by
      simp [TracePropagationStyle.fromTags, List.filterMap_map, fromStr_display,
        Except.toOption, hne]
    calc
      stylesType.fromStr (stylesType.getConfigurationValue (some styles)) =
          .ok (TracePropagationStyle.fromTags
            (some (([','].intercalate (styles.map TracePropagationStyle.display)).splitOn ','))) :=
        rfl
      _ = .ok (some styles) := by rw [hsplit, hread]

theorem readsBack_stylesType : stylesType.ReadsBack := by
  intro text value h
  obtain ⟨parts, hparts, rfl⟩ := of_map_eq_ok h
  -- a split has at least one part, so that the list of styles is present
  have hne : parts ≠ [] := by
    cases hparts
    exact List.splitOn_ne_nil _ _
  obtain ⟨styles, hstyles⟩ : ∃ styles, TracePropagationStyle.fromTags (some parts) = some styles := by
    simp [TracePropagationStyle.fromTags, hne]
  rw [hstyles]
  exact fromStr_stylesType styles

/-- A tag that survives its text. -/
structure PlainTag (tag : Str × Str) : Prop where
  key_trimmed : Text.trim tag.1 = tag.1
  value_trimmed : Text.trim tag.2 = tag.2
  no_colon : ':' ∉ tag.1
  no_comma : ',' ∉ tag.1 ∧ ',' ∉ tag.2

theorem plainTag_of_read {part : Str} {tag : Str × Str} (hpart : ',' ∉ part)
    (h : ddKeyValueTag part = some tag) : PlainTag tag := by
  obtain ⟨⟨k, v⟩, hsplit, rfl⟩ := Option.map_eq_some_iff.1 h
  obtain ⟨rfl, hcolon⟩ := Text.eq_of_splitOnce hsplit
  exact
    { key_trimmed := Text.trim_trim k
      value_trimmed := Text.trim_trim v
      no_colon := fun hmem => hcolon (Text.mem_of_mem_trim hmem)
      no_comma :=
        ⟨fun hmem => hpart (List.mem_append_left _ (Text.mem_of_mem_trim hmem)),
          fun hmem => hpart (List.mem_append_right _
            (List.mem_cons_of_mem _ (Text.mem_of_mem_trim hmem)))⟩ }

theorem ddKeyValueTag_tagText {tag : Str × Str} (h : PlainTag tag) :
    ddKeyValueTag (tagText tag) = some tag := by
  calc
    ddKeyValueTag (tagText tag) = some (Text.trim tag.1, Text.trim tag.2) := by
      rw [ddKeyValueTag, tagText, Text.splitOnce_append h.no_colon]
      rfl
    _ = some tag := by rw [h.key_trimmed, h.value_trimmed]

theorem fromStr_tagsType {tags : List (Str × Str)} (h : ∀ tag ∈ tags, PlainTag tag) :
    tagsType.fromStr (tagsType.getConfigurationValue tags) = .ok tags := by
  rcases eq_or_ne tags [] with rfl | hne
  · rfl
  · have hsplit : ([','].intercalate (tags.map tagText)).splitOn ',' = tags.map tagText := by
      refine List.splitOn_intercalate ',' ?_ (by simpa using hne)
      intro part hpart
      obtain ⟨tag, htag, rfl⟩ := List.mem_map.1 hpart
      have hcomma := (h tag htag).no_comma
      simp [tagText, hcomma.1, hcomma.2]
    have hread : (tags.map tagText).filterMap ddKeyValueTag = tags := by
      rw [List.filterMap_map]
      calc
        tags.filterMap (ddKeyValueTag ∘ tagText) = tags.filterMap some :=
          List.filterMap_congr fun tag htag => ddKeyValueTag_tagText (h tag htag)
        _ = tags := List.filterMap_some
    calc
      tagsType.fromStr (tagsType.getConfigurationValue tags) =
          .ok ((([','].intercalate (tags.map tagText)).splitOn ',').filterMap ddKeyValueTag) := rfl
      _ = .ok tags := by rw [hsplit, hread]

theorem readsBack_tagsType : tagsType.ReadsBack := by
  intro text value h
  cases h
  refine fromStr_tagsType fun tag htag => ?_
  obtain ⟨part, hpart, hread⟩ := List.mem_filterMap.1 htag
  exact plainTag_of_read (Text.not_mem_of_mem_splitOn hpart) hread

end Core
end DdTrace
