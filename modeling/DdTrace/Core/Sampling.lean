import DdTrace.Lib.Numeral

/-!
# Sampling — priorities and mechanisms

The priority of a sampling decision says whether a trace is kept, the mechanism who decided.
Both travel as text: the priority as a signed decimal number, the mechanism with a leading `-`.
-/

namespace DdTrace
namespace Core

open Lib

/-- A sampling priority, an `i8`. -/
structure SamplingPriority where
  value : Int8
  deriving DecidableEq, Repr

namespace SamplingPriority

def fromI8 (value : Int8) : SamplingPriority := { value := value }

def intoI8 (self : SamplingPriority) : Int8 := self.value

def isKeep (self : SamplingPriority) : Bool := 0 < self.value

/-- The text of a priority. -/
def display (self : SamplingPriority) : Str := Numeral.intDecimal self.value.toInt

def fromStr (s : Str) : Option SamplingPriority :=
  (Numeral.parseSigned (-128) 127 s).map fun value => fromI8 (Int8.ofInt value)

/-- The text of a priority reads back as that priority. -/
@[simp] theorem fromStr_display (p : SamplingPriority) : fromStr p.display = some p := by
  have hlo : -128 ≤ p.value.toInt := Int8.le_toInt p.value
  have hhi : p.value.toInt ≤ 127 := by
    have := Int8.toInt_lt p.value
    omega
  simp [fromStr, display, Numeral.parseSigned_intDecimal hlo hhi, fromI8]

end SamplingPriority

namespace Priority

def userReject : SamplingPriority := .fromI8 (-1)
def userKeep : SamplingPriority := .fromI8 2
def autoReject : SamplingPriority := .fromI8 0
def autoKeep : SamplingPriority := .fromI8 1

end Priority

/-- A sampling mechanism, a `u8`. -/
structure SamplingMechanism where
  value : UInt8
  deriving DecidableEq, Repr

namespace SamplingMechanism

def fromU8 (value : UInt8) : SamplingMechanism := { value := value }

def intoU8 (self : SamplingMechanism) : UInt8 := self.value

end SamplingMechanism

namespace Mechanism

def default : SamplingMechanism := .fromU8 0
def agentRateByService : SamplingMechanism := .fromU8 1
def remoteRate : SamplingMechanism := .fromU8 2
def localUserTraceSamplingRule : SamplingMechanism := .fromU8 3
def manual : SamplingMechanism := .fromU8 4
def appsec : SamplingMechanism := .fromU8 5
def remoteRateUser : SamplingMechanism := .fromU8 6
def remoteRateDatadog : SamplingMechanism := .fromU8 7
def spanSamplingRule : SamplingMechanism := .fromU8 8
def otlpIngestProbabilisticSampling : SamplingMechanism := .fromU8 9
def dataJobsMonitoring : SamplingMechanism := .fromU8 10
def remoteUserTraceSamplingRule : SamplingMechanism := .fromU8 11
def remoteDynamicTraceSamplingRule : SamplingMechanism := .fromU8 12

end Mechanism

structure PriorityPair where
  keep : SamplingPriority
  reject : SamplingPriority

namespace SamplingMechanism

def autoPair : PriorityPair := { keep := Priority.autoKeep, reject := Priority.autoReject }

def userPair : PriorityPair := { keep := Priority.userKeep, reject := Priority.userReject }

def toPriority (self : SamplingMechanism) (isKeep : Bool) : SamplingPriority :=
  let pair :=
    if self = Mechanism.agentRateByService ∨ self = Mechanism.default then autoPair
    else if self = Mechanism.manual ∨ self = Mechanism.localUserTraceSamplingRule ∨
        self = Mechanism.remoteUserTraceSamplingRule ∨
        self = Mechanism.remoteDynamicTraceSamplingRule ∨ self = Mechanism.appsec ∨
        self = Mechanism.spanSamplingRule ∨ self = Mechanism.dataJobsMonitoring then userPair
    else autoPair
  if isKeep then pair.keep else pair.reject

/-- The priority of a mechanism keeps exactly what the decision keeps. -/
theorem isKeep_toPriority (self : SamplingMechanism) (isKeep : Bool) :
    (self.toPriority isKeep).isKeep = isKeep := by
  have hauto : autoPair.keep.isKeep = true ∧ autoPair.reject.isKeep = false := ⟨rfl, rfl⟩
  have huser : userPair.keep.isKeep = true ∧ userPair.reject.isKeep = false := ⟨rfl, rfl⟩
  cases isKeep with
  | false =>
      simp only [toPriority, Bool.false_eq_true, if_false]
      split_ifs <;> simp [hauto, huser]
  | true =>
      simp only [toPriority, if_true]
      split_ifs <;> simp [hauto, huser]

/-- The text of a mechanism. -/
def display (self : SamplingMechanism) : Str := '-' :: Numeral.decimal self.value.toNat

def toCow (self : SamplingMechanism) : Str :=
  if self = Mechanism.default then "-0".toList
  else if self = Mechanism.agentRateByService then "-1".toList
  else if self = Mechanism.remoteRate then "-2".toList
  else if self = Mechanism.localUserTraceSamplingRule then "-3".toList
  else if self = Mechanism.manual then "-4".toList
  else if self = Mechanism.appsec then "-5".toList
  else if self = Mechanism.remoteRateUser then "-6".toList
  else if self = Mechanism.remoteRateDatadog then "-7".toList
  else if self = Mechanism.spanSamplingRule then "-8".toList
  else if self = Mechanism.otlpIngestProbabilisticSampling then "-9".toList
  else if self = Mechanism.dataJobsMonitoring then "-10".toList
  else if self = Mechanism.remoteUserTraceSamplingRule then "-11".toList
  else if self = Mechanism.remoteDynamicTraceSamplingRule then "-12".toList
  else self.display

/-- Reads an `i16`; the negation wraps at its minimum, as it does in a release build. -/
def fromStr (s : Str) : Option SamplingMechanism :=
  match Numeral.parseSigned (-32768) 32767 s with
  | none => none
  | some i =>
      let val := Int16.ofInt i
      if val > 0 then none
      else
        let val := -val
        if val > 255 then none
        else some (fromU8 (UInt8.ofBitVec (val.toBitVec.setWidth 8)))

theorem ite_eq_display {self mechanism : SamplingMechanism} {text rest : Str}
    (htext : mechanism.display = text) (hrest : rest = self.display) :
    (if self = mechanism then text else rest) = self.display := by
  split
  · rename_i heq
    rw [heq, htext]
  · exact hrest

/-- The texts that are written out are those of the numbers. -/
theorem toCow_eq_display (self : SamplingMechanism) : self.toCow = self.display := by
  unfold toCow
  repeat apply ite_eq_display (by decide)
  rfl

/-- What is read from an `i16`: a negated number of a mechanism, or the minimum, whose negation wraps
and is cut to zero. -/
theorem fromStr_eq {s : Str} {i : Int} (h : Numeral.parseSigned (-32768) 32767 s = some i) :
    fromStr s =
      if i = -32768 then some (fromU8 0)
      else if -255 ≤ i ∧ i ≤ 0 then some (fromU8 (UInt8.ofNat i.natAbs))
      else none := by
  rcases Numeral.parseSigned_eq_some h with ⟨hlo, hhi⟩
  have hval : (Int16.ofInt i).toInt = i := Int16.toInt_ofInt_of_le hlo (by omega)
  have hpos : Int16.ofInt i > 0 ↔ i > 0 := by
    rw [gt_iff_lt, Int16.lt_iff_toInt_lt, hval]
    rfl
  by_cases hmin : i = -32768
  · subst hmin
    rw [if_pos rfl]
    simp only [fromStr, h]
    rfl
  · have hneg : (-Int16.ofInt i).toInt = -i := by
      rw [Int16.toInt_neg, hval]
      exact Int.bmod_eq_of_le (by omega) (by omega)
    have hlarge : -Int16.ofInt i > 255 ↔ -i > 255 := by
      rw [gt_iff_lt, Int16.lt_iff_toInt_lt, hneg]
      rfl
    rw [if_neg hmin]
    simp only [fromStr, h, hpos, hlarge]
    by_cases hsign : i > 0
    · rw [if_pos hsign, if_neg (by omega)]
    · by_cases hwide : -i > 255
      · rw [if_neg hsign, if_pos hwide, if_neg (by omega)]
      · rw [if_neg hsign, if_neg hwide, if_pos (by omega)]
        -- the negated value fits into the byte that it is cut to
        have hle : 0 ≤ -Int16.ofInt i := by
          rw [Int16.le_iff_toInt_le, hneg]
          show (0 : Int) ≤ -i
          omega
        have hnat : (-Int16.ofInt i).toBitVec.toNat = i.natAbs := by
          have hclamp := Int16.cast_toNatClampNeg _ hle
          rw [Int16.toNat_toBitVec_of_le hle]
          omega
        have hvalue : UInt8.ofBitVec ((-Int16.ofInt i).toBitVec.setWidth 8) =
            UInt8.ofNat i.natAbs := by
          apply UInt8.toNat_inj.1
          simp only [UInt8.toNat_ofBitVec, BitVec.toNat_setWidth, hnat, UInt8.toNat_ofNat']
        rw [hvalue]

/-- An `i8` that is not positive is the number of a mechanism, negated. -/
theorem fromStr_of_nonpos {s : Str} {i : Int} (h : Numeral.parseSigned (-128) 127 s = some i)
    (hi : i ≤ 0) :
    ∃ mechanism, fromStr s = some mechanism ∧ mechanism.value.toNat = i.natAbs := by
  rcases Numeral.parseSigned_eq_some h with ⟨hlo, -⟩
  have hwide : Numeral.parseSigned (-32768) 32767 s = some i :=
    Numeral.parseSigned_mono h (by omega) (by omega)
  refine ⟨fromU8 (UInt8.ofNat i.natAbs), ?_, ?_⟩
  · rw [fromStr_eq hwide, if_neg (by omega), if_pos (by omega)]
  · exact UInt8.toNat_ofNat_of_lt' (by show i.natAbs < 256; omega)

end SamplingMechanism

/-- A sampling decision: a priority, and the mechanism that chose it. -/
structure SamplingDecision where
  priority : Option SamplingPriority
  mechanism : Option SamplingMechanism
  deriving DecidableEq, Repr

end Core
end DdTrace
