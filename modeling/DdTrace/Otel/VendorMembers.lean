import DdTrace.Otel.TextMapPropagator
import DdTrace.Propagation.Injection
import DdTrace.Propagation.TracestateHeader

/-!
# VendorMembers — the members of other vendors pass through

A `tracestate` header is read into pairs, which the trace state of the span keeps; on injection they
are rendered and split again, and filtered by a second copy of the test that the reader applied.  The
two tests agree on all that was read, so that the other members come out as they came in, up to the
limit of 31.
-/

namespace DdTrace
namespace Otel

open DdTrace.Lib DdTrace.Propagation

namespace VendorMembers

/-! ## Members as text -/

/-- The key of a member, which ends at the first `=`. -/
def memberKey (part : Str) : Str := part.takeWhile fun c => c != '='

/-- The members of other vendors, as they stand in a header. -/
def vendorMembers (header : Str) : List Str :=
  (header.splitOn ',').filter fun part => memberKey part ≠ Tracestate.TRACESTATE_DD_KEY

/-- A member as text. -/
def render (m : Str × Str) : Str := m.1 ++ '=' :: m.2

theorem memberKey_render {m : Str × Str} (h : '=' ∉ m.1) : memberKey (render m) = m.1 := by
  have hkey : ∀ c ∈ m.1, (c != '=') = true := by
    intro c hc
    simpa using fun heq : c = '=' => h (heq ▸ hc)
  simp [memberKey, render, List.takeWhile_append_of_pos hkey]

/-- A member that is read is the text of what it is read as. -/
theorem of_readMember {part : Str} {m : Str × Str} (h : Tracestate.readMember part = some m) :
    part = render m ∧ '=' ∉ m.1 := by
  rcases m with ⟨key, value⟩
  unfold Tracestate.readMember at h
  cases hsplit : Text.splitOnce '=' part with
  | none => simp [hsplit] at h
  | some pair =>
      rcases pair with ⟨k, v⟩
      simp only [hsplit, Option.getD_some, Option.ite_none_left_eq_some, Option.some.injEq,
        Prod.mk.injEq] at h
      rcases h.2 with ⟨rfl, rfl⟩
      exact Text.eq_of_splitOnce hsplit

/-- The members of a header that is accepted are its parts. -/
theorem of_mapM_readMember {parts : List Str} {members : List (Str × Str)}
    (h : parts.mapM Tracestate.readMember = some members) :
    members.map render = parts ∧
      ∀ m ∈ members, '=' ∉ m.1 ∧ Tracestate.readMember (render m) = some m := by
  induction parts generalizing members with
  | nil =>
      have hnil : members = [] := by simpa using h.symm
      simp [hnil]
  | cons part parts ih =>
      simp only [List.mapM_cons, Option.bind_eq_bind, Option.bind_eq_some_iff] at h
      rcases h with ⟨m, hm, rest, hrest, hmembers⟩
      cases hmembers
      rcases of_readMember hm with ⟨rfl, hkey⟩
      rcases ih hrest with ⟨hparts, hall⟩
      refine ⟨by simp [hparts], ?_⟩
      intro m' hm'
      rcases List.mem_cons.1 hm' with rfl | htail
      · exact ⟨hkey, hm⟩
      · exact hall m' htail

/-! ## The members that were read -/

/-- A member of another vendor that stands in some header. -/
structure Vendor (m : Str × Str) : Prop where
  read : Tracestate.readMember (render m) = some m
  other : m.1 ≠ Tracestate.TRACESTATE_DD_KEY
  noComma : ',' ∉ render m

/-- The additional values of a header that is accepted are its other members. -/
theorem additionalValues_of_fromStr {header : Str} {tracestate : Tracestate}
    (h : Tracestate.fromStr header = .ok tracestate) :
    (tracestate.additionalValues.getD []).map render = vendorMembers header ∧
      (∀ m ∈ tracestate.additionalValues.getD [], Vendor m) ∧
      tracestate.additionalValues ≠ some [] := by
  obtain ⟨members, hmembers, rfl⟩ := Tracestate.exists_members_of_fromStr h
  rcases of_mapM_readMember hmembers with ⟨hparts, hall⟩
  have hvalues : (Tracestate.ofParts
      (((members.filter fun m => m.1 = Tracestate.TRACESTATE_DD_KEY).getLast?).map
        fun m => Tracestate.readItems m.2)
      (members.filter fun m => m.1 ≠ Tracestate.TRACESTATE_DD_KEY)).additionalValues.getD [] =
      members.filter fun m => m.1 ≠ Tracestate.TRACESTATE_DD_KEY := by
    simp only [Tracestate.ofParts]
    split
    · rename_i hempty
      exact (List.isEmpty_iff.1 hempty).symm
    · rfl
  refine ⟨?_, ?_, ?_⟩
  · rw [hvalues, vendorMembers, ← hparts, List.filter_map]
    congr 1
    apply List.filter_congr
    intro m hm
    simp [memberKey_render (hall m hm).1]
  · intro m hm
    rw [hvalues] at hm
    rcases List.mem_filter.1 hm with ⟨hmem, hother⟩
    refine ⟨(hall m hmem).2, by simpa using hother, ?_⟩
    have hpart : render m ∈ header.splitOn ',' := hparts ▸ List.mem_map_of_mem hmem
    exact Text.not_mem_of_mem_splitOn hpart
  · simp only [Tracestate.ofParts]
    split
    · simp
    · rename_i hne
      intro heq
      rw [Option.some.inj heq] at hne
      exact hne rfl

/-! ## The members that are injected -/

/-- The second test keeps every member that was read. -/
theorem additionalValues_of_header {members : List (Str × Str)} (h : ∀ m ∈ members, Vendor m) :
    InjectTraceState.additionalValues { header := TraceState.header (some members) } =
      members.map render := by
  cases members with
  | nil => rfl
  | cons m rest =>
      have hsplit : (TraceState.header (some (m :: rest))).splitOn ',' =
          (m :: rest).map render := by
        refine List.splitOn_intercalate ',' ?_ (by simp)
        intro part hpart
        rcases List.mem_map.1 hpart with ⟨m', hm', rfl⟩
        exact (h m' hm').noComma
      simp only [InjectTraceState.additionalValues, hsplit, List.filter_eq_self]
      intro part hpart
      rcases List.mem_map.1 hpart with ⟨m', hm', rfl⟩
      rcases h m' hm' with ⟨hread, hother, -⟩
      -- what the reader asked of the member is what is asked here
      have hkey := (of_readMember hread).2
      have hpair : Text.splitOnce '=' (render m') = some m' := Text.splitOnce_append hkey m'.2
      simp only [Tracestate.readMember, hpair, Option.getD_some, Option.ite_none_left_eq_some] at hread
      have hvalid : m'.2 ≠ [] ∧ Tracestate.validKey m'.1 = true ∧
          Tracestate.validValue m'.2 = true := by
        simpa [and_assoc, and_comm, and_left_comm] using hread.1
      simp [hpair, hother, hvalid]

variable {api : TraceStateApi} {sc : Propagation.SpanContext} {tracestate : Tracestate}
  {data : TracePropagationData} {otelSpanContext : SpanContext}

/-- The members of other vendors that the injected context has, if the trace state keeps what it is
given. -/
theorem otherMembers_ddSpanContext (hextracted : sc.tracestate = some tracestate)
    (hvendor : ∀ m ∈ tracestate.additionalValues.getD [], Vendor m)
    (hkeeps : ∀ members, tracestate.additionalValues = some members →
      api.fromKeyValue members = some (some members))
    (hstate : otelSpanContext.traceState = extractTraceStateFromContext api sc) :
    TraceContext.otherMembers (DatadogPropagator.ddSpanContext data otelSpanContext) =
      ((tracestate.additionalValues.getD []).take 31).map render := by
  cases hvalues : tracestate.additionalValues with
  | none =>
      have hnone : otelSpanContext.traceState = none := by
        simp [hstate, extractTraceStateFromContext, hextracted, hvalues]
      simp [TraceContext.otherMembers, DatadogPropagator.ddSpanContext, hnone]
  | some members =>
      have hsome : otelSpanContext.traceState = some members := by
        simp [hstate, extractTraceStateFromContext, hextracted, hvalues, hkeeps members hvalues]
      rw [hvalues, Option.getD_some] at hvendor
      simp [TraceContext.otherMembers, DatadogPropagator.ddSpanContext, hsome,
        additionalValues_of_header hvendor, List.map_take]

/-- A member that was injected is read as before. -/
theorem filterMap_readMember {members : List (Str × Str)} (h : ∀ m ∈ members, Vendor m) :
    (members.map render).filterMap Tracestate.readMember = members := by
  induction members with
  | nil => rfl
  | cons m rest ih =>
      have hread := (h m (List.mem_cons_self ..)).read
      simp [hread, ih fun m' hm' => h m' (List.mem_cons_of_mem _ hm')]

/-- Our member with a value, and the first 31 members of other vendors as they stand in a header. -/
def headerWith (value header : Str) : Str :=
  "dd=".toList ++ value ++ ((vendorMembers header).take 31).flatMap fun part => ',' :: part

/-- When the context of a `tracestate` header is injected again, the new header is our member followed
by the first 31 members of other vendors as they stood in the first header, and it is read back with
exactly these members. -/
theorem vendor_members_pass (ord : IterOrder Str Str) (api : TraceStateApi) {header : Str}
    {tracestate : Tracestate} (hparsed : Tracestate.fromStr header = .ok tracestate)
    (sc : Propagation.SpanContext) (hextracted : sc.tracestate = some tracestate)
    (hkeeps : ∀ members, tracestate.additionalValues = some members →
      api.fromKeyValue members = some (some members))
    (data : TracePropagationData) (otelSpanContext : SpanContext)
    (hstate : otelSpanContext.traceState = extractTraceStateFromContext api sc)
    (hvalid : otelSpanContext.traceId ≠ 0 ∧ otelSpanContext.spanId ≠ 0)
    (hparent : otelSpanContext.isRemote = false ∨
      (data.tags.getD ∅).lookup DATADOG_LAST_PARENT_ID_KEY = none)
    (carrier : Carrier) :
    let context := DatadogPropagator.ddSpanContext data otelSpanContext
    let injected := headerWith (TraceContext.ddParts ord context) header
    (TraceContext.inject ord context carrier).get TRACESTATE_KEY = some injected ∧
      ∃ tracestate', Tracestate.fromStr injected = .ok tracestate' ∧
        tracestate'.additionalValues = tracestate.additionalValues.map (List.take 31) ∧
        (tracestate'.additionalValues.getD []).map render = (vendorMembers header).take 31 := by
  intro context injected
  rcases additionalValues_of_fromStr hparsed with ⟨hvalues, hvendor, hne⟩
  have hothers : TraceContext.otherMembers context =
      ((tracestate.additionalValues.getD []).take 31).map render :=
    otherMembers_ddSpanContext hextracted hvendor hkeeps hstate
  have hfits : TraceContext.ParentIdFits context := by
    intro hremote id hid
    rcases hparent with hlocal | hnone
    · exact absurd (hremote.symm.trans hlocal) (by simp)
    · exact absurd (hid.symm.trans hnone) (by simp)
  have hmembers : TraceContext.otherMembers context = (vendorMembers header).take 31 := by
    rw [hothers, List.map_take, hvalues]
  have hinjected : TraceContext.tracestateHeader ord context = injected := by
    rw [TraceContext.tracestateHeader, hmembers]
    rfl
  have hheader : (TraceContext.inject ord context carrier).get TRACESTATE_KEY =
      some (TraceContext.tracestateHeader ord context) :=
    TraceContext.get_inject_tracestate ord hvalid.1 hvalid.2 carrier
  have hread := TraceContext.fromStr_tracestateHeader ord hfits
  have htaken : (TraceContext.otherMembers context).filterMap Tracestate.readMember =
      (tracestate.additionalValues.getD []).take 31 := by
    rw [hothers]
    exact filterMap_readMember fun m hm => hvendor m (List.mem_of_mem_take hm)
  rw [htaken, hinjected] at hread
  -- the members that are read back are missing exactly if they were missing before
  have hagain : (Tracestate.ofParts
      (some (Tracestate.readItems (TraceContext.ddParts ord context)))
      ((tracestate.additionalValues.getD []).take 31)).additionalValues =
        tracestate.additionalValues.map (List.take 31) := by
    cases hmissing : tracestate.additionalValues with
    | none => rfl
    | some members =>
        cases members with
        | nil => exact absurd hmissing hne
        | cons m rest => rfl
  refine ⟨hheader.trans (congrArg some hinjected), _, hread, hagain, ?_⟩
  rw [hagain, ← hvalues, ← List.map_take]
  cases tracestate.additionalValues with
  | none => rfl
  | some members => rfl

/-- An API that keeps the members it is given. -/
def keepingApi : TraceStateApi :=
  { fromKeyValue := fun members => some (some members)
    fromStr := fun _ => none }

/-- The context of a header with our member between two others. -/
def twoVendors : Propagation.SpanContext :=
  { traceId := 1
    spanId := 3
    sampling := { priority := none, mechanism := none }
    origin := none
    tags := ∅
    links := []
    isRemote := true
    tracestate := (Tracestate.fromStr "a=1,dd=s:2;o:rum,b@v=x y".toList).toOption }

/-- A span in this context. -/
def twoVendorsSpan : SpanContext :=
  { traceId := 1
    spanId := 2
    traceFlags := .sampled
    isRemote := false
    traceState := extractTraceStateFromContext keepingApi twoVendors }

theorem vendor_members_pass_two :
    (TraceContext.inject (.asStored Str Str)
        (DatadogPropagator.ddSpanContext emptyPropagationData twoVendorsSpan) ∅).get
        TRACESTATE_KEY =
      some (headerWith "s:1;p:0000000000000002".toList "a=1,dd=s:2;o:rum,b@v=x y".toList) := by
  have hpass := @vendor_members_pass (.asStored Str Str) keepingApi
    "a=1,dd=s:2;o:rum,b@v=x y".toList _ rfl twoVendors rfl
    (fun _ _ => rfl) emptyPropagationData twoVendorsSpan rfl (by decide) (.inl rfl) ∅
  have hvalue : TraceContext.ddParts (.asStored Str Str)
      (DatadogPropagator.ddSpanContext emptyPropagationData twoVendorsSpan) =
        "s:1;p:0000000000000002".toList := by
    decide
  exact hvalue ▸ hpass.1

end VendorMembers

end Otel
end DdTrace
