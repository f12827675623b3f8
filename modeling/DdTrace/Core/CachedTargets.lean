import DdTrace.Core.ApplyStates
import DdTrace.Lib.Utf8

/-!
# CachedTargets — the files that the next request says are cached

A request tells the backend which target files the client has.  An entry should describe the signed
target of its path, and describes the text that the content was sent in: the length and the hash are
those of the base64 form.  `describesTargets_iff` says when that is no difference.
-/

namespace DdTrace
namespace Core

open Lib

/-! ## The request -/

structure ClientCapabilities where
  bits : UInt64

namespace ClientCapabilities

def APM_TRACING_SAMPLE_RULES : UInt64 := (1 : UInt64) <<< 29

def new : ClientCapabilities := ⟨APM_TRACING_SAMPLE_RULES⟩

def toBeBytes (n : UInt64) : List UInt8 :=
  (List.range 8).map fun i => (n >>> UInt64.ofNat (8 * (7 - i))).toUInt8

/-- The bytes from the first one that is not zero. -/
def encode (encodeBase64 : List UInt8 → Str) (self : ClientCapabilities) : Str :=
  let bytes := toBeBytes self.bits
  let start := (bytes.findIdx? (· ≠ 0)).getD (bytes.length - 1)
  encodeBase64 (bytes.drop start)

end ClientCapabilities

structure ClientTracer where
  runtimeId : Str
  language : Str
  tracerVersion : Str
  service : Str
  extraServices : List Str
  env : Option Str
  appVersion : Option Str
  tags : List Str

structure ClientInfo where
  state : Option ClientState
  id : Str
  products : List Str
  isTracer : Bool
  clientTracer : Option ClientTracer
  capabilities : Str

structure ConfigRequest where
  client : ClientInfo
  cachedTargetFiles : List CachedTargetFile

/-- What a request reads besides the state and the cache: the configuration, and the fields of the
client that do not change. -/
structure RequestSettings where
  clientId : Str
  runtimeId : Str
  tracerVersion : Str
  service : Str
  extraServices : List Str
  env : Option Str
  version : Option Str
  globalTags : List (Str × Str)
  capabilities : ClientCapabilities

namespace RemoteConfigClient

def buildRequest (encodeBase64 : List UInt8 → Str) (config : RequestSettings)
    (self : RemoteConfigClient) : ConfigRequest :=
  { client :=
      { state := some self.state
        id := config.clientId
        products := ["APM_TRACING".toList]
        isTracer := true
        clientTracer := some
          { runtimeId := config.runtimeId
            language := "rust".toList
            tracerVersion := config.tracerVersion
            service := config.service
            extraServices := config.extraServices
            env := config.env
            appVersion := config.version
            tags := config.globalTags.map fun (key, value) => key ++ ':' :: value }
        capabilities := config.capabilities.encode encodeBase64 }
    cachedTargetFiles := self.cachedTargetFiles }

end RemoteConfigClient

/-! ## What the loop puts in the cache -/

/-- The handler took the content of the file. -/
def IsApplied (codec : Codec) (file : TargetFile) : Prop :=
  handled file = true ∧ ∃ configStr change, FileLoop.decodeFile codec file = .ok configStr ∧
    readConfig codec configStr = .ok change

/-- The handler refused the content of the file. -/
def IsRefused (codec : Codec) (file : TargetFile) : Prop :=
  handled file = true ∧ ∃ configStr e, FileLoop.decodeFile codec file = .ok configStr ∧
    readConfig codec configStr = .error e

/-- The entry for a file: its length and its hash are those of the base64 text. -/
def cacheEntry (codec : Codec) (file : TargetFile) : CachedTargetFile :=
  { path := file.path
    length := Text.utf8Len file.raw
    hashes := [{ algorithm := "sha256".toList, hash := codec.sha256Hex file.raw }] }

namespace FileLoop

variable {codec : Codec} {targets : Option SignedTargets} {p q : FileLoop}

/-- The loop put entries in the new cache for the applied files, and remembers that one was refused. -/
structure Cached (codec : Codec) (files : List TargetFile) (p q : FileLoop) : Prop where
  newCache : ∀ entry, entry ∈ q.newCache ↔
    entry ∈ p.newCache ∨ ∃ file ∈ files, IsApplied codec file ∧ entry = cacheEntry codec file
  anyFailure : q.anyFailure = true ↔
    p.anyFailure = true ∨ ∃ file ∈ files, IsRefused codec file

theorem Cached.nil (p : FileLoop) : Cached codec [] p p := by
  constructor <;> simp

theorem Cached.cons {file : TargetFile} {files : List TargetFile} {r : FileLoop}
    (h : Cached codec [file] p q) (h' : Cached codec files q r) :
    Cached codec (file :: files) p r := by
  constructor
  · intro entry
    rw [h'.newCache, h.newCache]
    simp [or_assoc]
  · rw [h'.anyFailure, h.anyFailure]
    simp [or_assoc]

/-- A content that is taken adds the entry of the file. -/
theorem apply_of_ok {file : TargetFile} {product configId configStr : Str} {config : SamplingRules}
    (h : ApmTracingHandler.processConfig codec configStr p.config = (.ok (), config)) :
    (p.apply codec targets file product configId configStr).newCache =
        p.newCache ++ [cacheEntry codec file] ∧
      (p.apply codec targets file product configId configStr).anyFailure = p.anyFailure := by
  unfold apply
  rw [h]
  exact ⟨rfl, rfl⟩

/-- A content that is refused is a failure, and adds no entry. -/
theorem apply_of_error {file : TargetFile} {product configId configStr e : Str}
    {config : SamplingRules}
    (h : ApmTracingHandler.processConfig codec configStr p.config = (.error e, config)) :
    (p.apply codec targets file product configId configStr).newCache = p.newCache ∧
      (p.apply codec targets file product configId configStr).anyFailure = true := by
  unfold apply
  rw [h]
  exact ⟨rfl, rfl⟩

theorem cached_processFile {file : TargetFile} (h : p.processFile codec targets file = .ok q) :
    Cached codec [file] p q := by
  rcases processFile_cases h with
    ⟨hhandled, rfl⟩ | ⟨product, configId, configStr, -, hdecode, hhandled, rfl⟩
  · -- a file that is skipped is neither applied nor refused
    constructor
    · simp [IsApplied, hhandled]
    · simp [IsRefused, hhandled]
  · rcases ApmTracingHandler.processConfig_spec codec configStr p.config with
      ⟨e, config, hread, hprocess, -⟩ | ⟨change, config, hread, hprocess, -⟩
    · have hrefused : IsRefused codec file := ⟨hhandled, configStr, e, hdecode, hread⟩
      have hnot : ¬ IsApplied codec file := by
        rintro ⟨-, configStr', change, hdecode', hread'⟩
        cases hdecode.symm.trans hdecode'
        cases hread.symm.trans hread'
      constructor
      · simp [(apply_of_error hprocess).1, hnot]
      · simp [(apply_of_error hprocess).2, hrefused]
    · have happlied : IsApplied codec file := ⟨hhandled, configStr, change, hdecode, hread⟩
      have hnot : ¬ IsRefused codec file := by
        rintro ⟨-, configStr', e, hdecode', hread'⟩
        cases hdecode.symm.trans hdecode'
        cases hread.symm.trans hread'
      constructor
      · simp [(apply_of_ok hprocess).1, happlied]
      · simp [(apply_of_ok hprocess).2, hnot]

theorem cached_processFiles {files : List TargetFile}
    (h : p.processFiles codec targets files = (.ok (), q)) : Cached codec files p q := by
  induction files generalizing p with
  | nil =>
      cases h
      exact .nil q
  | cons file files ih =>
      unfold processFiles at h
      cases hfile : p.processFile codec targets file with
      | error e => simp [hfile] at h
      | ok next =>
          simp only [hfile] at h
          exact (cached_processFile hfile).cons (ih h)

end FileLoop

/-! ## Base64 -/

/-- Three bytes take four characters of base64, and the last of them are padded. -/
def Codec.PaddedBase64 (codec : Codec) : Prop :=
  ∀ raw bytes, codec.decodeBase64 raw = .ok bytes → Text.utf8Len raw = 4 * ((bytes.length + 2) / 3)

theorem Codec.bytes_of_fromUtf8 {codec : Codec} {bytes : List UInt8} {text : Str}
    (h : codec.fromUtf8 bytes = .ok text) : Text.bytes text = bytes := by
  unfold Codec.fromUtf8 at h
  split at h
  · rename_i s hs
    cases h
    have hbytes : s.toByteArray = ⟨bytes.toArray⟩ := by
      unfold String.fromUTF8? at hs
      split at hs
      · cases hs
        rfl
      · cases hs
    have hdata := congrArg (fun b : ByteArray => b.data.toList) ((Text.toByteArray_bytes s).trans hbytes)
    simpa using hdata
  · cases h

/-- The content of a file is shorter than its base64 form, unless both are empty. -/
theorem utf8Len_raw {codec : Codec} (hbase64 : codec.PaddedBase64) {file : TargetFile}
    {configStr : Str} (h : FileLoop.decodeFile codec file = .ok configStr) :
    Text.utf8Len file.raw = 4 * ((Text.utf8Len configStr + 2) / 3) := by
  simp only [FileLoop.decodeFile, bind, Except.bind] at h
  cases hdecode : codec.decodeBase64 file.raw with
  | error e => simp [withContext, Except.mapError, hdecode] at h
  | ok bytes =>
      simp only [withContext, Except.mapError, hdecode] at h
      cases htext : codec.fromUtf8 bytes with
      | error e => simp [htext] at h
      | ok text =>
          simp only [htext, Except.ok.injEq] at h
          subst h
          rw [hbase64 _ _ hdecode, ← Text.length_bytes, Codec.bytes_of_fromUtf8 htext]

/-! ## The law -/

/-- A signed target of the path has the length and the hash of the content. -/
def SignedAs (codec : Codec) (targets : Option SignedTargets) (path content : Str) : Prop :=
  ∃ signed desc, targets = some signed ∧ signed.signed.targets.lookup path = some desc ∧
    desc.length.toNat = Text.utf8Len content ∧
    desc.hashes.lookup "sha256".toList = some (codec.sha256Hex content)

/-- The entry has the length and the hash of the signed target of its path. -/
def DescribesTarget (targets : Option SignedTargets) (entry : CachedTargetFile) : Prop :=
  ∃ signed desc hash, targets = some signed ∧
    signed.signed.targets.lookup entry.path = some desc ∧
    entry.length = desc.length.toNat ∧
    desc.hashes.lookup "sha256".toList = some hash ∧
    entry.hashes = [{ algorithm := "sha256".toList, hash := hash }]

/-- The entry of a file whose content is the signed one describes the signed target if the file is
empty, and else has another length. -/
theorem describesTarget_iff {codec : Codec} (hbase64 : codec.PaddedBase64)
    {targets : Option SignedTargets} {file : TargetFile} {configStr : Str}
    (hdecode : FileLoop.decodeFile codec file = .ok configStr)
    (hsigned : SignedAs codec targets file.path configStr) :
    DescribesTarget targets (cacheEntry codec file) ↔ file.raw = [] := by
  have hlen := utf8Len_raw hbase64 hdecode
  rcases hsigned with ⟨signed, desc, rfl, hlookup, hlength, hhash⟩
  constructor
  · rintro ⟨signed', desc', hash, heq, hlookup', hlength', -, -⟩
    cases heq
    cases hlookup.symm.trans hlookup'
    have hsame : Text.utf8Len file.raw = Text.utf8Len configStr := hlength'.trans hlength
    exact Text.eq_nil_of_utf8Len_eq_zero (by omega)
  · intro hraw
    rw [hraw, Text.utf8Len_nil] at hlen
    have hcontent : configStr = [] := Text.eq_nil_of_utf8Len_eq_zero (by omega)
    rw [hcontent] at hlength hhash
    refine ⟨signed, desc, codec.sha256Hex [], rfl, hlookup, ?_, hhash, ?_⟩
    · rw [hlength, cacheEntry, hraw]
    · rw [cacheEntry, hraw]

namespace RemoteConfigClient

/-- The entries that a response puts in the cache: those of the loop, if no file was refused. -/
def Puts (codec : Codec) (self : RemoteConfigClient) (response : ConfigResponse)
    (targets : Option SignedTargets) (entries : List CachedTargetFile) : Prop :=
  ∃ files last, decodeTargets codec response.targets = .ok targets ∧
    response.targetFiles = some files ∧
    (self.recordTargets targets).fileLoop.processFiles codec targets files = (.ok (), last) ∧
    last.anyFailure = false ∧ entries = last.newCache

/-- The entries that a response puts in the cache are sent back with the next request, and each
describes the signed target of its path. -/
def DescribesTargets (codec : Codec) (encodeBase64 : List UInt8 → Str) (config : RequestSettings)
    (self after : RemoteConfigClient) (response : ConfigResponse) : Prop :=
  ∀ targets entries, self.Puts codec response targets entries →
    (after.buildRequest encodeBase64 config).cachedTargetFiles = entries ∧
      ∀ entry ∈ entries, DescribesTarget targets entry

/-- The content of every file that is applied is that of its signed target. -/
def GenuineContents (codec : Codec) (response : ConfigResponse) : Prop :=
  ∀ targets, decodeTargets codec response.targets = .ok targets →
    ∀ file ∈ response.targetFiles.getD [], IsApplied codec file →
      ∀ configStr, FileLoop.decodeFile codec file = .ok configStr →
        SignedAs codec targets file.path configStr

/-- Files that are announced, and that can all be decoded, are processed without an error. -/
theorem exists_processResponse_ok {codec : Codec} {self : RemoteConfigClient}
    {response : ConfigResponse} {targets : Option SignedTargets} {files : List TargetFile}
    {last : FileLoop} (htargets : decodeTargets codec response.targets = .ok targets)
    (hfiles : response.targetFiles = some files)
    (hvalid : validateSignedTargetFiles files targets response.clientConfigs = .ok ())
    (hloop : (self.recordTargets targets).fileLoop.processFiles codec targets files =
      (.ok (), last)) :
    ∃ after, self.processResponse codec response = (.ok (), after) := by
  rw [fileLoop] at hloop
  simp only [processResponse, htargets, hfiles, hvalid, applyFiles, hloop]
  exact ⟨_, rfl⟩

/-- The entries that are put are the cache afterwards, and so are sent. -/
theorem cachedTargetFiles_of_puts {codec : Codec} {self after : RemoteConfigClient}
    {response : ConfigResponse} {targets : Option SignedTargets} {entries : List CachedTargetFile}
    (h : self.processResponse codec response = (.ok (), after))
    (hputs : self.Puts codec response targets entries) : after.cachedTargetFiles = entries := by
  rcases hputs with ⟨files, last, htargets, hfiles, hloop, hfailure, rfl⟩
  rcases processResponse_ok h hfiles with ⟨targets', htargets', happly⟩
  cases htargets.symm.trans htargets'
  rcases applyFiles_ok happly with ⟨last', hloop', -, hcache⟩
  cases hloop.symm.trans hloop'
  rw [hcache, hfailure, if_neg Bool.false_ne_true]

/-- The entries that a response puts in the cache describe the signed targets exactly if it puts none,
because a file was refused, or if all files that are applied are empty. -/
theorem describesTargets_iff {codec : Codec} (hbase64 : codec.PaddedBase64)
    (encodeBase64 : List UInt8 → Str) (config : RequestSettings) {self after : RemoteConfigClient}
    {response : ConfigResponse} (h : self.processResponse codec response = (.ok (), after))
    (hgenuine : GenuineContents codec response) :
    DescribesTargets codec encodeBase64 config self after response ↔
      (∃ file ∈ response.targetFiles.getD [], IsRefused codec file) ∨
        ∀ file ∈ response.targetFiles.getD [], IsApplied codec file → file.raw = [] := by
  cases hfiles : response.targetFiles with
  | none =>
      -- without files nothing is put in the cache
      refine iff_of_true ?_ (.inr (by simp))
      rintro targets entries ⟨files, last, -, hsome, -⟩
      cases hfiles.symm.trans hsome
  | some files =>
      rcases processResponse_ok h hfiles with ⟨targets, htargets, happly⟩
      rcases applyFiles_ok happly with ⟨last, hloop, -, -⟩
      have hcached := FileLoop.cached_processFiles hloop
      have hentry : ∀ file ∈ files, IsApplied codec file →
          (DescribesTarget targets (cacheEntry codec file) ↔ file.raw = []) := by
        intro file hfile happlied
        rcases happlied with ⟨hhandled, configStr, change, hdecode, hread⟩
        exact describesTarget_iff hbase64 hdecode
          (hgenuine targets htargets file (by simpa [hfiles] using hfile)
            ⟨hhandled, configStr, change, hdecode, hread⟩ configStr hdecode)
      rw [Option.getD_some]
      constructor
      · intro hlaw
        by_cases hrefused : ∃ file ∈ files, IsRefused codec file
        · exact .inl hrefused
        · right
          intro file hfile happlied
          have hfailure : last.anyFailure = false := by
            rw [← Bool.not_eq_true, hcached.anyFailure]
            rintro (hstart | hsome)
            · cases hstart
            · exact hrefused hsome
          have hputs : self.Puts codec response targets last.newCache :=
            ⟨files, last, htargets, hfiles, hloop, hfailure, rfl⟩
          have hmem : cacheEntry codec file ∈ last.newCache :=
            (hcached.newCache _).2 (.inr ⟨file, hfile, happlied, rfl⟩)
          exact (hentry file hfile happlied).1 ((hlaw targets _ hputs).2 _ hmem)
      · rintro hcondition targets' entries hputs
        refine ⟨cachedTargetFiles_of_puts h hputs, ?_⟩
        rcases hputs with ⟨files', last', htargets', hfiles', hloop', hfailure, rfl⟩
        cases htargets.symm.trans htargets'
        cases hfiles.symm.trans hfiles'
        cases hloop.symm.trans hloop'
        intro entry hmem
        rcases (hcached.newCache entry).1 hmem with hstart | ⟨file, hfile, happlied, rfl⟩
        · cases hstart
        · rcases hcondition with hrefused | hempty
          · -- with a refused file there is a failure
            rw [hcached.anyFailure.2 (.inr hrefused)] at hfailure
            cases hfailure
          · exact (hentry file hfile happlied).2 (hempty file hfile happlied)

/-- A document without rules. -/
def signedDocument : String := "\x7b\"id\":\"1\",\"lib_config\":\x7b\x7d\x7d"

def signedRaw : String := "eyJpZCI6IjEiLCJsaWJfY29uZmlnIjp7fX0="

def signedHash : String := "e4e01225ec4485e29ae47e82e80ac1b458cb07ea88f0652c3cebfc40bbc85840"

/-- The metadata of a file with this document. -/
def signedTargetsJson : String :=
  "\x7b\"signed\":\x7b\"_type\":\"targets\",\"expires\":\"\",\"spec_version\":\"1.0\"," ++
    "\"targets\":\x7b\"datadog/2/APM_TRACING/a/config\":\x7b\"hashes\":\x7b\"sha256\":\"" ++
    "e4e01225ec4485e29ae47e82e80ac1b458cb07ea88f0652c3cebfc40bbc85840\"\x7d," ++
    "\"length\":26\x7d\x7d,\"version\":5\x7d\x7d"

def signedTargetsBase64 : String :=
  "eyJzaWduZWQiOnsiX3R5cGUiOiJ0YXJnZXRzIiwiZXhwaXJlcyI6IiIsInNwZWNfdmVyc2lv" ++
    "biI6IjEuMCIsInRhcmdldHMiOnsiZGF0YWRvZy8yL0FQTV9UUkFDSU5HL2EvY29uZmlnIjp7" ++
    "Imhhc2hlcyI6eyJzaGEyNTYiOiJlNGUwMTIyNWVjNDQ4NWUyOWFlNDdlODJlODBhYzFiNDU4" ++
    "Y2IwN2VhODhmMDY1MmMzY2ViZmM0MGJiYzg1ODQwIn0sImxlbmd0aCI6MjZ9fSwidmVyc2lv" ++
    "biI6NX19"

def signedFile : TargetFile := ⟨"datadog/2/APM_TRACING/a/config".toList, signedRaw.toList⟩

def signedDesc : TargetDesc :=
  { length := 26
    hashes := AList.insert "sha256".toList signedHash.toList ∅
    custom := none }

def signedTargets : SignedTargets :=
  { signed :=
      { custom := none
        targets := AList.insert signedFile.path signedDesc ∅
        version := 5 } }

/-- What the packages do with this metadata and this document. -/
def signedCodec : Codec :=
  { decodeBase64 := fun s =>
      if s = signedRaw.toList then .ok signedDocument.toUTF8.data.toList
      else if s = signedTargetsBase64.toList then .ok signedTargetsJson.toUTF8.data.toList
      else .error "Invalid padding".toList
    utf8Error := fun _ => "invalid utf-8 sequence".toList
    parseTargets := fun s =>
      if s = signedTargetsJson.toList then .ok signedTargets
      else .error "expected value at line 1 column 1".toList
    parseApmTracing := fun s =>
      if s = signedDocument.toList then
        .ok { id := "1".toList, libConfig := { tracingSamplingRules := none } }
      else .error "expected value at line 1 column 1".toList
    parseRules := fun _ => .error "expected value at line 1 column 1".toList
    rulesToString := fun _ => .ok "null".toList
    sha256Hex := fun s =>
      if s = signedDocument.toList then signedHash.toList
      else "f834eb8ef5f5e4d93425883ff1c30f509f3b977a72a96b8cc1ef17868aba632c".toList }

def signedResponse : ConfigResponse :=
  { targets := some signedTargetsBase64.toList
    targetFiles := some [signedFile]
    clientConfigs := none }

def exampleSettings : RequestSettings :=
  { clientId := "c0ffee".toList
    runtimeId := "d00d1e".toList
    tracerVersion := "0.0.1".toList
    service := "unnamed-rust-service".toList
    extraServices := []
    env := none
    version := none
    globalTags := []
    capabilities := .new }

theorem paddedBase64_signed : signedCodec.PaddedBase64 := by
  have hsize : ∀ s : String, s.toUTF8.data.toList.length = s.utf8ByteSize := fun s => rfl
  intro raw bytes h
  simp only [signedCodec] at h
  split_ifs at h with hraw htargets
  · cases h
    rw [hraw, Text.utf8Len_toList, hsize]
    decide +kernel
  · cases h
    rw [htargets, Text.utf8Len_toList, hsize]
    decide +kernel

theorem decodeTargets_signed :
    decodeTargets signedCodec signedResponse.targets = .ok (some signedTargets) := by
  have hne : ¬ signedTargetsBase64.toList = signedRaw.toList := by
    intro heq
    have hlen := congrArg Text.utf8Len heq
    rw [Text.utf8Len_toList, Text.utf8Len_toList] at hlen
    exact absurd hlen (by decide +kernel)
  have hbase64 : signedCodec.decodeBase64 signedTargetsBase64.toList =
      .ok signedTargetsJson.toUTF8.data.toList := by
    simp only [signedCodec, if_neg hne, if_true]
  have hparse : signedCodec.parseTargets signedTargetsJson.toList = .ok signedTargets := by
    simp only [signedCodec, if_true]
  exact decodeTargets_of_text hbase64 hparse

theorem decodeFile_signed :
    FileLoop.decodeFile signedCodec signedFile = .ok signedDocument.toList := by
  have hbase64 : signedCodec.decodeBase64 signedFile.raw =
      .ok signedDocument.toUTF8.data.toList := by
    have hraw : signedFile.raw = signedRaw.toList := rfl
    simp only [hraw, signedCodec, if_true]
  exact @decodeFile_of_text signedCodec signedFile signedDocument hbase64

theorem genuineContents_signed : GenuineContents signedCodec signedResponse := by
  intro targets htargets file hfile _ configStr hdecode
  cases decodeTargets_signed.symm.trans htargets
  have hsame : file = signedFile := List.mem_singleton.1 hfile
  subst hsame
  cases decodeFile_signed.symm.trans hdecode
  refine ⟨signedTargets, signedDesc, rfl, ?_, by decide +kernel, ?_⟩
  · exact AList.lookup_insert _
  · have hhash : signedCodec.sha256Hex signedDocument.toList = signedHash.toList := by
      simp only [signedCodec, if_true]
    rw [hhash]
    exact AList.lookup_insert _

/-- The file is applied, and its entry is put in the cache. -/
theorem processResponse_signed :
    (∃ after, (exampleClient 0).processResponse signedCodec signedResponse = (.ok (), after)) ∧
      (exampleClient 0).Puts signedCodec signedResponse (some signedTargets)
        [cacheEntry signedCodec signedFile] := by
  have hpath : extractProductAndIdFromPath signedFile.path =
      some ("APM_TRACING".toList, "a".toList) := by decide
  have hhandler : hasHandler "APM_TRACING".toList = true := by decide
  have hdocument : signedCodec.parseApmTracing signedDocument.toList =
      .ok { id := "1".toList, libConfig := { tracingSamplingRules := none } } := by
    simp only [signedCodec, if_true]
  have hprocess : ∀ config, ApmTracingHandler.processConfig signedCodec signedDocument.toList config =
      (.ok (), config) := fun config =>
    ApmTracingHandler.processConfig_of_absent config hdocument rfl
  have hloop : ∀ start : FileLoop, ∃ last,
      start.processFiles signedCodec (some signedTargets) [signedFile] = (.ok (), last) ∧
        last.anyFailure = start.anyFailure ∧
        last.newCache = start.newCache ++ [cacheEntry signedCodec signedFile] := by
    intro start
    rcases FileLoop.apply_of_ok (hprocess start.config) with ⟨hcache, hfailure⟩
    refine ⟨_, ?_, hfailure, hcache⟩
    simp only [FileLoop.processFiles, FileLoop.processFile, hpath, hhandler, if_true,
      decodeFile_signed, Except.map]
    rfl
  have hvalid : validateSignedTargetFiles [signedFile] (some signedTargets) none = .ok () := by
    have hlookup : signedTargets.signed.targets.lookup signedFile.path = some signedDesc :=
      AList.lookup_insert _
    simp only [validateSignedTargetFiles, Option.any_some, hlookup]
    rfl
  rcases hloop ((exampleClient 0).recordTargets (some signedTargets)).fileLoop with
    ⟨last, hlast, hfailure, hcache⟩
  exact ⟨exists_processResponse_ok decodeTargets_signed rfl hvalid hlast,
    [signedFile], last, decodeTargets_signed, rfl, hlast, hfailure, hcache.symm⟩

theorem describesTargets_signed :
    ∃ after, (exampleClient 0).processResponse signedCodec signedResponse = (.ok (), after) ∧
      (DescribesTargets signedCodec (fun _ => "IAAAAA==".toList) exampleSettings
          (exampleClient 0) after signedResponse ↔
        (∃ file ∈ signedResponse.targetFiles.getD [], IsRefused signedCodec file) ∨
          ∀ file ∈ signedResponse.targetFiles.getD [], IsApplied signedCodec file →
            file.raw = []) := by
  rcases processResponse_signed with ⟨⟨after, hprocess⟩, -⟩
  exact ⟨after, hprocess,
    describesTargets_iff paddedBase64_signed _ _ hprocess genuineContents_signed⟩

/-- A file of 26 bytes, as its signed target says, is sent back as one of 36 bytes. -/
theorem not_describesTargets_signed :
    ∃ after, (exampleClient 0).processResponse signedCodec signedResponse = (.ok (), after) ∧
      GenuineContents signedCodec signedResponse ∧
      (after.buildRequest (fun _ => "IAAAAA==".toList) exampleSettings).cachedTargetFiles.map
        CachedTargetFile.length = [36] ∧
      signedDesc.length = 26 ∧
      ¬ DescribesTargets signedCodec (fun _ => "IAAAAA==".toList) exampleSettings
        (exampleClient 0) after signedResponse := by
  rcases processResponse_signed with ⟨⟨after, hprocess⟩, hputs⟩
  have hlength : (cacheEntry signedCodec signedFile).length = 36 := by decide +kernel
  refine ⟨after, hprocess, genuineContents_signed, ?_, rfl, ?_⟩
  · have hcache : after.cachedTargetFiles = [cacheEntry signedCodec signedFile] :=
      cachedTargetFiles_of_puts hprocess hputs
    rw [buildRequest, hcache, List.map_singleton, hlength]
  · intro hlaw
    rcases (hlaw _ _ hputs).2 _ (List.mem_singleton_self _) with
      ⟨signed, desc, hash, heq, hlookup, hlen, -, -⟩
    cases heq
    have hsigned : signedTargets.signed.targets.lookup signedFile.path = some signedDesc :=
      AList.lookup_insert _
    cases hsigned.symm.trans hlookup
    rw [hlength] at hlen
    exact absurd hlen (by decide)

end RemoteConfigClient

end Core
end DdTrace
