import DdTrace.Lib.HashMap
import DdTrace.Lib.Numeral
import DdTrace.Mappings.AttributeKeys

/-!
# OtelUtil — names, types and services of a span

What the agent shows of a span is computed from its attributes and its resource, by cascades of
which the first match counts.  The functions work on any view of a span (`OtelSpan`).

How values are printed, how Unicode text is lower cased and how a resource is iterated are
parameters (`MappingApi`).
-/

namespace DdTrace
namespace Mappings

open DdTrace.Lib DdTrace.Core DdTrace.Otel

/-! ## Values and resources -/

/-- The attributes of a process. -/
abbrev Resource := HashMap Str Value

/-- The functions of the standard library and of the API that the mapping calls. -/
structure MappingApi where
  displayF64 : F64 → Str
  toLowercase : Str → Str
  arrayToString : ArrayValue → Str
  valueToString : Value → Str
  valueAsStr : Value → Str
  resourceOrder : IterOrder Str Value

/-- Printing of the values that hold no float, and of ASCII text, for the examples. -/
def MappingApi.plain : MappingApi :=
  { displayF64 := fun _ => []
    toLowercase := fun s => s.map Char.toLower
    arrayToString := fun _ => []
    valueToString := fun v =>
      match v with
      | .bool b => if b then "true".toList else "false".toList
      | .i64 i => Numeral.intDecimal i.toInt
      | .string s => s
      | _ => []
    valueAsStr := fun v =>
      match v with
      | .bool b => if b then "true".toList else "false".toList
      | .i64 i => Numeral.intDecimal i.toInt
      | .string s => s
      | _ => []
    resourceOrder := .asStored Str Value }

/-- A view of a span. -/
structure OtelSpan where
  name : Str
  spanKind : SpanKind
  hasAttr : AttributeKey → Bool
  getAttrStrOpt : AttributeKey → Option Str
  /-- An integral attribute, before it is converted to the type that is asked for. -/
  getAttrI64 : AttributeKey → Option Int64
  getResAttributeOpt : AttributeKey → Option Value

namespace OtelSpan

def getAttrStr (self : OtelSpan) (attrKey : AttributeKey) : Str :=
  (self.getAttrStrOpt attrKey).getD []

def getAttrNum {T : Type} (tryFrom : Int64 → Option T) (self : OtelSpan)
    (attrKey : AttributeKey) : Option T :=
  (self.getAttrI64 attrKey).bind tryFrom

end OtelSpan

def i32TryFrom (i : Int64) : Option Int32 :=
  if -2 ^ 31 ≤ i.toInt ∧ i.toInt < 2 ^ 31 then some (Int32.ofInt i.toInt) else none

def u32TryFrom (i : Int64) : Option UInt32 :=
  if 0 ≤ i.toInt ∧ i.toInt < 2 ^ 32 then some (UInt32.ofNat i.toInt.toNat) else none

variable (api : MappingApi) (span : OtelSpan)

/-! ## Lookups -/

/-- Resource attributes count unless they are empty, span attributes even then. -/
def getResSpanAttributes : List AttributeKey → Str
  | [] => []
  | attrKey :: attributes =>
      let resAttr := (span.getResAttributeOpt attrKey).map api.valueToString
      match resAttr.filter fun resAttr => !resAttr.isEmpty with
      | some resAttr => resAttr
      | none =>
          match span.getAttrStrOpt attrKey with
          | some attr => attr
          | none => getResSpanAttributes attributes

def getSpanAttributes : List AttributeKey → Str
  | [] => []
  | attrKey :: attributes =>
      match (span.getAttrStrOpt attrKey).filter fun attr => !attr.isEmpty with
      | some attr => attr
      | none => getSpanAttributes attributes

def getResAttributes : List AttributeKey → Str
  | [] => []
  | attrKey :: attributes =>
      match (span.getResAttributeOpt attrKey).filter fun v => !(api.valueAsStr v).isEmpty with
      | some resAttr => api.valueToString resAttr
      | none => getResAttributes attributes

/-! ## Operation name -/

def spanKindStr : SpanKind → Str
  | .client => "client".toList
  | .server => "server".toList
  | .producer => "producer".toList
  | .consumer => "consumer".toList
  | .internal => "internal".toList

/-- The datadog operation name. -/
def getOtelOperationNameV2 : Str :=
  match span.getAttrStrOpt OPERATION_NAME with
  | some name => name
  | none =>
      let isClient := span.spanKind = .client
      let isServer := span.spanKind = .server
      let isHttp := span.hasAttr HTTP_METHOD || span.hasAttr HTTP_REQUEST_METHOD
      let dbSystem := getSpanAttributes span [DB_SYSTEM, DB_SYSTEM_NAME]
      let messagingSystem := span.getAttrStr MESSAGING_SYSTEM
      let messagingOperation :=
        getSpanAttributes span [MESSAGING_OPERATION, MESSAGING_OPERATION_TYPE]
      let rpcSystem := span.getAttrStr RPC_SYSTEM
      let isRpc := !rpcSystem.isEmpty
      let rpcService := span.getAttrStr RPC_SERVICE
      let faasInvokedProvider := span.getAttrStr FAAS_INVOKED_PROVIDER
      let faasInvokedName := span.getAttrStr FAAS_INVOKED_NAME
      let faasTrigger := span.getAttrStr FAAS_TRIGGER
      let protocol := span.getAttrStr NETWORK_PROTOCOL_NAME
      if isHttp ∧ isClient then "http.client.request".toList
      else if isHttp ∧ isServer then "http.server.request".toList
      else if !dbSystem.isEmpty ∧ isClient then api.toLowercase dbSystem ++ ".query".toList
      else if !messagingSystem.isEmpty ∧ !messagingOperation.isEmpty ∧
          span.spanKind ≠ .internal then
        api.toLowercase (messagingSystem ++ '.' :: messagingOperation)
      else if isClient ∧ rpcSystem = "aws-api".toList then
        if !rpcService.isEmpty then
          "aws.".toList ++ api.toLowercase rpcService ++ ".request".toList
        else "aws.client.request".toList
      else if isClient ∧ isRpc then api.toLowercase rpcSystem ++ ".client.request".toList
      else if isServer ∧ isRpc then api.toLowercase rpcSystem ++ ".server.request".toList
      else if isClient ∧ !faasInvokedProvider.isEmpty ∧ !faasInvokedName.isEmpty then
        api.toLowercase (faasInvokedProvider ++ '.' :: faasInvokedName ++ ".invoke".toList)
      else if !faasTrigger.isEmpty ∧ isServer then api.toLowercase faasTrigger ++ ".invoke".toList
      else if !(span.getAttrStr GRAPHQL_OPERATION_TYPE).isEmpty then
        "graphql.server.request".toList
      else if isServer then
        if !protocol.isEmpty then api.toLowercase protocol ++ ".server.request".toList
        else "server.request".toList
      else if isClient then
        if !protocol.isEmpty then api.toLowercase protocol ++ ".client.request".toList
        else "client.request".toList
      else spanKindStr span.spanKind

/-! ## Resource name -/

/-- A text with a second one behind it, unless that is empty. -/
def withSuffix (resName suffix : Str) : Str :=
  if !suffix.isEmpty then resName ++ ' ' :: suffix else resName

def getOtelResourceV2 : Str :=
  let lookup := getResSpanAttributes api span
  let resourceName := lookup [RESOURCE_NAME]
  let httpMethod := lookup [HTTP_REQUEST_METHOD, HTTP_METHOD]
  let messagingOperation := lookup [MESSAGING_OPERATION_TYPE, MESSAGING_OPERATION]
  let rpcMethod := lookup [RPC_METHOD]
  let graphqlOperationType := lookup [GRAPHQL_OPERATION_TYPE]
  let dbSystem := lookup [DB_SYSTEM_NAME, DB_SYSTEM]
  let dbStatement := lookup [DB_STATEMENT]
  let dbQuery := lookup [DB_QUERY_TEXT]
  if !resourceName.isEmpty then resourceName
  else if !httpMethod.isEmpty then
    let m := if httpMethod = "_OTHER".toList then "HTTP".toList else httpMethod
    if span.spanKind = .server then withSuffix m (lookup [HTTP_ROUTE]) else m
  else if !messagingOperation.isEmpty then
    withSuffix messagingOperation (lookup [MESSAGING_DESTINATION, MESSAGING_DESTINATION_NAME])
  else if !rpcMethod.isEmpty then withSuffix rpcMethod (lookup [RPC_SERVICE])
  else if !graphqlOperationType.isEmpty then
    withSuffix graphqlOperationType (lookup [GRAPHQL_OPERATION_NAME])
  else if !dbSystem.isEmpty ∧ !dbStatement.isEmpty then dbStatement
  else if !dbSystem.isEmpty ∧ !dbQuery.isEmpty then dbQuery
  else span.name

/-! ## Status code, type, environment and service -/

def getOtelStatusCode : UInt32 :=
  match span.getAttrNum u32TryFrom HTTP_RESPONSE_STATUS_CODE with
  | some code => code
  | none => (span.getAttrNum u32TryFrom HTTP_STATUS_CODE).getD 0

def SPAN_TYPE_DB : Str := "db".toList

/-- Span types and the database systems that have them. -/
def DB_MAPPING : List (Str × List String) :=
  [("sql".toList,
    ["other_sql", "mssql", "mysql", "oracle", "db2", "postgresql", "redshift", "cloudscape",
     "hsqldb", "maxdb", "ingres", "firstsql", "edb", "cache", "firebird", "derby", "informix",
     "mariadb", "sqlite", "sybase", "teradata", "vertica", "h2", "coldfusion", "cockroachdb",
     "progress", "hanadb", "adabas", "filemaker", "instantdb", "interbase", "netezza",
     "pervasive", "pointbase", "clickhouse"]),
   ("cassandra".toList, ["cassandra"]),
   ("redis".toList, ["redis"]),
   ("memcached".toList, ["memcached"]),
   ("mongodb".toList, ["mongodb"]),
   ("elasticsearch".toList, ["elasticsearch"]),
   ("opensearch".toList, ["opensearch"]),
   (SPAN_TYPE_DB,
    ["hive", "hbase", "neo4j", "couchbase", "couchdb", "cosmosdb", "dynamodb", "geode"])]

def checkDbType (dbType : Str) : Str :=
  match DB_MAPPING.find? fun entry => dbType ∈ entry.2.map String.toList with
  | some (spanType, _) => spanType
  | none => SPAN_TYPE_DB

def getOtelSpanType : Str :=
  let typ := getResSpanAttributes api span [SPAN_TYPE]
  if !typ.isEmpty then typ
  else
    match span.spanKind with
    | .server => "web".toList
    | .client =>
        let db := getResSpanAttributes api span [DB_SYSTEM_NAME, DB_SYSTEM]
        if db.isEmpty then "http".toList else checkDbType db
    | _ => "custom".toList

def getOtelEnv : Str :=
  let datadogEnv := getResSpanAttributes api span [DATADOG_ENV]
  if !datadogEnv.isEmpty then datadogEnv
  else getResAttributes api span [DEPLOYMENT_ENVIRONMENT_NAME, DEPLOYMENT_ENVIRONMENT]

def DEFAULT_OTLP_SERVICE_NAME : Str := "otlpresourcenoservicename".toList

/-- The service of the span, or else that of the resource. -/
def getOtelService : Str :=
  match (span.getAttrStrOpt SERVICE_NAME).filter fun service => !service.isEmpty with
  | some service => service
  | none =>
      match (span.getResAttributeOpt SERVICE_NAME).filter fun service =>
        !(api.valueAsStr service).isEmpty with
      | some service => api.valueToString service
      | none => DEFAULT_OTLP_SERVICE_NAME

/-! ## Keys -/

/-- The semantic conventions that have another name in datadog. -/
def HTTP_MAPPINGS : List (Str × Str) :=
  [("client.address".toList, "http.client_ip".toList),
   ("http.response.body.size".toList, "http.response.content_length".toList),
   ("http.response.status_code".toList, "http.status_code".toList),
   ("http.request.body.size".toList, "http.request.content_length".toList),
   ("http.request.header.referrer".toList, "http.referrer".toList),
   ("http.request.method".toList, "http.method".toList),
   ("http.route".toList, "http.route".toList),
   ("network.protocol.version".toList, "http.version".toList),
   ("server.address".toList, "http.server_name".toList),
   ("url.full".toList, "http.url".toList),
   ("user_agent.original".toList, "http.useragent".toList)]

def httpMappings (k : Str) : Option Str := HTTP_MAPPINGS.lookup k

def isDatadogConventionKey (k : Str) : Bool :=
  k = "service.name".toList || k = "operation.name".toList || k = "resource.name".toList ||
    k = "span.type".toList || "datadog.".toList.isPrefixOf k

/-- The key under which an attribute is exported; empty if it is not exported. -/
def getDdKeyForOtlpAttribute (k : Str) : Str :=
  match httpMappings k with
  | some mappedKey => mappedKey
  | none =>
      match Text.stripPrefix "http.request.header.".toList k with
      | some suffix => "http.request.headers.".toList ++ suffix
      | none => if isDatadogConventionKey k then [] else k

/-! ## Internal keys

The keys that start with an underscore keep their name, and no other key is given one. -/

def IsInternalKey (k : Str) : Prop := k.head? = some '_'

instance (k : Str) : Decidable (IsInternalKey k) :=
  inferInstanceAs (Decidable (k.head? = some '_'))

theorem httpMappings_of_isInternalKey {k : Str} (h : IsInternalKey k) : httpMappings k = none := by
  rw [httpMappings, List.lookup_eq_none_iff]
  intro entry hentry
  have hkeys : ∀ entry ∈ HTTP_MAPPINGS, ¬ IsInternalKey entry.1 := by decide
  have hne : k ≠ entry.1 := fun heq => hkeys entry hentry (heq ▸ h)
  simpa using hne

theorem not_isInternalKey_of_httpMappings {k mappedKey : Str}
    (h : httpMappings k = some mappedKey) : ¬ IsInternalKey mappedKey := by
  have hvalues : ∀ entry ∈ HTTP_MAPPINGS, ¬ IsInternalKey entry.2 := by decide
  obtain ⟨before, after, heq, -⟩ := List.lookup_eq_some_iff.1 h
  exact hvalues (k, mappedKey) (by simp [heq])

theorem isDatadogConventionKey_of_isInternalKey {k : Str} (h : IsInternalKey k) :
    isDatadogConventionKey k = false := by
  obtain ⟨rest, rfl⟩ := List.head?_eq_some_iff.1 h
  simp [isDatadogConventionKey, List.isPrefixOf]

theorem getDdKeyForOtlpAttribute_of_isInternalKey {k : Str} (h : IsInternalKey k) :
    getDdKeyForOtlpAttribute k = k := by
  have hstrip : Text.stripPrefix "http.request.header.".toList k = none := by
    obtain ⟨rest, rfl⟩ := List.head?_eq_some_iff.1 h
    simp [Text.stripPrefix]
  rw [getDdKeyForOtlpAttribute, httpMappings_of_isInternalKey h]
  simp only [hstrip, isDatadogConventionKey_of_isInternalKey h]
  rfl

/-- Only an internal key is exported under one. -/
theorem getDdKeyForOtlpAttribute_eq {k : Str} (h : IsInternalKey (getDdKeyForOtlpAttribute k)) :
    getDdKeyForOtlpAttribute k = k := by
  simp only [getDdKeyForOtlpAttribute] at h ⊢
  cases hmap : httpMappings k with
  | some mappedKey =>
      simp only [hmap] at h
      exact absurd h (not_isInternalKey_of_httpMappings hmap)
  | none =>
      simp only [hmap] at h ⊢
      cases hstrip : Text.stripPrefix "http.request.header.".toList k with
      | some suffix =>
          simp only [hstrip] at h
          cases h
      | none =>
          simp only [hstrip] at h ⊢
          split_ifs at h ⊢ with hconvention
          · cases h
          · rfl

end Mappings
end DdTrace
