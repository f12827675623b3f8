import DdTrace.Otel.Api

/-!
# AttributeKeys — the attributes that the mapping looks up

Each key of the table has a slot.  A slice of attributes is scanned once; the slot of a key then
holds the position of the attribute, and of several attributes with one key that of the last.
-/

namespace DdTrace
namespace Mappings

open DdTrace.Lib DdTrace.Core DdTrace.Otel

/-! ## The table -/

abbrev NUMBER_OF_ATTRIBUTES : Nat := 43

/-- A key of the table and its slot. -/
structure AttributeKey where
  idx : Fin NUMBER_OF_ATTRIBUTES
  key : Str

def DATADOG_SERVICE : AttributeKey := ⟨0, "datadog.service".toList⟩
def DATADOG_NAME : AttributeKey := ⟨1, "datadog.name".toList⟩
def DATADOG_ENV : AttributeKey := ⟨2, "datadog.env".toList⟩
def DATADOG_RESOURCE : AttributeKey := ⟨3, "datadog.resource".toList⟩
def DATADOG_TYPE : AttributeKey := ⟨4, "datadog.type".toList⟩
def DATADOG_VERSION : AttributeKey := ⟨5, "datadog.version".toList⟩
def DATADOG_HTTP_STATUS_CODE : AttributeKey := ⟨6, "datadog.http_status_code".toList⟩
def DATADOG_SPAN_KIND : AttributeKey := ⟨7, "datadog.span.kind".toList⟩
def DATADOG_ERROR : AttributeKey := ⟨8, "datadog.error".toList⟩
def DATADOG_ERROR_MSG : AttributeKey := ⟨9, "datadog.error.msg".toList⟩
def DATADOG_ERROR_TYPE : AttributeKey := ⟨10, "datadog.error.type".toList⟩
def DATADOG_ERROR_STACK : AttributeKey := ⟨11, "datadog.error.stack".toList⟩
def OPERATION_NAME : AttributeKey := ⟨12, "operation.name".toList⟩
def HTTP_REQUEST_METHOD : AttributeKey := ⟨13, "http.request.method".toList⟩
def HTTP_METHOD : AttributeKey := ⟨14, "http.method".toList⟩
def DB_SYSTEM : AttributeKey := ⟨15, "db.system".toList⟩
def DB_SYSTEM_NAME : AttributeKey := ⟨16, "db.system.name".toList⟩
def MESSAGING_SYSTEM : AttributeKey := ⟨17, "messaging.system".toList⟩
def MESSAGING_OPERATION : AttributeKey := ⟨18, "messaging.operation".toList⟩
def MESSAGING_OPERATION_TYPE : AttributeKey := ⟨19, "messaging.operation.type".toList⟩
def RPC_SYSTEM : AttributeKey := ⟨20, "rpc.system".toList⟩
def RPC_SERVICE : AttributeKey := ⟨21, "rpc.service".toList⟩
def FAAS_INVOKED_PROVIDER : AttributeKey := ⟨22, "faas.invoked_provider".toList⟩
def FAAS_INVOKED_NAME : AttributeKey := ⟨23, "faas.invoked_name".toList⟩
def FAAS_TRIGGER : AttributeKey := ⟨24, "faas.trigger".toList⟩
def GRAPHQL_OPERATION_TYPE : AttributeKey := ⟨25, "graphql.operation.type".toList⟩
def NETWORK_PROTOCOL_NAME : AttributeKey := ⟨26, "network.protocol.name".toList⟩
def RESOURCE_NAME : AttributeKey := ⟨27, "resource.name".toList⟩
def HTTP_ROUTE : AttributeKey := ⟨28, "http.route".toList⟩
def MESSAGING_DESTINATION : AttributeKey := ⟨29, "messaging.destination".toList⟩
def MESSAGING_DESTINATION_NAME : AttributeKey := ⟨30, "messaging.destination.name".toList⟩
def RPC_METHOD : AttributeKey := ⟨31, "rpc.method".toList⟩
def GRAPHQL_OPERATION_NAME : AttributeKey := ⟨32, "graphql.operation.name".toList⟩
def DB_STATEMENT : AttributeKey := ⟨33, "db.statement".toList⟩
def DB_QUERY_TEXT : AttributeKey := ⟨34, "db.query.text".toList⟩
def SPAN_TYPE : AttributeKey := ⟨35, "span.type".toList⟩
def HTTP_RESPONSE_STATUS_CODE : AttributeKey := ⟨36, "http.response.status_code".toList⟩
def HTTP_STATUS_CODE : AttributeKey := ⟨37, "http.status_code".toList⟩
def SERVICE_NAME : AttributeKey := ⟨38, "service.name".toList⟩
def SERVICE_VERSION : AttributeKey := ⟨39, "service.version".toList⟩
def DEPLOYMENT_ENVIRONMENT_NAME : AttributeKey := ⟨40, "deployment.environment.name".toList⟩
def DEPLOYMENT_ENVIRONMENT : AttributeKey := ⟨41, "deployment.environment".toList⟩
def DD_MEASURED : AttributeKey := ⟨42, "_dd.measured".toList⟩

/-- The keys in the order of their slots. -/
def ATTRIBUTE_KEYS : List AttributeKey :=
  [DATADOG_SERVICE, DATADOG_NAME, DATADOG_ENV, DATADOG_RESOURCE, DATADOG_TYPE, DATADOG_VERSION,
   DATADOG_HTTP_STATUS_CODE, DATADOG_SPAN_KIND, DATADOG_ERROR, DATADOG_ERROR_MSG,
   DATADOG_ERROR_TYPE, DATADOG_ERROR_STACK, OPERATION_NAME, HTTP_REQUEST_METHOD, HTTP_METHOD,
   DB_SYSTEM, DB_SYSTEM_NAME, MESSAGING_SYSTEM, MESSAGING_OPERATION, MESSAGING_OPERATION_TYPE,
   RPC_SYSTEM, RPC_SERVICE, FAAS_INVOKED_PROVIDER, FAAS_INVOKED_NAME, FAAS_TRIGGER,
   GRAPHQL_OPERATION_TYPE, NETWORK_PROTOCOL_NAME, RESOURCE_NAME, HTTP_ROUTE,
   MESSAGING_DESTINATION, MESSAGING_DESTINATION_NAME, RPC_METHOD, GRAPHQL_OPERATION_NAME,
   DB_STATEMENT, DB_QUERY_TEXT, SPAN_TYPE, HTTP_RESPONSE_STATUS_CODE, HTTP_STATUS_CODE,
   SERVICE_NAME, SERVICE_VERSION, DEPLOYMENT_ENVIRONMENT_NAME, DEPLOYMENT_ENVIRONMENT,
   DD_MEASURED]

def getAttributeIdx (key : Str) : Option AttributeKey :=
  ATTRIBUTE_KEYS.find? fun attrKey => key = attrKey.key

/-! ## Positions -/

def U32_MAX : UInt32 := 0xFFFFFFFF

/-- For each slot the position of an attribute; `U32_MAX` stands for none. -/
structure AttributeIndices where
  positions : Vector UInt32 NUMBER_OF_ATTRIBUTES

namespace AttributeIndices

def default : AttributeIndices := { positions := .replicate NUMBER_OF_ATTRIBUTES U32_MAX }

def set (self : AttributeIndices) (key : AttributeKey) (val : Nat) : AttributeIndices :=
  { positions := self.positions.set key.idx (UInt32.ofNat val) }

def get (self : AttributeIndices) (key : AttributeKey) : Option Nat :=
  let val := self.positions[key.idx]
  if val = U32_MAX then none else some val.toNat

/-- One step of the scan: a key of the table has its slot overwritten. -/
def visit (self : AttributeIndices) (kv : KeyValue × Nat) : AttributeIndices :=
  match getAttributeIdx kv.1.key with
  | none => self
  | some idx => self.set idx kv.2

def fromAttributeSlice (attributes : List KeyValue) : AttributeIndices :=
  attributes.zipIdx.foldl visit default

end AttributeIndices

end Mappings
end DdTrace
