import BatchTree.Config.Basic
import BatchTree.Encoding.Scalar

/-!
# Encoded records

Node records, events and configurations.  A configuration is the one record with
defaults for all of its fields; in return it tolerates no unknown field.
-/

namespace BatchTree

open Value

namespace Stat

def fieldNames : List String :=
  ["czxid", "mzxid", "pzxid", "version", "cversion", "num_children", "data_length"]

def encode (stat : Stat) : Value :=
  .record
    [("czxid", .integer stat.czxid), ("mzxid", .integer stat.mzxid),
      ("pzxid", .integer stat.pzxid), ("version", .integer stat.version),
      ("cversion", .integer stat.cversion), ("num_children", .integer stat.numChildren),
      ("data_length", .integer stat.dataLength)]

def decode? (value : Value) : Option Stat :=
  match value.allFields? fieldNames with
  | some [czxid, mzxid, pzxid, version, cversion, numChildren, dataLength] => do
      let czxid ← czxid.int64?
      let mzxid ← mzxid.int64?
      let pzxid ← pzxid.int64?
      let version ← version.int32?
      let cversion ← cversion.int32?
      let numChildren ← numChildren.int32?
      let dataLength ← dataLength.int32?
      return { czxid, mzxid, pzxid, version, cversion, numChildren, dataLength }
  | _ => none

instance : Encodable Stat := ⟨encode, decode?⟩

end Stat

namespace Event

def fieldNames : List String :=
  ["path", "kind", "zxid"]

def encode (event : Event) : Value :=
  .record
    [("path", Encodable.encode event.path), ("kind", Encodable.encode event.kind),
      ("zxid", .integer event.zxid)]

def decode? (value : Value) : Option Event :=
  match value.allFields? fieldNames with
  | some [path, kind, zxid] => do
      let path ← Encodable.decode? path
      let kind ← Encodable.decode? kind
      let zxid ← zxid.int64?
      return { path, kind, zxid }
  | _ => none

instance : Encodable Event := ⟨encode, decode?⟩

end Event

namespace Config

def fieldNames : List String :=
  ["max_data_len", "max_batch_ops", "queue_depth", "worker_name"]

def encode (config : Config) : Value :=
  .record
    [("max_data_len", .size config.maxDataLength), ("max_batch_ops", .size config.maxBatchSize),
      ("queue_depth", .size config.queueDepth), ("worker_name", .text config.workerName)]

/-- A field, or its default if it is missing. -/
def decodeField? {α : Type} (decode? : Value → Option α) (default : α) :
    Option Value → Option α
  | some value => decode? value
  | none => some default

/-- The fields of a record without unknown ones, or of a list that may be shorter
than the record. -/
def fields? : Value → Option (List (Option Value))
  | .record fields =>
      if fields.all fun field => fieldNames.contains field.1 then
        some (fieldNames.map fun name => fields.lookup name)
      else
        none
  | .list items =>
      if items.length ≤ fieldNames.length then
        some ((items.map some).rightpad fieldNames.length none)
      else
        none
  | _ => none

def decode? (value : Value) : Option Config :=
  match fields? value with
  | some [maxDataLength, maxBatchSize, queueDepth, workerName] => do
      let preset : Config := {}
      let maxDataLength ← decodeField? size? preset.maxDataLength maxDataLength
      let maxBatchSize ← decodeField? size? preset.maxBatchSize maxBatchSize
      let queueDepth ← decodeField? size? preset.queueDepth queueDepth
      let workerName ← decodeField? text? preset.workerName workerName
      return { maxDataLength, maxBatchSize, queueDepth, workerName }
  | _ => none

instance : Encodable Config := ⟨encode, decode?⟩

end Config

end BatchTree
