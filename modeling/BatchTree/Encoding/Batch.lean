import BatchTree.Batch.Operation
import BatchTree.Batch.Response
import BatchTree.Encoding.Record

/-!
# Encoded batches

Operations and replies are variants: a record whose one field is named for the
variant and holds its fields, or the bare name where the variant has none.  Their
paths are texts, read as paths only when an operation is tried.
-/

namespace BatchTree

open Value

namespace Operation

def encode : Operation → Value
  | .create path data mode =>
      .record [("Create", .record
        [("path", .text path), ("data", Encodable.encode data), ("mode", Encodable.encode mode)])]
  | .delete path version =>
      .record [("Delete", .record [("path", .text path), ("version", .integer version)])]
  | .setData path data version =>
      .record [("SetData", .record
        [("path", .text path), ("data", Encodable.encode data), ("version", .integer version)])]
  | .check path version =>
      .record [("Check", .record [("path", .text path), ("version", .integer version)])]

def decodeCreate? (value : Value) : Option Operation :=
  match value.variantFields? ["path", "data", "mode"] with
  | some [path, data, mode] => do
      return .create (← path.text?) (← Encodable.decode? data) (← Encodable.decode? mode)
  | _ => none

def decodeSetData? (value : Value) : Option Operation :=
  match value.variantFields? ["path", "data", "version"] with
  | some [path, data, version] => do
      return .setData (← path.text?) (← Encodable.decode? data) (← version.int32?)
  | _ => none

/-- Decode the fields of an operation on a version of a path. -/
def decodeVersioned? (build : String → Version → Operation) (value : Value) :
    Option Operation :=
  match value.variantFields? ["path", "version"] with
  | some [path, version] => do
      return build (← path.text?) (← version.int32?)
  | _ => none

def decode? (value : Value) : Option Operation :=
  match value.variant? with
  | some ("Create", some fields) => decodeCreate? fields
  | some ("Delete", some fields) => decodeVersioned? .delete fields
  | some ("SetData", some fields) => decodeSetData? fields
  | some ("Check", some fields) => decodeVersioned? .check fields
  | _ => none

instance : Encodable Operation := ⟨encode, decode?⟩

end Operation

namespace Reply

def encode : Reply → Value
  | .created path => .record [("Create", .record [("path", .text path)])]
  | .deleted => .text "Delete"
  | .dataSet stat => .record [("SetData", .record [("stat", stat.encode)])]
  | .checked => .text "Check"
  | .failed status => .record [("Error", .record [("code", Encodable.encode status)])]

/-- Decode the only field of a reply. -/
def decodeField? {α : Type} (name : String) (decode? : Value → Option α) (value : Value) :
    Option α :=
  match value.variantFields? [name] with
  | some [field] => decode? field
  | _ => none

def decode? (value : Value) : Option Reply :=
  match value.variant? with
  | some ("Create", some fields) => (decodeField? "path" text? fields).map .created
  | some ("Delete", none) => some .deleted
  | some ("SetData", some fields) => (decodeField? "stat" Stat.decode? fields).map .dataSet
  | some ("Check", none) => some .checked
  | some ("Error", some fields) => (decodeField? "code" Encodable.decode? fields).map .failed
  | _ => none

instance : Encodable Reply := ⟨encode, decode?⟩

end Reply

namespace Response

def fieldNames : List String :=
  ["outcome", "failed_index", "zxid", "results"]

def encode (response : Response) : Value :=
  .record
    [("outcome", Encodable.encode response.outcome),
      ("failed_index", .optional (response.failedIndex.map .size)),
      ("zxid", .optional (response.zxid.map .integer)),
      ("results", .list (response.replies.map Reply.encode))]

/-- Decode a response.  The index of the failed operation and the number may be
missing. -/
def decode? (value : Value) : Option Response :=
  match value.fields? fieldNames with
  | some [some outcome, failedIndex, zxid, some replies] => do
      let outcome ← Encodable.decode? outcome
      let failedIndex ← (failedIndex.getD .null).optional? size?
      let zxid ← (zxid.getD .null).optional? int64?
      let replies ← replies.list? Reply.decode?
      return { outcome, failedIndex, zxid, replies }
  | _ => none

instance : Encodable Response := ⟨encode, decode?⟩

end Response

end BatchTree
