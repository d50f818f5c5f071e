import BatchTree.CreateMode
import BatchTree.Encoding.Value
import BatchTree.Path.Parse
import BatchTree.Status
import BatchTree.Watch.Event

/-!
# Encoded scalars

Codes and modes are encoded by their numbers, paths by their texts, and kinds of
events by their tags.
-/

namespace BatchTree

open Value

instance : Encodable Status where
  encode status := .integer status.id
  decode? value := value.int32?.bind Status.ofId?

instance : Encodable CreateMode where
  encode mode := .integer mode.flag
  decode? value := value.int32?.bind CreateMode.ofFlag?

/-- A text is decoded as a path only if it is the text of one. -/
instance : Encodable Path where
  encode path := .text path.text
  decode? value := value.text?.bind fun text => (Path.parse text).toOption

instance : Encodable EventKind where
  encode kind := .text kind.tag
  decode? value :=
    match value.variant? with
    | some (tag, none) => EventKind.ofTag? tag
    | _ => none

/-- Payloads are encoded byte by byte. -/
instance : Encodable Payload where
  encode data := .list (data.toList.map fun byte => .integer byte.toNat)
  decode? value := (value.list? byte?).map fun bytes => ⟨bytes.toArray⟩

end BatchTree
