import BatchTree.Proofs.Decoders

/-!
# Round trips

What is decoded from an encoding is the value that was encoded, as long as its
numbers are within the ranges of their types.  Every decoded value is within them,
so a value read from any accepted form survives being written and read again.
-/

namespace BatchTree

open Value

/-! ## Values within their types -/

/-- Are all numbers of a node record within their types? -/
structure Stat.Fits (stat : Stat) : Prop where
  czxid : IsInt64 stat.czxid
  mzxid : IsInt64 stat.mzxid
  pzxid : IsInt64 stat.pzxid
  version : IsInt32 stat.version
  cversion : IsInt32 stat.cversion
  numChildren : IsInt32 stat.numChildren
  dataLength : IsInt32 stat.dataLength

def Event.Fits (event : Event) : Prop :=
  IsInt64 event.zxid

structure Config.Fits (config : Config) : Prop where
  maxDataLength : IsSize config.maxDataLength
  maxBatchSize : IsSize config.maxBatchSize
  queueDepth : IsSize config.queueDepth

def Operation.Fits : Operation → Prop
  | .create .. => True
  | .delete _ version => IsInt32 version
  | .setData _ _ version => IsInt32 version
  | .check _ version => IsInt32 version

def Reply.Fits : Reply → Prop
  | .dataSet stat => stat.Fits
  | _ => True

structure Response.Fits (response : Response) : Prop where
  failedIndex : ∀ index ∈ response.failedIndex, IsSize index
  zxid : ∀ zxid ∈ response.zxid, IsInt64 zxid
  replies : ∀ reply ∈ response.replies, reply.Fits

/-! ## Decoders that undo encoders -/

/-- Values that fit are decoded from their encodings as they were; and whatever
form a value is decoded from, it fits, and is decoded again from its encoding. -/
structure RoundTrips {α : Type} [Encodable α] (Fits : α → Prop) : Prop where
  decode?_encode {item : α} : Fits item →
    Encodable.decode? (Encodable.encode item) = some item
  fits {value : Value} {item : α} : Encodable.decode? value = some item → Fits item
  decode?_encode_of_decode? {value : Value} {item : α} : Encodable.decode? value = some item →
    Encodable.decode? (Encodable.encode item) = some item

/-- The last clause follows from the others. -/
theorem RoundTrips.of_fits {α : Type} [Encodable α] {Fits : α → Prop}
    (undone : ∀ item : α, Fits item → Encodable.decode? (Encodable.encode item) = some item)
    (fits : ∀ (value : Value) (item : α), Encodable.decode? value = some item → Fits item) :
    RoundTrips Fits where
  decode?_encode := undone _
  fits := fits _ _
  decode?_encode_of_decode? decoded := undone _ (fits _ _ decoded)

/-! ## Codes, modes, kinds, payloads and paths -/

theorem Status.roundTrips : RoundTrips fun _ : Status => True := by
  refine .of_fits (fun status _ => ?_) fun _ _ _ => trivial
  have fits : IsInt32 status.id := by cases status <;> decide
  show (Value.integer status.id).int32?.bind Status.ofId? = some status
  rw [int32?_integer fits, Option.bind_some, Status.ofId?_id]

theorem CreateMode.roundTrips : RoundTrips fun _ : CreateMode => True := by
  refine .of_fits (fun mode _ => ?_) fun _ _ _ => trivial
  have fits : IsInt32 mode.flag := by cases mode <;> decide
  show (Value.integer mode.flag).int32?.bind CreateMode.ofFlag? = some mode
  rw [int32?_integer fits, Option.bind_some, CreateMode.ofFlag?_flag]

theorem EventKind.roundTrips : RoundTrips fun _ : EventKind => True :=
  .of_fits (fun kind _ => by cases kind <;> rfl) fun _ _ _ => trivial

theorem Payload.toListLoop_eq (data : Payload) (index : Nat) (taken : List UInt8) :
    ByteArray.toList.loop data index taken = taken.reverse ++ data.data.toList.drop index := by
  induction index, taken using ByteArray.toList.loop.induct data with
  | case1 index taken inside ih =>
      have within : index < data.data.toList.length := by simpa using inside
      have byte : data.get! index = data.data.toList[index] :=
        getElem!_pos data.data index (by simpa using inside)
      rw [ByteArray.toList.loop, if_pos inside, ih, List.drop_eq_getElem_cons within, byte]
      simp
  | case2 index taken outside =>
      have beyond : data.data.toList.length ≤ index := by simpa using outside
      rw [ByteArray.toList.loop, if_neg outside, List.drop_eq_nil_of_le beyond, List.append_nil]

theorem Payload.toList_eq (data : Payload) : data.toList = data.data.toList := by
  rw [ByteArray.toList, toListLoop_eq, List.reverse_nil, List.nil_append, List.drop_zero]

theorem Payload.roundTrips : RoundTrips fun _ : Payload => True := by
  refine .of_fits (fun data _ => ?_) fun _ _ _ => trivial
  show ((Value.list (data.toList.map fun byte => .integer byte.toNat)).list? byte?).map
    (fun bytes => (⟨bytes.toArray⟩ : Payload)) = some data
  rw [list?_map fun byte _ => byte?_toNat byte, Option.map_some, toList_eq, Array.toArray_toList]

theorem Path.roundTrips : RoundTrips fun _ : Path => True := by
  refine .of_fits (fun path _ => ?_) fun _ _ _ => trivial
  show (Path.parse path.text).toOption = some path
  rw [Path.parse_text]
  rfl

/-- A path is decoded from a text that can be read as that path, and from nothing
else. -/
theorem Path.decode?_eq_some_iff {value : Value} {path : Path} :
    Encodable.decode? value = some path ↔
      ∃ text, value = .text text ∧ Path.parse text = .ok path := by
  show value.text?.bind (fun text => (Path.parse text).toOption) = some path ↔ _
  simp only [Option.bind_eq_some_iff, text?_eq_some_iff]
  refine exists_congr fun text => and_congr_right fun _ => ?_
  cases Path.parse text <;> simp [Except.toOption]

/-! ## Node records -/

namespace Stat

theorem decode?_encode {stat : Stat} (fits : stat.Fits) :
    decode? stat.encode = some stat := by
  have read : stat.encode.allFields? fieldNames =
      some [.integer stat.czxid, .integer stat.mzxid, .integer stat.pzxid, .integer stat.version,
        .integer stat.cversion, .integer stat.numChildren, .integer stat.dataLength] := rfl
  rw [decode?, read]
  simp [fits.czxid, fits.mzxid, fits.pzxid, fits.version, fits.cversion, fits.numChildren,
    fits.dataLength]

theorem fits_of_decode? {value : Value} {stat : Stat} (decoded : decode? value = some stat) :
    stat.Fits := by
  unfold decode? at decoded
  split at decoded
  · simp only [Option.bind_eq_bind, Option.bind_eq_some_iff, Option.pure_def, Option.some.injEq,
      int32?_eq_some_iff, int64?_eq_some_iff] at decoded
    obtain ⟨czxid, ⟨-, czxidFits⟩, mzxid, ⟨-, mzxidFits⟩, pzxid, ⟨-, pzxidFits⟩,
      version, ⟨-, versionFits⟩, cversion, ⟨-, cversionFits⟩, children, ⟨-, childrenFit⟩,
      size, ⟨-, sizeFits⟩, rfl⟩ := decoded
    exact ⟨czxidFits, mzxidFits, pzxidFits, versionFits, cversionFits, childrenFit, sizeFits⟩
  · cases decoded

theorem roundTrips : RoundTrips Stat.Fits :=
  .of_fits (fun _ => decode?_encode) fun _ _ => fits_of_decode?

end Stat

/-! ## Events -/

namespace Event

theorem decode?_encode {event : Event} (fits : event.Fits) :
    decode? event.encode = some event := by
  have read : event.encode.allFields? fieldNames =
      some [Encodable.encode event.path, Encodable.encode event.kind, .integer event.zxid] := rfl
  rw [decode?, read]
  simp [Path.roundTrips.decode?_encode, EventKind.roundTrips.decode?_encode, int64?_integer fits]

theorem fits_of_decode? {value : Value} {event : Event} (decoded : decode? value = some event) :
    event.Fits := by
  unfold decode? at decoded
  split at decoded
  · simp only [Option.bind_eq_bind, Option.bind_eq_some_iff, Option.pure_def,
      Option.some.injEq] at decoded
    obtain ⟨_, -, _, -, zxid, zxidDecoded, rfl⟩ := decoded
    exact (int64?_eq_some_iff.1 zxidDecoded).2
  · cases decoded

theorem roundTrips : RoundTrips Event.Fits :=
  .of_fits (fun _ => decode?_encode) fun _ _ => fits_of_decode?

/-- The encoded event `value` gives its path as `text`. -/
inductive GivesPath : Value → String → Prop where
  | record {fields : List (String × Value)} {text : String} :
      fields.lookup "path" = some (.text text) → GivesPath (.record fields) text
  | list {text : String} {rest : List Value} : GivesPath (.list (.text text :: rest)) text

/-- The path that is read is the one that is given. -/
theorem givesPath_of_allFields? {value : Value} {text : String} {rest : List Value}
    (read : value.allFields? fieldNames = some (.text text :: rest)) : GivesPath value text := by
  cases value with
  | record fields =>
      simp only [allFields?, fields?, fieldNames, Option.bind_some, List.map_cons, List.mapM_cons,
        Option.bind_eq_bind, Option.bind_eq_some_iff, Option.pure_def, Option.some.injEq,
        List.cons.injEq, id_eq] at read
      obtain ⟨path, found, _, -, rfl, -⟩ := read
      exact .record found
  | list items =>
      obtain ⟨fields, found, complete⟩ := Option.bind_eq_some_iff.1 read
      simp only [fields?, Option.ite_none_right_eq_some, Option.some.injEq] at found
      obtain ⟨-, rfl⟩ := found
      have whole : (items.map some).mapM id = some items := mapM_map_eq_some fun _ _ => rfl
      rw [whole, Option.some.injEq] at complete
      subst complete
      exact .list
  | _ => cases read

/-- An event is decoded only if what it gives as its path is the text of one. -/
theorem parse_of_decode? {value : Value} {event : Event} (decoded : decode? value = some event) :
    ∃ text, GivesPath value text ∧ Path.parse text = .ok event.path := by
  unfold decode? at decoded
  split at decoded
  · rename_i path kind zxid read
    simp only [Option.bind_eq_bind, Option.bind_eq_some_iff, Option.pure_def,
      Option.some.injEq] at decoded
    obtain ⟨_, pathDecoded, _, -, _, -, rfl⟩ := decoded
    obtain ⟨text, rfl, legal⟩ := Path.decode?_eq_some_iff.1 pathDecoded
    exact ⟨text, givesPath_of_allFields? read, legal⟩
  · cases decoded

end Event

/-! ## Configurations -/

namespace Config

theorem decode?_encode {config : Config} (fits : config.Fits) :
    decode? config.encode = some config := by
  have read : fields? config.encode =
      some [some (.size config.maxDataLength), some (.size config.maxBatchSize),
        some (.size config.queueDepth), some (.text config.workerName)] := rfl
  rw [decode?, read]
  simp [decodeField?, fits.maxDataLength, fits.maxBatchSize, fits.queueDepth]

/-- The default of a size is a size, and so is what stands in its place. -/
theorem isSize_of_decodeField? {preset size : Nat} {field : Option Value}
    (sound : IsSize preset) (decoded : decodeField? size? preset field = some size) :
    IsSize size := by
  cases field with
  | none =>
      cases decoded
      exact sound
  | some value => exact (size?_eq_some_iff.1 decoded).2

theorem fits_of_decode? {value : Value} {config : Config}
    (decoded : decode? value = some config) : config.Fits := by
  unfold decode? at decoded
  split at decoded
  · simp only [Option.bind_eq_bind, Option.bind_eq_some_iff, Option.pure_def,
      Option.some.injEq] at decoded
    obtain ⟨dataLength, dataDecoded, batchSize, batchDecoded, depth, depthDecoded, name, -, rfl⟩ :=
      decoded
    exact ⟨isSize_of_decodeField? (by decide) dataDecoded,
      isSize_of_decodeField? (by decide) batchDecoded,
      isSize_of_decodeField? (by decide) depthDecoded⟩
  · cases decoded

theorem roundTrips : RoundTrips Config.Fits :=
  .of_fits (fun _ => decode?_encode) fun _ _ => fits_of_decode?

end Config

/-! ## Operations -/

namespace Operation

theorem decode?_encode {operation : Operation} (fits : operation.Fits) :
    decode? operation.encode = some operation := by
  cases operation with
  | create path data mode =>
      have read : decode? (create path data mode).encode =
          (do let data ← Encodable.decode? (Encodable.encode data)
              let mode ← Encodable.decode? (Encodable.encode mode)
              return .create path data mode) := rfl
      rw [read, Payload.roundTrips.decode?_encode trivial,
        CreateMode.roundTrips.decode?_encode trivial]
      rfl
  | delete path version =>
      have read : decode? (delete path version).encode =
          (do let version ← (Value.integer version).int32?
              return .delete path version) := rfl
      rw [read, int32?_integer fits]
      rfl
  | setData path data version =>
      have read : decode? (setData path data version).encode =
          (do let data ← Encodable.decode? (Encodable.encode data)
              let version ← (Value.integer version).int32?
              return .setData path data version) := rfl
      rw [read, Payload.roundTrips.decode?_encode trivial, int32?_integer fits]
      rfl
  | check path version =>
      have read : decode? (check path version).encode =
          (do let version ← (Value.integer version).int32?
              return .check path version) := rfl
      rw [read, int32?_integer fits]
      rfl

theorem fits_of_decodeCreate? {value : Value} {operation : Operation}
    (decoded : decodeCreate? value = some operation) : operation.Fits := by
  unfold decodeCreate? at decoded
  split at decoded
  · simp only [Option.bind_eq_bind, Option.bind_eq_some_iff, Option.pure_def,
      Option.some.injEq] at decoded
    obtain ⟨_, -, _, -, _, -, rfl⟩ := decoded
    trivial
  · cases decoded

theorem fits_of_decodeSetData? {value : Value} {operation : Operation}
    (decoded : decodeSetData? value = some operation) : operation.Fits := by
  unfold decodeSetData? at decoded
  split at decoded
  · simp only [Option.bind_eq_bind, Option.bind_eq_some_iff, Option.pure_def,
      Option.some.injEq] at decoded
    obtain ⟨_, -, _, -, version, versionDecoded, rfl⟩ := decoded
    exact (int32?_eq_some_iff.1 versionDecoded).2
  · cases decoded

theorem fits_of_decodeVersioned? (build : String → Version → Operation)
    (bounded : ∀ path version, IsInt32 version → (build path version).Fits) {value : Value}
    {operation : Operation} (decoded : decodeVersioned? build value = some operation) :
    operation.Fits := by
  unfold decodeVersioned? at decoded
  split at decoded
  · simp only [Option.bind_eq_bind, Option.bind_eq_some_iff, Option.pure_def,
      Option.some.injEq] at decoded
    obtain ⟨path, -, version, versionDecoded, rfl⟩ := decoded
    exact bounded path version (int32?_eq_some_iff.1 versionDecoded).2
  · cases decoded

theorem fits_of_decode? {value : Value} {operation : Operation}
    (decoded : decode? value = some operation) : operation.Fits := by
  unfold decode? at decoded
  split at decoded
  · exact fits_of_decodeCreate? decoded
  · exact fits_of_decodeVersioned? .delete (fun _ _ fits => fits) decoded
  · exact fits_of_decodeSetData? decoded
  · exact fits_of_decodeVersioned? .check (fun _ _ fits => fits) decoded
  · cases decoded

theorem roundTrips : RoundTrips Operation.Fits :=
  .of_fits (fun _ => decode?_encode) fun _ _ => fits_of_decode?

end Operation

/-! ## Replies -/

namespace Reply

theorem decode?_encode {reply : Reply} (fits : reply.Fits) :
    decode? reply.encode = some reply := by
  cases reply with
  | created path => rfl
  | deleted => rfl
  | dataSet stat =>
      have read : decode? (dataSet stat).encode = (Stat.decode? stat.encode).map .dataSet := rfl
      rw [read, Stat.decode?_encode fits, Option.map_some]
  | checked => rfl
  | failed status =>
      have read : decode? (failed status).encode =
          (Encodable.decode? (Encodable.encode status)).map .failed := rfl
      rw [read, Status.roundTrips.decode?_encode trivial, Option.map_some]

theorem fits_of_decode? {value : Value} {reply : Reply} (decoded : decode? value = some reply) :
    reply.Fits := by
  unfold decode? at decoded
  split at decoded
  · obtain ⟨_, -, rfl⟩ := Option.map_eq_some_iff.1 decoded
    trivial
  · cases decoded
    trivial
  · obtain ⟨stat, found, rfl⟩ := Option.map_eq_some_iff.1 decoded
    unfold decodeField? at found
    split at found
    · exact Stat.fits_of_decode? found
    · cases found
  · cases decoded
    trivial
  · obtain ⟨_, -, rfl⟩ := Option.map_eq_some_iff.1 decoded
    trivial
  · cases decoded

theorem roundTrips : RoundTrips Reply.Fits :=
  .of_fits (fun _ => decode?_encode) fun _ _ => fits_of_decode?

end Reply

/-! ## Responses -/

namespace Response

theorem decode?_encode {response : Response} (fits : response.Fits) :
    decode? response.encode = some response := by
  have read : response.encode.fields? fieldNames =
      some [some (Encodable.encode response.outcome),
        some (.optional (response.failedIndex.map .size)),
        some (.optional (response.zxid.map .integer)),
        some (.list (response.replies.map Reply.encode))] := rfl
  have index : (Value.optional (response.failedIndex.map .size)).optional? size? =
      some response.failedIndex :=
    optional?_map (fun _ => by simp [Value.size]) fun _ given =>
      size?_size (fits.failedIndex _ given)
  have number : (Value.optional (response.zxid.map .integer)).optional? int64? =
      some response.zxid :=
    optional?_map (fun _ => by simp) fun _ given => int64?_integer (fits.zxid _ given)
  have replies : (Value.list (response.replies.map Reply.encode)).list? Reply.decode? =
      some response.replies :=
    list?_map fun reply given => Reply.decode?_encode (fits.replies reply given)
  rw [decode?, read]
  simp [Status.roundTrips.decode?_encode, index, number, replies]

theorem fits_of_decode? {value : Value} {response : Response}
    (decoded : decode? value = some response) : response.Fits := by
  unfold decode? at decoded
  split at decoded
  · simp only [Option.bind_eq_bind, Option.bind_eq_some_iff, Option.pure_def,
      Option.some.injEq] at decoded
    obtain ⟨outcome, -, index, indexDecoded, number, numberDecoded, replies, repliesDecoded, rfl⟩ :=
      decoded
    refine ⟨fun found given => ?_, fun found given => ?_, fun reply given => ?_⟩
    · exact (size?_eq_some_iff.1 (decoded_of_optional? indexDecoded found given)).2
    · exact (int64?_eq_some_iff.1 (decoded_of_optional? numberDecoded found given)).2
    · obtain ⟨_, replyDecoded⟩ := decoded_of_list? repliesDecoded reply given
      exact Reply.fits_of_decode? replyDecoded
  · cases decoded

theorem roundTrips : RoundTrips Response.Fits :=
  .of_fits (fun _ => decode?_encode) fun _ _ => fits_of_decode?

end Response

/-! ## Every type -/

/-- Values that fit their types are read back as they were written.  So is whatever
is read from another form: from a list of fields, from a record with more fields, or
from one without those that may be missing.  Where a path is expected, nothing but
the text of one is read. -/
theorem encodings_round_trip :
    (RoundTrips Operation.Fits ∧ RoundTrips Reply.Fits ∧ RoundTrips Response.Fits ∧
      RoundTrips Stat.Fits ∧ RoundTrips Event.Fits ∧ RoundTrips Config.Fits) ∧
    OtherForms ∧
    (∀ (value : Value) (path : Path), Encodable.decode? value = some path ↔
      ∃ text, value = .text text ∧ Path.parse text = .ok path) ∧
    (∀ (value : Value) (event : Event), Event.decode? value = some event →
      ∃ text, Event.GivesPath value text ∧ Path.parse text = .ok event.path) :=
  ⟨⟨Operation.roundTrips, Reply.roundTrips, Response.roundTrips, Stat.roundTrips,
    Event.roundTrips, Config.roundTrips⟩, otherForms, fun _ _ => Path.decode?_eq_some_iff,
    fun _ _ => Event.parse_of_decode?⟩

/-- The answer to an aborted batch, given as a list in which one reply has a field too many and
another is named with a null; and a node record whose version is as large as one can be. -/
theorem encodings_round_trip_from_list :
    let given : Value := .list [.integer (-101), .integer 0, .null, .list
      [.record [("Error", .record [("note", .null), ("code", .integer (-101))])],
        .record [("Check", .null)]]]
    let response : Response :=
      { outcome := .noNode, failedIndex := some 0, zxid := none,
        replies := [.failed .noNode, .checked] }
    let stat : Stat := { version := 2147483647 }
    Response.decode? given = some response ∧ Response.decode? response.encode = some response ∧
      stat.Fits ∧ Stat.decode? stat.encode = some stat := by
  intro given response stat
  have decoded : Response.decode? given = some response := rfl
  have fits : stat.Fits :=
    ⟨by decide, by decide, by decide, by decide, by decide, by decide, by decide⟩
  obtain ⟨⟨_, _, responses, stats, _, _⟩, _⟩ := encodings_round_trip
  exact ⟨decoded, responses.decode?_encode_of_decode? decoded, fits, stats.decode?_encode fits⟩

end BatchTree
