import BatchTree.Encoding.Batch

/-!
# Decoders

What the shared decoders accept, and the forms that values are read from.  Numbers
are read within the ranges of their types.  Records and variants are read by the
names of their fields, so nothing but the values of the named fields matters; and a
list of the fields stands for the record.
-/

namespace BatchTree

open Value

/-! ## Ranges -/

/-- Is `number` an integer of 32 bits with a sign? -/
def IsInt32 (number : Int) : Prop :=
  -2147483648 ≤ number ∧ number ≤ 2147483647

/-- Is `number` an integer of 64 bits with a sign? -/
def IsInt64 (number : Int) : Prop :=
  -9223372036854775808 ≤ number ∧ number ≤ 9223372036854775807

/-- Does `number` fit into 64 bits? -/
def IsSize (number : Nat) : Prop :=
  number ≤ 18446744073709551615

instance (number : Int) : Decidable (IsInt32 number) :=
  inferInstanceAs (Decidable (_ ∧ _))

instance (number : Int) : Decidable (IsInt64 number) :=
  inferInstanceAs (Decidable (_ ∧ _))

instance (number : Nat) : Decidable (IsSize number) :=
  inferInstanceAs (Decidable (_ ≤ _))

/-! ## Scalars -/

namespace Value

theorem integerIn?_eq_some_iff {least greatest number : Int} {value : Value} :
    value.integerIn? least greatest = some number ↔
      value = .integer number ∧ least ≤ number ∧ number ≤ greatest := by
  cases value <;> simp only [integerIn?, reduceCtorEq, false_and, Value.integer.injEq]
  rename_i other
  constructor
  · intro decoded
    split at decoded
    · rename_i within
      cases decoded
      exact ⟨rfl, within⟩
    · cases decoded
  · rintro ⟨rfl, within⟩
    rw [if_pos within]

theorem int32?_eq_some_iff {value : Value} {number : Int} :
    value.int32? = some number ↔ value = .integer number ∧ IsInt32 number :=
  integerIn?_eq_some_iff

theorem int64?_eq_some_iff {value : Value} {number : Int} :
    value.int64? = some number ↔ value = .integer number ∧ IsInt64 number :=
  integerIn?_eq_some_iff

theorem size?_eq_some_iff {value : Value} {number : Nat} :
    value.size? = some number ↔ value = .size number ∧ IsSize number := by
  simp only [size?, Option.map_eq_some_iff, integerIn?_eq_some_iff, Value.size, IsSize]
  constructor
  · rintro ⟨integer, ⟨rfl, least, greatest⟩, rfl⟩
    exact ⟨by rw [Int.toNat_of_nonneg least], by omega⟩
  · rintro ⟨rfl, fits⟩
    exact ⟨number, ⟨rfl, by omega, by omega⟩, rfl⟩

theorem text?_eq_some_iff {value : Value} {text : String} :
    value.text? = some text ↔ value = .text text := by
  cases value <;> simp [text?]

@[simp] theorem int32?_integer {number : Int} (fits : IsInt32 number) :
    (Value.integer number).int32? = some number :=
  int32?_eq_some_iff.2 ⟨rfl, fits⟩

@[simp] theorem int64?_integer {number : Int} (fits : IsInt64 number) :
    (Value.integer number).int64? = some number :=
  int64?_eq_some_iff.2 ⟨rfl, fits⟩

@[simp] theorem size?_size {number : Nat} (fits : IsSize number) :
    (Value.size number).size? = some number :=
  size?_eq_some_iff.2 ⟨rfl, fits⟩

@[simp] theorem text?_text (text : String) : (Value.text text).text? = some text := rfl

@[simp] theorem byte?_toNat (byte : UInt8) :
    (Value.integer byte.toNat).byte? = some byte := by
  have fits : (Value.integer byte.toNat).integerIn? 0 255 = some (byte.toNat : Int) :=
    integerIn?_eq_some_iff.2 ⟨rfl, by omega, by have := byte.toNat_lt; omega⟩
  simp [byte?, fits]

/-- What is undone for each item is undone for the list. -/
theorem mapM_map_eq_some {α β : Type} {encode : α → β} {decode? : β → Option α}
    {items : List α} (undone : ∀ item ∈ items, decode? (encode item) = some item) :
    (items.map encode).mapM decode? = some items := by
  induction items with
  | nil => rfl
  | cons first rest ih =>
      rw [List.map_cons, List.mapM_cons, undone first List.mem_cons_self,
        ih fun item later => undone item (List.mem_cons_of_mem _ later)]
      rfl

theorem list?_map {α : Type} {encode : α → Value} {decode? : Value → Option α}
    {items : List α} (undone : ∀ item ∈ items, decode? (encode item) = some item) :
    (Value.list (items.map encode)).list? decode? = some items :=
  mapM_map_eq_some undone

/-- Each item of a decoded list was decoded from something. -/
theorem decoded_of_list? {α : Type} {decode? : Value → Option α} {value : Value}
    {items : List α} (decoded : value.list? decode? = some items) :
    ∀ item ∈ items, ∃ source, decode? source = some item := by
  cases value <;> try cases decoded
  rename_i sources
  simp only [list?] at decoded
  induction sources generalizing items with
  | nil =>
      cases decoded
      simp
  | cons source sources ih =>
      simp only [List.mapM_cons, Option.bind_eq_bind, Option.bind_eq_some_iff, Option.pure_def,
        Option.some.injEq] at decoded
      obtain ⟨first, head, rest, tail, rfl⟩ := decoded
      intro item listed
      rcases List.mem_cons.1 listed with rfl | later
      · exact ⟨source, head⟩
      · exact ih tail item later

/-- Null stands for a missing value, so a decoder must not take it for another. -/
theorem optional?_map {α : Type} {encode : α → Value} {decode? : Value → Option α}
    {item : Option α} (present : ∀ found, encode found ≠ .null)
    (undone : ∀ found ∈ item, decode? (encode found) = some found) :
    (Value.optional (item.map encode)).optional? decode? = some item := by
  cases item with
  | none => rfl
  | some found =>
      have decoded := undone found rfl
      rw [Option.map_some, Value.optional]
      unfold optional?
      split
      · rename_i null
        exact absurd null (present found)
      · rw [decoded, Option.map_some]

theorem decoded_of_optional? {α : Type} {decode? : Value → Option α} {value : Value}
    {item : Option α} (decoded : value.optional? decode? = some item) :
    ∀ found ∈ item, decode? value = some found := by
  rintro found rfl
  unfold optional? at decoded
  split at decoded
  · cases decoded
  · simpa using decoded

/-! ## Records -/

/-- Only the values of the named fields are read. -/
theorem fields?_congr {names : List String} {fields others : List (String × Value)}
    (same : ∀ name ∈ names, fields.lookup name = others.lookup name) :
    (Value.record fields).fields? names = (Value.record others).fields? names :=
  congrArg some (List.map_congr_left same)

/-- Names paired with items are looked up item by item; names without an item have
none. -/
theorem map_lookup_zip {names : List String} {items : List Value} (distinct : names.Nodup)
    (short : items.length ≤ names.length) :
    (names.map fun name => (names.zip items).lookup name) =
      (items.map some).rightpad names.length none := by
  induction names generalizing items with
  | nil =>
      rw [List.length_nil, Nat.le_zero, List.length_eq_zero_iff] at short
      subst short
      rfl
  | cons first names ih =>
      obtain ⟨fresh, distinct⟩ := List.nodup_cons.1 distinct
      cases items with
      | nil => simp [List.rightpad, List.map_const', List.replicate_succ]
      | cons item items =>
          have later : ∀ name ∈ names, ((first :: names).zip (item :: items)).lookup name =
              (names.zip items).lookup name := by
            intro name listed
            have other : (name == first) = false := by
              rw [beq_eq_false_iff_ne]
              rintro rfl
              exact fresh listed
            rw [List.zip_cons_cons, List.lookup_cons, other]
          have rest := ih distinct (Nat.le_of_succ_le_succ short)
          rw [List.map_cons, List.map_congr_left later, rest]
          simp [List.rightpad]

/-- A list of the fields stands for the record. -/
theorem fields?_list {names : List String} {items : List Value} (distinct : names.Nodup)
    (complete : items.length = names.length) :
    (Value.list items).fields? names = (Value.record (names.zip items)).fields? names := by
  simp only [fields?, if_pos complete, map_lookup_zip distinct (Nat.le_of_eq complete)]
  simp [List.rightpad, complete]

/-- The fields that are read have names among those for which the records agree. -/
theorem variantFields?_congr {names known : List String} {fields others : List (String × Value)}
    (same : ∀ name ∈ known, fields.lookup name = others.lookup name) (within : names ⊆ known) :
    (Value.record fields).variantFields? names = (Value.record others).variantFields? names := by
  simp only [variantFields?]
  induction names with
  | nil => rfl
  | cons name names ih =>
      obtain ⟨listed, within⟩ := List.cons_subset.1 within
      rw [List.mapM_cons, List.mapM_cons, same name listed, ih within]

end Value

/-! ## Forms -/

/-- Records of `α` are read by the names of their fields: other fields and the order
do not matter, and a list with one item for each name is as good as the record. -/
structure ReadByName (α : Type) [Encodable α] (names : List String) : Prop where
  record {fields others : List (String × Value)} :
    (∀ name ∈ names, fields.lookup name = others.lookup name) →
    (Encodable.decode? (.record fields) : Option α) = Encodable.decode? (.record others)
  list {items : List Value} : items.length = names.length →
    (Encodable.decode? (.list items) : Option α) = Encodable.decode? (.record (names.zip items))

/-- Variants of `α` that have fields are read by the names of these, and those that
have none are named alone or with a null. -/
structure VariantsByName (α : Type) [Encodable α] (names : List String) : Prop where
  record {variant : String} {fields others : List (String × Value)} :
    (∀ name ∈ names, fields.lookup name = others.lookup name) →
    (Encodable.decode? (.record [(variant, .record fields)]) : Option α) =
      Encodable.decode? (.record [(variant, .record others)])
  null {variant : String} :
    (Encodable.decode? (.record [(variant, .null)]) : Option α) =
      Encodable.decode? (.text variant)

/-- The forms that values are read from beside the one in which they are written. -/
structure OtherForms : Prop where
  operation : VariantsByName Operation ["path", "data", "mode", "version"]
  reply : VariantsByName Reply ["path", "stat", "code"]
  kind : VariantsByName EventKind []
  stat : ReadByName Stat Stat.fieldNames
  event : ReadByName Event Event.fieldNames
  response : ReadByName Response Response.fieldNames
  /-- The two fields of a response that may be null may as well be missing. -/
  missing {name : String} {fields : List (String × Value)} :
    name = "failed_index" ∨ name = "zxid" → fields.lookup name = none →
    Response.decode? (.record ((name, .null) :: fields)) = Response.decode? (.record fields)
  /-- The list form of a configuration may stop early. -/
  configList {items : List Value} : items.length ≤ Config.fieldNames.length →
    Config.decode? (.list items) = Config.decode? (.record (Config.fieldNames.zip items))
  /-- A setting that is missing has its default. -/
  configDefault {presets fields : List (String × Value)} {preset : String × Value} :
    Config.encode {} = .record presets → preset ∈ presets → fields.lookup preset.1 = none →
    Config.decode? (.record (preset :: fields)) = Config.decode? (.record fields)
  /-- There are no other settings. -/
  configUnknown {fields : List (String × Value)} {field : String × Value} :
    field ∈ fields → field.1 ∉ Config.fieldNames → Config.decode? (.record fields) = none

/-- A decoder that looks at nothing but the named fields reads records by name. -/
theorem ReadByName.of_fields? {α : Type} [Encodable α] {names : List String}
    (distinct : names.Nodup)
    (reads : ∀ left right : Value, left.fields? names = right.fields? names →
      (Encodable.decode? left : Option α) = Encodable.decode? right) : ReadByName α names where
  record same := reads _ _ (fields?_congr same)
  list complete := reads _ _ (fields?_list distinct complete)

theorem Stat.readByName : ReadByName Stat Stat.fieldNames :=
  .of_fields? (by decide) fun left right same => by
    show decode? left = decode? right
    rw [decode?, decode?, allFields?, allFields?, same]

theorem Event.readByName : ReadByName Event Event.fieldNames :=
  .of_fields? (by decide) fun left right same => by
    show decode? left = decode? right
    rw [decode?, decode?, allFields?, allFields?, same]

theorem Response.readByName : ReadByName Response Response.fieldNames :=
  .of_fields? (by decide) fun left right same => by
    show decode? left = decode? right
    rw [decode?, decode?, same]

theorem Response.decode?_missing {name : String} {fields : List (String × Value)}
    (optional : name = "failed_index" ∨ name = "zxid") (missing : fields.lookup name = none) :
    decode? (.record ((name, .null) :: fields)) = decode? (.record fields) := by
  -- Neither the outcome nor the replies are called `name`, so both sides read the same ones.
  rcases optional with rfl | rfl <;>
    simp only [decode?, fields?, fieldNames, List.map_cons, List.map_nil, List.lookup_cons,
      missing, String.reduceBEq] <;>
    cases fields.lookup "outcome" <;> cases fields.lookup "results" <;> rfl

theorem Operation.variantsByName :
    VariantsByName Operation ["path", "data", "mode", "version"] where
  null := rfl
  record {variant fields others} same := by
    show decode? _ = decode? _
    have create : decodeCreate? (.record fields) = decodeCreate? (.record others) := by
      rw [decodeCreate?, decodeCreate?, variantFields?_congr same (by simp)]
    have setData : decodeSetData? (.record fields) = decodeSetData? (.record others) := by
      rw [decodeSetData?, decodeSetData?, variantFields?_congr same (by simp)]
    have versioned : ∀ build, decodeVersioned? build (.record fields) =
        decodeVersioned? build (.record others) := by
      intro build
      rw [decodeVersioned?, decodeVersioned?, variantFields?_congr same (by simp)]
    simp only [decode?, variant?]
    split <;> simp_all

theorem Reply.variantsByName : VariantsByName Reply ["path", "stat", "code"] where
  null := rfl
  record {variant fields others} same := by
    show decode? _ = decode? _
    have field {α : Type} (decode? : Value → Option α) (name : String)
        (known : name ∈ ["path", "stat", "code"]) :
        decodeField? name decode? (.record fields) =
          decodeField? name decode? (.record others) := by
      rw [decodeField?, decodeField?, variantFields?_congr same (by simpa using known)]
    simp only [decode?, variant?]
    split <;> simp_all

theorem EventKind.variantsByName : VariantsByName EventKind [] where
  null := rfl
  record _ := rfl

namespace Config

theorem decode?_list {items : List Value} (short : items.length ≤ fieldNames.length) :
    decode? (.list items) = decode? (.record (fieldNames.zip items)) := by
  have known : (fieldNames.zip items).all fun field => fieldNames.contains field.1 := by
    rw [List.all_eq_true]
    intro field listed
    exact List.contains_iff_mem.2 (List.of_mem_zip listed).1
  have distinct : fieldNames.Nodup := by decide
  have same : fields? (.list items) = fields? (.record (fieldNames.zip items)) := by
    simp only [fields?, if_pos short, if_pos known, map_lookup_zip distinct short]
  rw [decode?, decode?, same]

theorem decode?_unknown {fields : List (String × Value)} {field : String × Value}
    (listed : field ∈ fields) (unknown : field.1 ∉ fieldNames) :
    decode? (.record fields) = none := by
  have foreign : ¬ fields.all fun field => fieldNames.contains field.1 := by
    simp only [List.all_eq_true, List.contains_iff_mem]
    exact fun known => unknown (known field listed)
  have unread : fields? (.record fields) = none := if_neg foreign
  rw [decode?, unread]

theorem decode?_default {presets fields : List (String × Value)} {preset : String × Value}
    (all : encode {} = .record presets) (listed : preset ∈ presets)
    (missing : fields.lookup preset.1 = none) :
    decode? (.record (preset :: fields)) = decode? (.record fields) := by
  cases all
  simp only [List.mem_cons, List.not_mem_nil, or_false] at listed
  have named : fieldNames.contains preset.1 := by
    rcases listed with rfl | rfl | rfl | rfl <;> decide
  by_cases known : fields.all fun field => fieldNames.contains field.1
  · have bothKnown : (preset :: fields).all fun field => fieldNames.contains field.1 := by
      rw [List.all_cons, named, known, Bool.true_and]
    have unset {α : Type} (decode? : Value → Option α) (default : α) :
        decodeField? decode? default none = some default := rfl
    have size (default : Nat) (small : default ≤ 1048575) :
        decodeField? size? default (some (.size default)) = some default :=
      size?_size (by unfold IsSize; omega)
    have text (default : String) :
        decodeField? text? default (some (.text default)) = some default := rfl
    simp only [decode?, fields?, if_pos known, if_pos bothKnown]
    -- Given or missing, the field is decoded as its default; the other fields are the same.
    rcases listed with rfl | rfl | rfl | rfl <;>
      simp [fieldNames, List.lookup_cons, missing, unset, size, text, defaultMaxDataLength]
  · have bothUnknown : ¬ (preset :: fields).all fun field => fieldNames.contains field.1 := by
      rwa [List.all_cons, named, Bool.true_and]
    simp only [decode?, fields?, if_neg known, if_neg bothUnknown]

end Config

theorem otherForms : OtherForms where
  operation := Operation.variantsByName
  reply := Reply.variantsByName
  kind := EventKind.variantsByName
  stat := Stat.readByName
  event := Event.readByName
  response := Response.readByName
  missing := Response.decode?_missing
  configList := Config.decode?_list
  configDefault := Config.decode?_default
  configUnknown := Config.decode?_unknown

end BatchTree
