import HostConsole.Proofs.KeyedValues
import HostConsole.Proofs.RecordTypes
import Mathlib.Data.Option.Basic
import Mathlib.Logic.Relation

/-!
# Rearranged records

Wherever a record stands in a value, the fields of its object may come in another order, and the
object may have fields that the record does not know, with any values. The reader of the record
makes the same of it, be it a record or nothing.

## Where records stand

A value can have objects that are no records: dictionaries, free-form values, the object that names
a state. Their keys belong to what is read. So a shape of each record type says where the records
are, and a value is rearranged along it, as often and as deep as one likes.

## Why the reader does not see it

The reader takes the fields that it knows out of an object and looks each of them up by its name. A
name that comes twice is refused. So two objects that are read at all have each known name at most
once, and then the order does not matter. What is found under a name is the same value, or one that
was rearranged along the shape of the field, which the field's own reader does not see either.

## Main definitions

* `Shape`: where the records stand in a value
* `Rearranged`: values that differ in the order of fields and in unknown fields
* `Ignores`: a reader that does not see the difference
* `RecordType.shape`: the shape of a record type

## Main results

* `Ignores.record`: a record is looked up field by field
* `RecordType.ofJson?_eq_of_rearranged`: every record type is read alike from rearranged values
-/

namespace HostConsole

open Json

/-- Where records stand in a value. -/
inductive Shape where
  /-- No record stands in the value. -/
  | plain
  /-- A value that `null` leaves out. -/
  | optional (shape : Shape)
  /-- An array of values. -/
  | list (shape : Shape)
  /-- A record with its fields in their order. -/
  | record (fields : List (String × Shape))

/-- One value is the other one after one change to the object of a record. The order of its fields
is changed, or a field is added that the record does not have. -/
inductive Changed : Shape → Json → Json → Prop where
  /-- The fields of a record come in another order. -/
  | permuted {known : List (String × Shape)} {fields others : List (String × Json)} :
    fields.Perm others → Changed (.record known) (.object fields) (.object others)
  /-- A field that the record does not have is added. -/
  | extended {known : List (String × Shape)} {fields : List (String × Json)} {name : String}
    (value : Json) :
    name ∉ known.map Prod.fst →
      Changed (.record known) (.object fields) (.object ((name, value) :: fields))
  /-- The change is in the value of a field. -/
  | inField {known : List (String × Shape)} {name : String} {shape : Shape} {value other : Json}
    (before after : List (String × Json)) :
    (name, shape) ∈ known → Changed shape value other →
      Changed (.record known) (.object (before ++ (name, value) :: after))
        (.object (before ++ (name, other) :: after))
  /-- The change is at the place of a field, in a record that is an array. -/
  | inPlace {known : List (String × Shape)} {name : String} {shape : Shape} {value other : Json}
    (before after : List Json) :
    known[before.length]? = some (name, shape) → Changed shape value other →
      Changed (.record known) (.array (before ++ value :: after))
        (.array (before ++ other :: after))
  /-- The change is in an item. -/
  | inItem {shape : Shape} {value other : Json} (before after : List Json) :
    Changed shape value other →
      Changed (.list shape) (.array (before ++ value :: after)) (.array (before ++ other :: after))
  /-- The change is in a value that could have been left out. -/
  | inOption {shape : Shape} {value other : Json} :
    Changed shape value other → Changed (.optional shape) value other

/-- The values differ in the order of the fields of their records and in fields that the records do
not have, any number of them anywhere. -/
def Rearranged (shape : Shape) : Json → Json → Prop :=
  Relation.EqvGen (Changed shape)

/-- The reader makes the same of a value after a change. -/
def Ignores {α : Type} (shape : Shape) (reader : Json → Option α) : Prop :=
  ∀ value other, Changed shape value other → reader value = reader other

section

variable {α : Type} {shape : Shape} {reader : Json → Option α} {value other : Json}

/-- What one change does not touch, no number of them does. -/
theorem Ignores.eq_of_rearranged (ignores : Ignores shape reader)
    (h : Rearranged shape value other) : reader value = reader other := by
  induction h with
  | rel value other change => exact ignores value other change
  | refl => rfl
  | symm _ _ _ ih => exact ih.symm
  | trans _ _ _ _ _ ih₁ ih₂ => exact ih₁.trans ih₂

/-! ## Values without fields of their own -/

/-- Where no record stands, there is nothing to change. -/
theorem Ignores.plain : Ignores .plain reader := by
  intro value other change
  cases change

/-- No change makes a `null` or takes one away. -/
theorem Changed.ne_null (change : Changed shape value other) : value ≠ null ∧ other ≠ null := by
  induction change with
  | inOption _ ih => exact ih
  | permuted | extended | inField | inPlace | inItem => simp

theorem optional?_of_ne_null (given : value ≠ null) :
    optional? reader value = (reader value).map some := by
  rw [optional?]
  exact given

theorem Ignores.optional (ignores : Ignores shape reader) :
    Ignores (.optional shape) (optional? reader) := by
  intro value other change
  cases change with
  | inOption change =>
    obtain ⟨given, otherGiven⟩ := change.ne_null
    rw [optional?_of_ne_null given, optional?_of_ne_null otherGiven, ignores _ _ change]

theorem Ignores.list (ignores : Ignores shape reader) :
    Ignores (.list shape) (list? reader) := by
  intro value other change
  cases change with
  | inItem before after change =>
    simp only [list?, List.mapM_append, List.mapM_cons, ignores _ _ change]

end

/-! ## Records -/

section

variable {α : Type} {known : List (String × Shape)} {fields others : List (String × Json)}

/-- Under the name of each known field the same is found, but for rearranging. -/
def FieldsAgree (known : List (String × Shape)) (fields others : List (String × Json)) : Prop :=
  ∀ field ∈ known,
    Option.Rel (Rearranged field.2) (fields.lookup field.1) (others.lookup field.1)

theorem fieldsAgree_of_lookup_eq (h : ∀ name, fields.lookup name = others.lookup name) :
    FieldsAgree known fields others := by
  intro field _
  rw [h]
  cases others.lookup field.1 with
  | none => exact .none
  | some value => exact .some (.refl value)

/-- One value is changed, and it stands under the name of its field. -/
theorem fieldsAgree_of_changed {name : String} {shape : Shape} {value other : Json}
    (distinct : (known.map Prod.fst).Nodup) (mem : (name, shape) ∈ known)
    (change : Changed shape value other) (before after : List (String × Json)) :
    FieldsAgree known (before ++ (name, value) :: after) (before ++ (name, other) :: after) := by
  intro field fieldMem
  obtain ⟨fieldName, fieldShape⟩ := field
  simp only [List.lookup_append, List.lookup_cons]
  cases before.lookup fieldName with
  | some found => exact .some (.refl found)
  | none =>
    by_cases same : fieldName = name
    · subst same
      have shapes : fieldShape = shape := by
        have found := (lookup_eq_some_iff_mem distinct).mpr fieldMem
        rw [(lookup_eq_some_iff_mem distinct).mpr mem] at found
        exact (Option.some.inj found).symm
      subst shapes
      simpa using Option.Rel.some (.rel _ _ change)
    · rw [beq_false_of_ne same]
      cases after.lookup fieldName with
      | none => exact .none
      | some found => exact .some (.refl found)

/-- Fields of the same names are refused alike, for a name that comes twice. -/
theorem rel_of_names (names : (fields.map Prod.fst).Perm (others.map Prod.fst))
    (agree : (fields.map Prod.fst).Nodup → FieldsAgree known fields others) :
    Option.Rel (FieldsAgree known) (if (fields.map Prod.fst).Nodup then some fields else none)
      (if (others.map Prod.fst).Nodup then some others else none) := by
  by_cases once : (fields.map Prod.fst).Nodup
  · rw [if_pos once, if_pos (names.nodup_iff.mp once)]
    exact .some (agree once)
  · rw [if_neg once, if_neg (mt names.nodup_iff.mpr once)]
    exact .none

/-- The fields that the reader of a record sees agree after a change, or it sees none before and
after. -/
theorem fields?_of_changed {value other : Json} (distinct : (known.map Prod.fst).Nodup)
    (change : Changed (.record known) value other) :
    Option.Rel (FieldsAgree known) (fields? (known.map Prod.fst) value)
      (fields? (known.map Prod.fst) other) := by
  cases change with
  | permuted perm =>
    have seen := perm.filter fun field => (known.map Prod.fst).contains field.1
    exact rel_of_names (seen.map Prod.fst) fun once =>
      fieldsAgree_of_lookup_eq (lookup_eq_of_perm seen once)
  | extended content unknown =>
    simp only [fields?]
    rw [List.filter_cons_of_neg (by simpa using unknown)]
    exact rel_of_names (.refl _) fun _ => fieldsAgree_of_lookup_eq fun _ => rfl
  | @inField _ name shape _ _ before after mem change =>
    have seen : name ∈ known.map Prod.fst := List.mem_map.mpr ⟨_, mem, rfl⟩
    simp only [fields?, List.filter_append]
    rw [List.filter_cons_of_pos (by simpa using seen), List.filter_cons_of_pos (by simpa using seen)]
    exact rel_of_names (by simp) fun _ => fieldsAgree_of_changed distinct mem change _ _
  | @inPlace _ name shape content changed before after place change =>
    -- The names are split at the place, so that the changed value stands among the pairs as it
    -- stands among the items.
    obtain ⟨inside, here⟩ := List.getElem?_eq_some_iff.mp place
    have split := List.take_append_drop before.length known
    rw [List.drop_eq_getElem_cons inside, here] at split
    have reaches : ((known.take before.length).map Prod.fst).length = before.length := by
      simp
      omega
    have paired (item : Json) : (known.map Prod.fst).zip (before ++ item :: after) =
        ((known.take before.length).map Prod.fst).zip before ++
          (name, item) :: ((known.drop (before.length + 1)).map Prod.fst).zip after := by
      conv_lhs => rw [← split]
      rw [List.map_append, List.map_cons, List.zip_append reaches, List.zip_cons_cons]
    simp only [fields?, List.length_append, List.length_cons, paired]
    by_cases fits : before.length + (after.length + 1) ≤ (known.map Prod.fst).length
    · rw [if_pos fits, if_pos fits]
      exact .some (fieldsAgree_of_changed distinct (List.mem_of_getElem? place) change _ _)
    · rw [if_neg fits, if_neg fits]
      exact .none

/-- **A record is looked up field by field.** What is read out of fields that agree is the same, so
the record ignores all changes. -/
theorem Ignores.record {read : List (String × Json) → Option α}
    (distinct : (known.map Prod.fst).Nodup)
    (congr : ∀ fields others, FieldsAgree known fields others → read fields = read others) :
    Ignores (.record known) fun value => fields? (known.map Prod.fst) value >>= read := by
  intro value other change
  have seen := fields?_of_changed distinct change
  revert seen
  dsimp only
  generalize fields? (known.map Prod.fst) value = fields
  generalize fields? (known.map Prod.fst) other = others
  rintro (agree | none)
  · exact congr _ _ agree
  · rfl

variable {name : String} {shape : Shape} {reader : Json → Option α}

/-- A field that has to be there is missing in both, or it is read alike. -/
theorem FieldsAgree.required (agree : FieldsAgree known fields others)
    (ignores : Ignores shape reader) (mem : (name, shape) ∈ known) :
    required fields name reader = required others name reader := by
  have found := agree (name, shape) mem
  revert found
  unfold Json.required
  generalize fields.lookup name = value
  generalize others.lookup name = other
  rintro (same | none)
  · exact ignores.eq_of_rearranged same
  · rfl

/-- A field that may be missing is missing in both, or it is read alike. -/
theorem FieldsAgree.orDefault {absent : α} (agree : FieldsAgree known fields others)
    (ignores : Ignores shape reader) (mem : (name, shape) ∈ known) :
    orDefault fields name absent reader = orDefault others name absent reader := by
  have found := agree (name, shape) mem
  revert found
  unfold Json.orDefault
  generalize fields.lookup name = value
  generalize others.lookup name = other
  rintro (same | none)
  · exact ignores.eq_of_rearranged same
  · rfl

end

/-! ## Record types

The fields of each record are read in the order in which its shape has them. -/

/-- The shape of a reference. -/
def NamedRef.shape : Shape := .record [("id", .plain), ("name", .plain)]

theorem NamedRef.ignores : Ignores shape ofJson? :=
  .record (RecordType.nodup_fieldNames .namedRef) fun fields others agree => by
    rw [agree.orDefault .plain (by simp), agree.required .plain (by simp)]

/-- The shape of an environment. -/
def Environment.shape : Shape := .record [("id", .plain), ("name", .plain), ("library", .plain)]

theorem Environment.ignores : Ignores shape ofJson? :=
  .record (RecordType.nodup_fieldNames .environment) fun fields others agree => by
    iterate 2 rw [agree.required .plain (by simp)]
    rw [agree.orDefault .plain (by simp)]

/-- The shape of a group. -/
def SystemGroup.shape : Shape := .record [("id", .plain), ("name", .plain)]

theorem SystemGroup.ignores : Ignores shape ofJson? :=
  .record (RecordType.nodup_fieldNames .systemGroup) fun fields others agree => by
    iterate 2 rw [agree.required .plain (by simp)]

/-- The shape of a machine. The facts are a dictionary of free-form values. -/
def Machine.shape : Shape := .record [("id", .plain), ("uuid", .plain), ("name", .plain),
  ("description", .plain), ("location", .plain), ("ipv4_address", .plain),
  ("serviceLevel", .plain), ("releaseVer", .plain), ("created_at", .plain), ("updated_at", .plain),
  ("environment", .optional NamedRef.shape), ("activation_key", .list NamedRef.shape),
  ("host", .optional NamedRef.shape), ("guests", .list NamedRef.shape),
  ("template", .optional NamedRef.shape), ("facts", .plain)]

theorem Machine.ignores : Ignores shape ofJson? :=
  .record (RecordType.nodup_fieldNames .machine) fun fields others agree => by
    dsimp only
    iterate 10 rw [agree.orDefault .plain (by simp)]
    rw [agree.orDefault NamedRef.ignores.optional (by simp),
      agree.orDefault NamedRef.ignores.list (by simp),
      agree.orDefault NamedRef.ignores.optional (by simp),
      agree.orDefault NamedRef.ignores.list (by simp),
      agree.orDefault NamedRef.ignores.optional (by simp), agree.orDefault .plain (by simp)]

/-- The shape of a package. -/
def Package.shape : Shape := .record [("name", .plain), ("vendor", .plain), ("version", .plain),
  ("release", .plain), ("arch", .plain)]

theorem Package.ignores : Ignores shape ofJson? :=
  .record (RecordType.nodup_fieldNames .package) fun fields others agree => by
    rw [agree.required .plain (by simp), agree.orDefault .plain (by simp)]
    iterate 3 rw [agree.required .plain (by simp)]

/-- The shape of releases. -/
def Releases.shape : Shape := .record [("releases", .plain)]

theorem Releases.ignores : Ignores shape ofJson? :=
  .record (RecordType.nodup_fieldNames .releases) fun fields others agree => by
    rw [agree.orDefault .plain (by simp)]

/-- The shape of a task. Its state is no record: the object that can name it has the name for its
key, and no fields. -/
def Task.shape : Shape := .record [("uuid", .plain), ("state", .plain),
  ("result_description", .plain), ("description", .plain), ("system_name", .plain),
  ("created_at", .plain), ("finish_time", .plain)]

theorem Task.ignores : Ignores shape ofJson? :=
  .record (RecordType.nodup_fieldNames .task) fun fields others agree => by
    dsimp only
    iterate 2 rw [agree.required .plain (by simp)]
    iterate 5 rw [agree.orDefault .plain (by simp)]

/-- The shape of a serial; its number is a free-form value. -/
def Serial.shape : Shape := .record [("id", .plain)]

theorem Serial.ignores : Ignores shape ofJson? :=
  .record (RecordType.nodup_fieldNames .serial) fun fields others agree => by
    rw [agree.required .plain (by simp)]

/-- The shape of an entitlement. -/
def Entitlement.shape : Shape := .record [("entitlementId", .plain),
  ("serials", .list Serial.shape), ("poolName", .plain), ("expires", .plain),
  ("consumed", .plain), ("quantity", .plain), ("sla", .plain), ("contractNumber", .plain),
  ("providedProducts", .list NamedRef.shape)]

theorem Entitlement.ignores : Ignores shape ofJson? :=
  .record (RecordType.nodup_fieldNames .entitlement) fun fields others agree => by
    dsimp only
    rw [agree.orDefault .plain (by simp), agree.orDefault Serial.ignores.list (by simp)]
    iterate 6 rw [agree.orDefault .plain (by simp)]
    rw [agree.orDefault NamedRef.ignores.list (by simp)]

/-- The shape of subscriptions. -/
def Subscriptions.shape : Shape := .record [("entitlements", .list Entitlement.shape)]

theorem Subscriptions.ignores : Ignores shape ofJson? :=
  .record (RecordType.nodup_fieldNames .subscriptions) fun fields others agree => by
    rw [agree.orDefault Entitlement.ignores.list (by simp)]

/-- The shape of a provided product. -/
def ProvidedProduct.shape : Shape := .record [("productName", .plain)]

theorem ProvidedProduct.ignores : Ignores shape ofJson? :=
  .record (RecordType.nodup_fieldNames .providedProduct) fun fields others agree => by
    rw [agree.required .plain (by simp)]

/-- The shape of an attribute; its value is a free-form one. -/
def ProductAttribute.shape : Shape := .record [("name", .plain), ("value", .plain)]

theorem ProductAttribute.ignores : Ignores shape ofJson? :=
  .record (RecordType.nodup_fieldNames .productAttribute) fun fields others agree => by
    iterate 2 rw [agree.required .plain (by simp)]

/-- The shape of a pool. The number of sockets is a free-form value. -/
def Pool.shape : Shape := .record [("id", .plain), ("productName", .plain), ("endDate", .plain),
  ("consumed", .plain), ("quantity", .plain), ("sockets", .plain),
  ("providedProducts", .list ProvidedProduct.shape),
  ("productAttributes", .list ProductAttribute.shape)]

theorem Pool.ignores : Ignores shape ofJson? :=
  .record (RecordType.nodup_fieldNames .pool) fun fields others agree => by
    iterate 6 rw [agree.orDefault .plain (by simp)]
    rw [agree.orDefault ProvidedProduct.ignores.list (by simp),
      agree.orDefault ProductAttribute.ignores.list (by simp)]

/-- The shape of pools. -/
def Pools.shape : Shape := .record [("pools", .list Pool.shape)]

theorem Pools.ignores : Ignores shape ofJson? :=
  .record (RecordType.nodup_fieldNames .pools) fun fields others agree => by
    rw [agree.orDefault Pool.ignores.list (by simp)]

/-! ## All records -/

namespace RecordType

/-- The shape of a record type. Two of them have no fields: attached texts are a dictionary, and a
state is a name. -/
def shape : RecordType → Shape
  | namedRef => NamedRef.shape
  | environment => Environment.shape
  | systemGroup => SystemGroup.shape
  | machine => Machine.shape
  | customInfo => .plain
  | package => Package.shape
  | releases => Releases.shape
  | taskState => .plain
  | task => Task.shape
  | serial => Serial.shape
  | entitlement => Entitlement.shape
  | subscriptions => Subscriptions.shape
  | providedProduct => ProvidedProduct.shape
  | productAttribute => ProductAttribute.shape
  | pool => Pool.shape
  | pools => Pools.shape

theorem ignores : (type : RecordType) → Ignores type.shape type.ofJson?
  | namedRef => NamedRef.ignores
  | environment => Environment.ignores
  | systemGroup => SystemGroup.ignores
  | machine => Machine.ignores
  | customInfo => .plain
  | package => Package.ignores
  | releases => Releases.ignores
  | taskState => .plain
  | task => Task.ignores
  | serial => Serial.ignores
  | entitlement => Entitlement.ignores
  | subscriptions => Subscriptions.ignores
  | providedProduct => ProvidedProduct.ignores
  | productAttribute => ProductAttribute.ignores
  | pool => Pool.ignores
  | pools => Pools.ignores

/-- **Every record type is read alike from rearranged values**, as the same record or as none. -/
theorem ofJson?_eq_of_rearranged (type : RecordType) (value other : Json)
    (h : Rearranged type.shape value other) : type.ofJson? value = type.ofJson? other :=
  type.ignores.eq_of_rearranged h

/-- A machine in an environment and with a guest. The environment comes in another order, and the
guest with a field whose value is a defect. -/
theorem ofJson?_eq_of_rearranged_machine :
    Rearranged RecordType.machine.shape
        (.object [("environment", .object [("id", ofNat 3), ("name", .string "Dev")]),
          ("guests", .array [.object [("name", .string "db")]])])
        (.object [("environment", .object [("name", .string "Dev"), ("id", ofNat 3)]),
          ("guests", .array [.object [("host", .defect), ("name", .string "db")]])]) ∧
      RecordType.machine.ofJson?
        (.object [("environment", .object [("name", .string "Dev"), ("id", ofNat 3)]),
          ("guests", .array [.object [("host", .defect), ("name", .string "db")]])]) =
        some ({ environment := some ⟨some 3, "Dev"⟩, guests := [⟨none, "db"⟩] } : Machine) := by
  have rearranged : Rearranged RecordType.machine.shape
      (.object [("environment", .object [("id", ofNat 3), ("name", .string "Dev")]),
        ("guests", .array [.object [("name", .string "db")]])])
      (.object [("environment", .object [("name", .string "Dev"), ("id", ofNat 3)]),
        ("guests", .array [.object [("host", .defect), ("name", .string "db")]])]) := by
    apply Relation.EqvGen.trans
    · exact .rel _ _ (.inField [] _
        (show ("environment", .optional NamedRef.shape) ∈ _ by simp) (.inOption (.permuted (.swap _ _ _))))
    · exact .rel _ _ (.inField [_] []
        (show ("guests", .list NamedRef.shape) ∈ _ by simp) (.inItem [] [] (.extended .defect (by simp))))
  exact ⟨rearranged, (ofJson?_eq_of_rearranged _ _ _ rearranged).symm.trans (by rfl)⟩

end RecordType

end HostConsole
