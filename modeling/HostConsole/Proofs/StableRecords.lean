import HostConsole.Proofs.KeyedValues
import HostConsole.Proofs.RecordTypes

/-!
# Records are stable

What the reader of a record type reads, it reads again, and as the same record, from what the
writer makes of it. The value that was read first need not be the one that is written: it may leave
out fields, give them as `null` or by their places, have other fields and repeat keys. The record
says no more of all this, and the writer gives every field.

## Why the record is the same

Each field goes through a reader and a writer of its own that are stable, and so does the value
that stands for its absence. Two kinds of values are not kept as they come. A dictionary is kept in
the order of its keys, and an ordered dictionary is the dictionary of its own pairs. A free-form
value is kept in normal form, all the way down.

An optional field is written as `null` when it is left out. So no value of such a field may be
written as `null`: a free-form value would be, had it not been left out itself.

## Main definitions

* `Json.Stable`: what the reader reads, it reads again from what the writer makes of it

## Main results

* `Json.normal?_idem`: a value in normal form is its own normal form
* `Json.Stable.record`: a record is stable if its fields are
* `RecordType.ofJson?_toJson_of_eq_some`: the reader and the writer of every record type are stable
-/

namespace HostConsole

namespace Json

variable {α : Type} {reader : Json → Option α} {writer : α → Json}

/-- Whatever the reader reads, it reads again from what the writer makes of it. -/
def Stable (reader : Json → Option α) (writer : α → Json) : Prop :=
  ∀ value result, reader value = some result → reader (writer result) = some result

/-! ## Texts and numbers -/

theorem stable_text : Stable text? string :=
  fun _ s _ => text?_string s

theorem stable_flag : Stable flag? bool :=
  fun _ b _ => flag?_bool b

theorem stable_natural : Stable natural? ofNat := by
  intro value n h
  unfold natural? at h
  split at h
  · next m =>
    obtain ⟨bounds, same⟩ := Option.ite_none_right_eq_some.mp h
    obtain rfl := Option.some.inj same
    exact natural?_ofNat (by omega)
  · cases h

theorem stable_integer : Stable integer? ofInt := by
  intro value n h
  unfold integer? at h
  split at h
  · next m =>
    obtain ⟨fits, same⟩ := Option.ite_none_right_eq_some.mp h
    obtain rfl := Option.some.inj same
    exact if_pos fits
  · cases h

/-! ## Free-form values -/

/-- Fields whose values are in normal form are so themselves. -/
theorem normalFields?_of_forall {fields : List (String × Json)}
    (normal : ∀ field ∈ fields, normal? field.2 = some field.2) :
    normalFields? fields = some fields := by
  induction fields with
  | nil => rfl
  | cons field fields ih =>
    obtain ⟨first, rest⟩ := List.forall_mem_cons.mp normal
    simp [normalFields?, first, ih rest]

mutual

/-- **A value in normal form is its own normal form.** -/
theorem normal?_idem : ∀ {value normal : Json}, normal? value = some normal →
    normal? normal = some normal
  | .null, _, h | .bool _, _, h | .number _, _, h | .string _, _, h => by
    obtain rfl := Option.some.inj h
    rfl
  | .array items, _, h => by
    obtain ⟨normals, read, rfl⟩ := Option.map_eq_some_iff.mp h
    simp [normal?, normalItems?_idem read]
  | .object fields, _, h => by
    obtain ⟨pairs, read, rfl⟩ := Option.map_eq_some_iff.mp h
    have normal : normalFields? (Dictionary.ofList pairs) = some (Dictionary.ofList pairs) :=
      normalFields?_of_forall fun pair mem =>
        normal?_of_mem_normalFields? read pair (Dictionary.mem_of_mem_ofList mem)
    simp [normal?, normal, Dictionary.ofList_of_isOrdered (Dictionary.isOrdered_ofList pairs)]

theorem normalItems?_idem : ∀ {items normals : List Json}, normalItems? items = some normals →
    normalItems? normals = some normals
  | [], _, h => by
    obtain rfl := Option.some.inj h
    rfl
  | item :: items, _, h => by
    simp only [normalItems?, Option.bind_eq_bind, Option.bind_eq_some_iff, Option.pure_def,
      Option.some.injEq] at h
    obtain ⟨normal, first, normals, rest, rfl⟩ := h
    simp [normalItems?, normal?_idem first, normalItems?_idem rest]

theorem normal?_of_mem_normalFields? : ∀ {fields pairs : List (String × Json)},
    normalFields? fields = some pairs → ∀ pair ∈ pairs, normal? pair.2 = some pair.2
  | [], _, h => by
    obtain rfl := Option.some.inj h
    simp
  | (key, value) :: fields, _, h => by
    simp only [normalFields?, Option.bind_eq_bind, Option.bind_eq_some_iff, Option.pure_def,
      Option.some.injEq] at h
    obtain ⟨normal, first, pairs, rest, rfl⟩ := h
    intro pair mem
    rcases List.mem_cons.mp mem with rfl | mem
    · exact normal?_idem first
    · exact normal?_of_mem_normalFields? rest pair mem

end

theorem stable_normal : Stable normal? fun value => value :=
  fun _ _ h => normal?_idem h

theorem normal?_eq_some_null {value : Json} (h : normal? value = some null) : value = null := by
  cases value <;> simp_all [normal?]

/-! ## Values made of values -/

/-- What a reader makes of some values comes from one of them each. -/
theorem exists_of_mem_mapM {β γ : Type} {read : β → Option γ} {values : List β}
    {results : List γ} (h : values.mapM read = some results) :
    ∀ result ∈ results, ∃ value ∈ values, read value = some result := by
  induction values generalizing results with
  | nil =>
    obtain rfl := Option.some.inj h
    simp
  | cons value values ih =>
    simp only [List.mapM_cons, Option.bind_eq_bind, Option.bind_eq_some_iff, Option.pure_def,
      Option.some.injEq] at h
    obtain ⟨first, readFirst, rest, readRest, rfl⟩ := h
    intro result mem
    rcases List.mem_cons.mp mem with rfl | mem
    · exact ⟨value, List.mem_cons_self, readFirst⟩
    · obtain ⟨other, otherMem, read⟩ := ih readRest result mem
      exact ⟨other, List.mem_cons_of_mem _ otherMem, read⟩

/-- A dictionary in order is read back when each of its values is. -/
theorem dictionary?_ofDictionary {entries : Dictionary α} (ordered : entries.IsOrdered)
    (h : ∀ entry ∈ entries, reader (writer entry.2) = some entry.2) :
    dictionary? reader (ofDictionary writer entries) = some entries := by
  have each : (entries.map fun entry => (entry.1, writer entry.2)).mapM
      (fun field => (reader field.2).map fun value => (field.1, value)) = some entries := by
    clear ordered
    induction entries with
    | nil => rfl
    | cons entry entries ih => simp_all
  change (List.mapM _ _ >>= fun pairs => some (Dictionary.ofList pairs)) = _
  rw [each]
  exact congrArg some (Dictionary.ofList_of_isOrdered ordered)

/-- What may be left out is stable where `null` is written for nothing else. -/
theorem Stable.optional (stable : Stable reader writer)
    (visible : ∀ value result, reader value = some result → writer result = null → value = null) :
    Stable (optional? reader) (ofOption writer) := by
  intro value result h
  cases result with
  | none => rfl
  | some result =>
    have given : value ≠ null := by
      rintro rfl
      cases h
    rw [optional?] at h
    · obtain ⟨_, read, same⟩ := Option.map_eq_some_iff.mp h
      obtain rfl := Option.some.inj same
      change optional? reader (writer _) = _
      rw [optional?]
      · rw [stable value _ read]
        rfl
      · exact fun hidden => given (visible value _ read hidden)
    · exact given

theorem Stable.list (stable : Stable reader writer) : Stable (list? reader) (ofList writer) := by
  intro value results h
  unfold list? at h
  split at h
  · next items =>
    apply list?_ofList
    intro result mem
    obtain ⟨item, -, read⟩ := exists_of_mem_mapM h result mem
    exact stable item result read
  · cases h

theorem Stable.dictionary (stable : Stable reader writer) :
    Stable (dictionary? reader) (ofDictionary writer) := by
  intro value entries h
  unfold dictionary? at h
  split at h
  · next fields =>
    obtain ⟨pairs, readAll, same⟩ := Option.bind_eq_some_iff.mp h
    obtain rfl := Option.some.inj same
    apply dictionary?_ofDictionary (Dictionary.isOrdered_ofList pairs)
    intro entry mem
    obtain ⟨⟨key, value⟩, -, keyed⟩ :=
      exists_of_mem_mapM readAll entry (Dictionary.mem_of_mem_ofList mem)
    obtain ⟨result, read, rfl⟩ := Option.map_eq_some_iff.mp keyed
    exact stable value result read
  · cases h

/-! ## Fields of records -/

section

variable {fields written : List (String × Json)} {name : String} {result : α}

/-- A field that has to be there is read back where it was written. -/
theorem Stable.required (stable : Stable reader writer)
    (h : required fields name reader = some result)
    (here : written.lookup name = some (writer result)) :
    required written name reader = some result := by
  obtain ⟨value, -, read⟩ := Option.bind_eq_some_iff.mp h
  unfold Json.required
  rw [here]
  exact stable value result read

/-- A field that may be missing is read back where it was written, provided that so is the value
for its absence. -/
theorem Stable.orDefault {absent : α} (stable : Stable reader writer)
    (h : orDefault fields name absent reader = some result)
    (restores : reader (writer absent) = some absent)
    (here : written.lookup name = some (writer result)) :
    orDefault written name absent reader = some result := by
  unfold Json.orDefault at h ⊢
  rw [here]
  split at h
  · obtain rfl := Option.some.inj h
    exact restores
  · next value _ => exact stable value result h

/-- **A record is stable if its fields are.** An object with the fields of a record, in their order
and no others, gives them all to what reads the fields. -/
theorem Stable.record {names : List String} {read : List (String × Json) → Option α}
    {write : α → List (String × Json)} (distinct : names.Nodup)
    (all : ∀ result, (write result).map Prod.fst = names)
    (restores : ∀ fields result, read fields = some result → read (write result) = some result) :
    Stable (fun value => fields? names value >>= read) fun result => object (write result) := by
  intro value result h
  obtain ⟨fields, -, h⟩ := Option.bind_eq_some_iff.mp h
  have known : (write result).filter (fun field => names.contains field.1) = write result := by
    rw [List.filter_eq_self, ← all result]
    intro field mem
    simpa using ⟨field.2, mem⟩
  simp only [fields?]
  rw [known, all result, if_pos distinct]
  exact restores fields result h

end

theorem stable_optionalText : Stable (optional? text?) (ofOption string) :=
  stable_text.optional fun _ _ _ hidden => nomatch hidden

theorem stable_optionalNatural : Stable (optional? natural?) (ofOption ofNat) :=
  stable_natural.optional fun _ _ _ hidden => nomatch hidden

theorem stable_optionalInteger : Stable (optional? integer?) (ofOption ofInt) :=
  stable_integer.optional fun _ _ _ hidden => nomatch hidden

theorem stable_optionalNormal : Stable (optional? normal?) (ofOption fun value => value) :=
  stable_normal.optional fun _ _ read hidden => normal?_eq_some_null (hidden ▸ read)

end Json

open Json

/-! ## Records

A record that was read is taken apart in the order in which its fields were read. Each field is
then read back where it was written. -/

theorem NamedRef.stable : Stable ofJson? toJson :=
  .record (RecordType.nodup_fieldNames .namedRef) (fun _ => rfl) fun fields r h => by
    obtain ⟨id, readId, h⟩ := Option.bind_eq_some_iff.mp h
    obtain ⟨name, readName, h⟩ := Option.bind_eq_some_iff.mp h
    obtain rfl := Option.some.inj h
    dsimp only
    rw [stable_optionalNatural.orDefault readId rfl (by rfl), stable_text.required readName (by rfl)]
    rfl

theorem NamedRef.stable_optional : Stable (optional? ofJson?) (ofOption toJson) :=
  stable.optional fun _ _ _ hidden => nomatch hidden

theorem Environment.stable : Stable ofJson? toJson :=
  .record (RecordType.nodup_fieldNames .environment) (fun _ => rfl) fun fields e h => by
    obtain ⟨id, readId, h⟩ := Option.bind_eq_some_iff.mp h
    obtain ⟨name, readName, h⟩ := Option.bind_eq_some_iff.mp h
    obtain ⟨library, readLibrary, h⟩ := Option.bind_eq_some_iff.mp h
    obtain rfl := Option.some.inj h
    dsimp only
    rw [stable_natural.required readId (by rfl), stable_text.required readName (by rfl),
      stable_flag.orDefault readLibrary rfl (by rfl)]
    rfl

theorem SystemGroup.stable : Stable ofJson? toJson :=
  .record (RecordType.nodup_fieldNames .systemGroup) (fun _ => rfl) fun fields g h => by
    obtain ⟨id, readId, h⟩ := Option.bind_eq_some_iff.mp h
    obtain ⟨name, readName, h⟩ := Option.bind_eq_some_iff.mp h
    obtain rfl := Option.some.inj h
    dsimp only
    rw [stable_natural.required readId (by rfl), stable_text.required readName (by rfl)]
    rfl

theorem Machine.stable : Stable ofJson? toJson :=
  .record (RecordType.nodup_fieldNames .machine) (fun _ => rfl) fun fields s h => by
    obtain ⟨id, readId, h⟩ := Option.bind_eq_some_iff.mp h
    obtain ⟨uuid, readUuid, h⟩ := Option.bind_eq_some_iff.mp h
    obtain ⟨name, readName, h⟩ := Option.bind_eq_some_iff.mp h
    obtain ⟨description, readDescription, h⟩ := Option.bind_eq_some_iff.mp h
    obtain ⟨location, readLocation, h⟩ := Option.bind_eq_some_iff.mp h
    obtain ⟨address, readAddress, h⟩ := Option.bind_eq_some_iff.mp h
    obtain ⟨level, readLevel, h⟩ := Option.bind_eq_some_iff.mp h
    obtain ⟨release, readRelease, h⟩ := Option.bind_eq_some_iff.mp h
    obtain ⟨created, readCreated, h⟩ := Option.bind_eq_some_iff.mp h
    obtain ⟨updated, readUpdated, h⟩ := Option.bind_eq_some_iff.mp h
    obtain ⟨environment, readEnvironment, h⟩ := Option.bind_eq_some_iff.mp h
    obtain ⟨keys, readKeys, h⟩ := Option.bind_eq_some_iff.mp h
    obtain ⟨host, readHost, h⟩ := Option.bind_eq_some_iff.mp h
    obtain ⟨guests, readGuests, h⟩ := Option.bind_eq_some_iff.mp h
    obtain ⟨template, readTemplate, h⟩ := Option.bind_eq_some_iff.mp h
    obtain ⟨facts, readFacts, h⟩ := Option.bind_eq_some_iff.mp h
    obtain rfl := Option.some.inj h
    dsimp only
    rw [stable_optionalNatural.orDefault readId rfl (by rfl),
      stable_text.orDefault readUuid rfl (by rfl), stable_text.orDefault readName rfl (by rfl),
      stable_optionalText.orDefault readDescription rfl (by rfl),
      stable_optionalText.orDefault readLocation rfl (by rfl),
      stable_optionalText.orDefault readAddress rfl (by rfl),
      stable_optionalText.orDefault readLevel rfl (by rfl),
      stable_optionalText.orDefault readRelease rfl (by rfl),
      stable_optionalText.orDefault readCreated rfl (by rfl),
      stable_optionalText.orDefault readUpdated rfl (by rfl),
      NamedRef.stable_optional.orDefault readEnvironment rfl (by rfl),
      NamedRef.stable.list.orDefault readKeys rfl (by rfl),
      NamedRef.stable_optional.orDefault readHost rfl (by rfl),
      NamedRef.stable.list.orDefault readGuests rfl (by rfl),
      NamedRef.stable_optional.orDefault readTemplate rfl (by rfl),
      stable_normal.dictionary.orDefault readFacts rfl (by rfl)]
    rfl

theorem Package.stable : Stable ofJson? toJson :=
  .record (RecordType.nodup_fieldNames .package) (fun _ => rfl) fun fields p h => by
    obtain ⟨name, readName, h⟩ := Option.bind_eq_some_iff.mp h
    obtain ⟨vendor, readVendor, h⟩ := Option.bind_eq_some_iff.mp h
    obtain ⟨version, readVersion, h⟩ := Option.bind_eq_some_iff.mp h
    obtain ⟨release, readRelease, h⟩ := Option.bind_eq_some_iff.mp h
    obtain ⟨arch, readArch, h⟩ := Option.bind_eq_some_iff.mp h
    obtain rfl := Option.some.inj h
    dsimp only
    rw [stable_text.required readName (by rfl), stable_text.orDefault readVendor rfl (by rfl),
      stable_text.required readVersion (by rfl), stable_text.required readRelease (by rfl),
      stable_text.required readArch (by rfl)]
    rfl

theorem Releases.stable : Stable ofJson? toJson :=
  .record (RecordType.nodup_fieldNames .releases) (fun _ => rfl) fun fields r h => by
    obtain ⟨releases, readReleases, h⟩ := Option.bind_eq_some_iff.mp h
    obtain rfl := Option.some.inj h
    dsimp only
    rw [stable_text.list.orDefault readReleases rfl (by rfl)]
    rfl

/-- A state is read back whatever name it was read from: it is written under its first name. -/
theorem TaskState.stable : Stable ofJson? toJson :=
  fun _ state _ => ofJson?_toJson state

theorem Task.stable : Stable ofJson? toJson :=
  .record (RecordType.nodup_fieldNames .task) (fun _ => rfl) fun fields t h => by
    obtain ⟨uuid, readUuid, h⟩ := Option.bind_eq_some_iff.mp h
    obtain ⟨state, readState, h⟩ := Option.bind_eq_some_iff.mp h
    obtain ⟨result, readResult, h⟩ := Option.bind_eq_some_iff.mp h
    obtain ⟨description, readDescription, h⟩ := Option.bind_eq_some_iff.mp h
    obtain ⟨system, readSystem, h⟩ := Option.bind_eq_some_iff.mp h
    obtain ⟨created, readCreated, h⟩ := Option.bind_eq_some_iff.mp h
    obtain ⟨finish, readFinish, h⟩ := Option.bind_eq_some_iff.mp h
    obtain rfl := Option.some.inj h
    dsimp only
    rw [stable_text.required readUuid (by rfl), TaskState.stable.required readState (by rfl),
      stable_text.orDefault readResult rfl (by rfl),
      stable_optionalText.orDefault readDescription rfl (by rfl),
      stable_optionalText.orDefault readSystem rfl (by rfl),
      stable_optionalText.orDefault readCreated rfl (by rfl),
      stable_optionalText.orDefault readFinish rfl (by rfl)]
    rfl

theorem Serial.stable : Stable ofJson? toJson :=
  .record (RecordType.nodup_fieldNames .serial) (fun _ => rfl) fun fields s h => by
    obtain ⟨id, readId, h⟩ := Option.bind_eq_some_iff.mp h
    obtain rfl := Option.some.inj h
    dsimp only
    rw [stable_normal.required readId (by rfl)]
    rfl

theorem Entitlement.stable : Stable ofJson? toJson :=
  .record (RecordType.nodup_fieldNames .entitlement) (fun _ => rfl) fun fields e h => by
    obtain ⟨id, readId, h⟩ := Option.bind_eq_some_iff.mp h
    obtain ⟨serials, readSerials, h⟩ := Option.bind_eq_some_iff.mp h
    obtain ⟨pool, readPool, h⟩ := Option.bind_eq_some_iff.mp h
    obtain ⟨expires, readExpires, h⟩ := Option.bind_eq_some_iff.mp h
    obtain ⟨consumed, readConsumed, h⟩ := Option.bind_eq_some_iff.mp h
    obtain ⟨quantity, readQuantity, h⟩ := Option.bind_eq_some_iff.mp h
    obtain ⟨sla, readSla, h⟩ := Option.bind_eq_some_iff.mp h
    obtain ⟨contract, readContract, h⟩ := Option.bind_eq_some_iff.mp h
    obtain ⟨products, readProducts, h⟩ := Option.bind_eq_some_iff.mp h
    obtain rfl := Option.some.inj h
    dsimp only
    rw [stable_text.orDefault readId rfl (by rfl),
      Serial.stable.list.orDefault readSerials rfl (by rfl),
      stable_text.orDefault readPool rfl (by rfl),
      stable_optionalText.orDefault readExpires rfl (by rfl),
      stable_optionalInteger.orDefault readConsumed rfl (by rfl),
      stable_optionalInteger.orDefault readQuantity rfl (by rfl),
      stable_optionalText.orDefault readSla rfl (by rfl),
      stable_optionalText.orDefault readContract rfl (by rfl),
      NamedRef.stable.list.orDefault readProducts rfl (by rfl)]
    rfl

theorem Subscriptions.stable : Stable ofJson? toJson :=
  .record (RecordType.nodup_fieldNames .subscriptions) (fun _ => rfl) fun fields s h => by
    obtain ⟨entitlements, readEntitlements, h⟩ := Option.bind_eq_some_iff.mp h
    obtain rfl := Option.some.inj h
    dsimp only
    rw [Entitlement.stable.list.orDefault readEntitlements rfl (by rfl)]
    rfl

theorem ProvidedProduct.stable : Stable ofJson? toJson :=
  .record (RecordType.nodup_fieldNames .providedProduct) (fun _ => rfl) fun fields p h => by
    obtain ⟨name, readName, h⟩ := Option.bind_eq_some_iff.mp h
    obtain rfl := Option.some.inj h
    dsimp only
    rw [stable_text.required readName (by rfl)]
    rfl

theorem ProductAttribute.stable : Stable ofJson? toJson :=
  .record (RecordType.nodup_fieldNames .productAttribute) (fun _ => rfl) fun fields a h => by
    obtain ⟨name, readName, h⟩ := Option.bind_eq_some_iff.mp h
    obtain ⟨content, readContent, h⟩ := Option.bind_eq_some_iff.mp h
    obtain rfl := Option.some.inj h
    dsimp only
    rw [stable_text.required readName (by rfl), stable_normal.required readContent (by rfl)]
    rfl

theorem Pool.stable : Stable ofJson? toJson :=
  .record (RecordType.nodup_fieldNames .pool) (fun _ => rfl) fun fields p h => by
    obtain ⟨id, readId, h⟩ := Option.bind_eq_some_iff.mp h
    obtain ⟨product, readProduct, h⟩ := Option.bind_eq_some_iff.mp h
    obtain ⟨endDate, readEnd, h⟩ := Option.bind_eq_some_iff.mp h
    obtain ⟨consumed, readConsumed, h⟩ := Option.bind_eq_some_iff.mp h
    obtain ⟨quantity, readQuantity, h⟩ := Option.bind_eq_some_iff.mp h
    obtain ⟨sockets, readSockets, h⟩ := Option.bind_eq_some_iff.mp h
    obtain ⟨products, readProducts, h⟩ := Option.bind_eq_some_iff.mp h
    obtain ⟨attributes, readAttributes, h⟩ := Option.bind_eq_some_iff.mp h
    obtain rfl := Option.some.inj h
    dsimp only
    rw [stable_text.orDefault readId rfl (by rfl), stable_text.orDefault readProduct rfl (by rfl),
      stable_optionalText.orDefault readEnd rfl (by rfl),
      stable_optionalInteger.orDefault readConsumed rfl (by rfl),
      stable_integer.orDefault readQuantity rfl (by rfl),
      stable_optionalNormal.orDefault readSockets rfl (by rfl),
      ProvidedProduct.stable.list.orDefault readProducts rfl (by rfl),
      ProductAttribute.stable.list.orDefault readAttributes rfl (by rfl)]
    rfl

theorem Pools.stable : Stable ofJson? toJson :=
  .record (RecordType.nodup_fieldNames .pools) (fun _ => rfl) fun fields p h => by
    obtain ⟨pools, readPools, h⟩ := Option.bind_eq_some_iff.mp h
    obtain rfl := Option.some.inj h
    dsimp only
    rw [Pool.stable.list.orDefault readPools rfl (by rfl)]
    rfl

theorem CustomInfo.stable : Stable ofJson? toJson :=
  stable_text.list.dictionary

/-! ## All records -/

namespace RecordType

/-- **Records are stable.** A value that is read as a record is written as one that is read as the
same record. -/
theorem ofJson?_toJson_of_eq_some (type : RecordType) (value : Json) (record : type.Record)
    (h : type.ofJson? value = some record) : type.ofJson? (type.toJson record) = some record := by
  cases type with
  | namedRef => exact NamedRef.stable value record h
  | environment => exact Environment.stable value record h
  | systemGroup => exact SystemGroup.stable value record h
  | machine => exact Machine.stable value record h
  | customInfo => exact CustomInfo.stable value record h
  | package => exact Package.stable value record h
  | releases => exact Releases.stable value record h
  | taskState => exact TaskState.stable value record h
  | task => exact Task.stable value record h
  | serial => exact Serial.stable value record h
  | entitlement => exact Entitlement.stable value record h
  | subscriptions => exact Subscriptions.stable value record h
  | providedProduct => exact ProvidedProduct.stable value record h
  | productAttribute => exact ProductAttribute.stable value record h
  | pool => exact Pool.stable value record h
  | pools => exact Pools.stable value record h

/-- A task that comes as an array, its state under the second name and as an object, and a pool with
a field that is no field of pools and with a free-form value out of order. -/
theorem ofJson?_toJson_of_task_and_pool :
    RecordType.task.ofJson? (.array [.string "7f", .object [("pending", .null)]]) =
        some ⟨"7f", .waiting, "", none, none, none, none⟩ ∧
      RecordType.task.ofJson? (RecordType.task.toJson ⟨"7f", .waiting, "", none, none, none, none⟩) =
        some ⟨"7f", .waiting, "", none, none, none, none⟩ ∧
      ∃ pool, RecordType.pool.ofJson? (.object [("owner", .defect), ("endDate", .null),
          ("sockets", .object [("b", .null), ("a", .null), ("b", .bool true)])]) = some pool ∧
        pool.sockets = some (.object [("a", .null), ("b", .bool true)]) ∧
        RecordType.pool.ofJson? (RecordType.pool.toJson pool) = some pool := by
  have task : RecordType.task.ofJson? (.array [.string "7f", .object [("pending", .null)]]) =
      some ⟨"7f", .waiting, "", none, none, none, none⟩ := by rfl
  have pool : RecordType.pool.ofJson? (.object [("owner", .defect), ("endDate", .null),
      ("sockets", .object [("b", .null), ("a", .null), ("b", .bool true)])]) =
      some ⟨"", "", none, none, 0, some (.object [("a", .null), ("b", .bool true)]), [], []⟩ := by
    rfl
  exact ⟨task, ofJson?_toJson_of_eq_some _ _ _ task, _, pool, rfl,
    ofJson?_toJson_of_eq_some _ _ _ pool⟩

end RecordType

end HostConsole
