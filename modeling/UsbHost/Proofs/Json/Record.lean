import Mathlib.Data.List.Nodup
import UsbHost.Json.Form
import UsbHost.Proofs.Json.Text

/-!
Records as JSON. Reading gives back the record that was written, from any text of an object with its
members, whatever their order and whatever else is in it, and from any text of the array of its
fields. An object in which a field is missing or there twice, or in which a number does not fit, is
no record.
-/

namespace UsbHost

namespace Json

/-! Members by name -/

def member? (members : List (Option String × JsonValue)) (name : String) : Option JsonValue :=
  match members.filter fun member => member.1 == some name with
  | [(_, value)] => some value
  | _ => none

theorem member?_eq_some_iff {members : List (Option String × JsonValue)} {name : String}
    {value : JsonValue} :
    member? members name = some value ↔
      (members.filter fun member => member.1 == some name) = [(some name, value)] := by
  unfold member?
  constructor
  · intro found
    split at found
    · rename_i key only same
      have inside : (key, only) ∈ members.filter fun member => member.1 == some name := by
        rw [same]
        exact List.mem_singleton_self _
      have keyed : key = some name := beq_iff_eq.mp (List.mem_filter.mp inside).2
      rw [same, ← Option.some.inj found, keyed]
    · cases found
  · intro same
    rw [same]

theorem mapM_eq_some_iff {α β : Type} {f : α → Option β} {items : List α} {values : List β} :
    items.mapM f = some values ↔
      List.Forall₂ (fun item value => f item = some value) items values := by
  induction items generalizing values with
  | nil => simp [eq_comm]
  | cons item rest ih =>
      rw [List.mapM_cons, List.forall₂_cons_left_iff]
      simp only [Option.bind_eq_bind, Option.bind_eq_some_iff, Option.pure_def, Option.some.injEq]
      constructor
      · rintro ⟨value, found, others, foundOthers, rfl⟩
        exact ⟨value, others, found, ih.mp foundOthers, rfl⟩
      · rintro ⟨value, others, found, foundOthers, rfl⟩
        exact ⟨value, found, others, ih.mpr foundOthers, rfl⟩

theorem filter_key {own : List (Option String × JsonValue)} {key : Option String}
    {value : JsonValue} (nodup : (own.map Prod.fst).Nodup) (there : (key, value) ∈ own) :
    (own.filter fun member => member.1 == key) = [(key, value)] := by
  induction own with
  | nil => cases there
  | cons member rest ih =>
      rw [List.map_cons, List.nodup_cons] at nodup
      rcases List.mem_cons.mp there with rfl | later
      · have others : (rest.filter fun member => member.1 == key) = [] := by
          rw [List.filter_eq_nil_iff]
          intro other inRest same
          rw [beq_iff_eq] at same
          exact nodup.1 (List.mem_map.mpr ⟨other, inRest, same⟩)
        rw [List.filter_cons_of_pos (by simp), others]
      · have differs : member.1 ≠ key := by
          rintro rfl
          exact nodup.1 (List.mem_map.mpr ⟨_, later, rfl⟩)
        rw [List.filter_cons_of_neg (by simpa using differs), ih nodup.2 later]

/-! The fields of a record -/

section Fields

variable {names : List String} {members own extra : List (Option String × JsonValue)}
  {values : List JsonValue}

theorem fields?_object :
    fields? names (.object members) =
      if members.any fun member => member.1.isNone then none
      else names.mapM (member? members) := rfl

theorem fields?_array_iff {items : List JsonValue} :
    fields? names (.array items) = some values ↔
      items.length = names.length ∧ items = values := by
  rw [fields?, Option.ite_none_right_eq_some, Option.some.injEq]

theorem forall₂_of_fields?_object (read : fields? names (.object members) = some values) :
    List.Forall₂ (fun name value => member? members name = some value) names values := by
  rw [fields?_object] at read
  split at read
  · cases read
  · exact mapM_eq_some_iff.mp read

theorem length_of_fields? {value : JsonValue} (read : fields? names value = some values) :
    values.length = names.length := by
  cases value with
  | object => exact (forall₂_of_fields?_object read).length_eq.symm
  | array items =>
      obtain ⟨size, rfl⟩ := fields?_array_iff.mp read
      exact size
  | null | boolean | number | string => cases read

theorem only_of_fields? (read : fields? names (.object members) = some values) {name : String}
    (known : name ∈ names) :
    ∃ value, (members.filter fun member => member.1 == some name) = [(some name, value)] ∧
      (name, value) ∈ names.zip values := by
  obtain ⟨size, each⟩ := List.forall₂_iff_zip.mp (forall₂_of_fields?_object read)
  obtain ⟨index, inside, rfl⟩ := List.getElem_of_mem known
  have inZip : index < (names.zip values).length := by
    rwa [List.length_zip, ← size, Nat.min_self]
  have zipped := List.getElem_mem inZip
  rw [List.getElem_zip] at zipped
  exact ⟨_, member?_eq_some_iff.mp (each zipped), zipped⟩

def IsUnknown (names : List String) (member : Option String × JsonValue) : Prop :=
  ∃ name, member.1 = some name ∧ name ∉ names

theorem isSome_of_perm (named : own.map Prod.fst = names.map some)
    (unknown : ∀ member ∈ extra, IsUnknown names member) (perm : members.Perm (own ++ extra)) :
    ∀ member ∈ members, ¬ member.1.isNone = true := by
  intro member there
  rcases List.mem_append.mp (perm.mem_iff.mp there) with inOwn | inExtra
  · have keyed : member.1 ∈ names.map some := named ▸ List.mem_map_of_mem inOwn
    obtain ⟨name, -, same⟩ := List.mem_map.mp keyed
    simp [← same]
  · obtain ⟨name, same, -⟩ := unknown member inExtra
    simp [same]

theorem filter_of_perm {name : String} {value : JsonValue} (nodup : (own.map Prod.fst).Nodup)
    (unknown : ∀ member ∈ extra, IsUnknown names member) (perm : members.Perm (own ++ extra))
    (known : name ∈ names) (inOwn : (some name, value) ∈ own) :
    (members.filter fun member => member.1 == some name) = [(some name, value)] := by
  have noExtra : (extra.filter fun member => member.1 == some name) = [] := by
    rw [List.filter_eq_nil_iff]
    intro member inExtra same
    obtain ⟨other, keyed, isUnknown⟩ := unknown member inExtra
    rw [beq_iff_eq, keyed] at same
    exact isUnknown (Option.some.inj same ▸ known)
  have filtered := perm.filter fun member => member.1 == some name
  rwa [List.filter_append, filter_key nodup inOwn, noExtra, List.append_nil,
    List.perm_singleton] at filtered

theorem fields?_of_perm (named : own.map Prod.fst = names.map some) (nodup : names.Nodup)
    (unknown : ∀ member ∈ extra, IsUnknown names member) (perm : members.Perm (own ++ extra)) :
    fields? names (.object members) = some (own.map Prod.snd) := by
  have ownNodup : (own.map Prod.fst).Nodup := by
    rw [named]
    exact nodup.map fun _ _ => Option.some.inj
  have allNamed : ¬ (members.any fun member => member.1.isNone) = true := by
    rw [List.any_eq_true]
    rintro ⟨member, there, absent⟩
    exact isSome_of_perm named unknown perm member there absent
  rw [fields?_object, if_neg allNamed, mapM_eq_some_iff, List.forall₂_iff_zip]
  refine ⟨by simpa using (congrArg List.length named).symm, ?_⟩
  intro name value there
  have known : name ∈ names := (List.of_mem_zip there).1
  have inOwn : (some name, value) ∈ own := by
    rw [List.zip_of_prod named rfl, List.zip_map_left]
    exact List.mem_map.mpr ⟨_, there, rfl⟩
  exact member?_eq_some_iff.mpr (filter_of_perm ownNodup unknown perm known inOwn)

end Fields

/-! Reading texts -/

section Records

variable {α : Type} {names : List String} {bounds : List (String × Nat)} {toJson : α → JsonValue}
  {ofJson? : JsonValue → Option α}

/-- What reading records of some fields comes to. The fields that are numbers stand in `bounds`,
each with the highest number that fits. -/
structure ReadsBack (names : List String) (bounds : List (String × Nat)) (toJson : α → JsonValue)
    (readJson : String → Option α) : Prop where
  compact (record : α) : readJson (toJson record).compact = some record
  object {record : α} {own extra members : List (Option String × JsonValue)} {text : String}
    (isOwn : toJson record = .object own) (unknown : ∀ member ∈ extra, IsUnknown names member)
    (perm : members.Perm (own ++ extra)) (isText : IsText (.object members) text) :
    readJson text = some record
  array {record : α} {own : List (Option String × JsonValue)} {text : String}
    (isOwn : toJson record = .object own) (isText : IsText (.array (own.map Prod.snd)) text) :
    readJson text = some record
  notOnce {members : List (Option String × JsonValue)} {text name : String}
    (isText : IsText (.object members) text) (known : name ∈ names)
    (count : (members.map Prod.fst).count (some name) ≠ 1) : readJson text = none
  outside {members : List (Option String × JsonValue)} {text name : String} {limit : Nat}
    {natural : Option Nat} (isText : IsText (.object members) text)
    (bound : (name, limit) ∈ bounds) (there : (some name, .number natural) ∈ members)
    (unfit : ∀ value ∈ natural, limit < value) : readJson text = none

/-- A decoder that sees nothing of a value but its fields. -/
structure IsDecoder (names : List String) (bounds : List (String × Nat)) (toJson : α → JsonValue)
    (ofJson? : JsonValue → Option α) : Prop where
  nodup : names.Nodup
  bounded : ∀ bound ∈ bounds, bound.1 ∈ names
  unread {value : JsonValue} (missing : fields? names value = none) : ofJson? value = none
  congr {value other : JsonValue} (same : fields? names value = fields? names other) :
    ofJson? value = ofJson? other
  object (record : α) : ∃ own, toJson record = .object own
  own {record : α} {own : List (Option String × JsonValue)} (isOwn : toJson record = .object own) :
    own.map Prod.fst = names.map some ∧ ofJson? (.array (own.map Prod.snd)) = some record
  known (record : α) : .string none ∉ (toJson record).tokens
  unfit {values : List JsonValue} {name : String} {limit : Nat} {field : JsonValue}
    (bound : (name, limit) ∈ bounds) (there : (name, field) ∈ names.zip values)
    (outside : natural? limit field = none) : ofJson? (.array values) = none

theorem natural?_eq_none {limit : Nat} {natural : Option Nat}
    (unfit : ∀ value ∈ natural, limit < value) : natural? limit (.number natural) = none := by
  cases natural with
  | none => rfl
  | some value => exact if_neg (Nat.not_le.mpr (unfit value rfl))

namespace IsDecoder

variable (decoder : IsDecoder names bounds toJson ofJson?)
include decoder

theorem ofJson?_array {value : JsonValue} {values : List JsonValue}
    (read : fields? names value = some values) : ofJson? value = ofJson? (.array values) :=
  decoder.congr (read.trans (fields?_array_iff.mpr ⟨length_of_fields? read, rfl⟩).symm)

theorem ofJson?_of_perm {record : α} {own extra members : List (Option String × JsonValue)}
    (isOwn : toJson record = .object own) (unknown : ∀ member ∈ extra, IsUnknown names member)
    (perm : members.Perm (own ++ extra)) : ofJson? (.object members) = some record := by
  obtain ⟨named, decoded⟩ := decoder.own isOwn
  rw [decoder.ofJson?_array (fields?_of_perm named decoder.nodup unknown perm), decoded]

theorem only_of_ofJson? {record : α} {members : List (Option String × JsonValue)} {name : String}
    (read : ofJson? (.object members) = some record) (known : name ∈ names) :
    ∃ field, (members.filter fun member => member.1 == some name) = [(some name, field)] ∧
      ∀ limit, (name, limit) ∈ bounds → natural? limit field ≠ none := by
  cases found : fields? names (.object members) with
  | none => cases read.symm.trans (decoder.unread found)
  | some values =>
      obtain ⟨field, only, there⟩ := only_of_fields? found known
      refine ⟨field, only, ?_⟩
      intro limit bound outside
      rw [decoder.ofJson?_array found, decoder.unfit bound there outside] at read
      cases read

theorem readsBack {readJson : String → Option α}
    (reads : ∀ text, readJson text = (Json.read text).bind ofJson?) :
    ReadsBack names bounds toJson readJson where
  compact record := by
    obtain ⟨own, isOwn⟩ := decoder.object record
    have perm : own.Perm (own ++ []) := by rw [List.append_nil]
    rw [reads, (isText_compact (decoder.known record)).read, Option.bind_some, isOwn]
    exact decoder.ofJson?_of_perm isOwn (List.forall_mem_nil _) perm
  object isOwn unknown perm isText := by
    rw [reads, isText.read]
    exact decoder.ofJson?_of_perm isOwn unknown perm
  array isOwn isText := by
    rw [reads, isText.read]
    exact (decoder.own isOwn).2
  notOnce {members text name} isText known count := by
    rw [reads, isText.read, Option.bind_some, Option.eq_none_iff_forall_ne_some]
    intro record read
    obtain ⟨field, only, -⟩ := decoder.only_of_ofJson? read known
    refine count ?_
    rw [List.count, List.countP_map, List.countP_eq_length_filter]
    exact congrArg List.length only
  outside {members text name limit natural} isText bound there unfit := by
    rw [reads, isText.read, Option.bind_some, Option.eq_none_iff_forall_ne_some]
    intro record read
    obtain ⟨field, only, fits⟩ := decoder.only_of_ofJson? read (decoder.bounded _ bound)
    have kept : (some name, .number natural) ∈
        members.filter fun member => member.1 == some name :=
      List.mem_filter.mpr ⟨there, beq_self_eq_true _⟩
    rw [only, List.mem_singleton] at kept
    cases kept
    exact fits limit bound (natural?_eq_none unfit)

end IsDecoder

end Records

/-! Fields -/

theorem natural?_number {limit value : Nat} (fits : value ≤ limit) :
    natural? limit (.number (some value)) = some value := if_pos fits

theorem byte?_ofByte (value : UInt8) : byte? (ofByte value) = some value := by
  rw [byte?, ofByte, natural?_number (Nat.le_of_lt_succ value.toNat_lt), Option.map_some,
    UInt8.ofNat_toNat]

theorem half?_ofHalf (value : UInt16) : half? (ofHalf value) = some value := by
  rw [half?, ofHalf, natural?_number (Nat.le_of_lt_succ value.toNat_lt), Option.map_some,
    UInt16.ofNat_toNat]

end Json

namespace Pipe

def bounds : List (String × Nat) :=
  [("number", 0xff), ("max_packet_size", 0xffff), ("interval", 0xff)]

theorem choice?_direction (direction : Direction) :
    Json.choice? Direction.name Direction.all (.string (some direction.name)) = some direction := by
  cases direction <;> decide

theorem choice?_kind (kind : TransferKind) :
    Json.choice? TransferKind.name TransferKind.all (.string (some kind.name)) = some kind := by
  cases kind <;> decide

theorem isDecoder : Json.IsDecoder fieldNames bounds toJson ofJson? where
  nodup := by decide
  bounded := by decide
  unread missing := by
    unfold ofJson?
    rw [missing]
  congr same := by
    unfold ofJson?
    rw [same]
  object pipe := ⟨_, rfl⟩
  own {pipe _} isOwn := by
    cases isOwn
    refine ⟨rfl, ?_⟩
    have fields : Json.fields? fieldNames (.array [.string (some pipe.direction.name),
        Json.ofByte pipe.number, .string (some pipe.kind.name), Json.ofHalf pipe.maxPacketSize,
        Json.ofByte pipe.interval]) = some _ := Json.fields?_array_iff.mpr ⟨rfl, rfl⟩
    simp only [List.map_cons, List.map_nil, ofJson?, fields, choice?_direction, choice?_kind,
      Json.byte?_ofByte, Json.half?_ofHalf]
    rfl
  known pipe := by
    simp [toJson, JsonValue.tokens, JsonValue.memberTokens, Json.ofByte, Json.ofHalf]
  unfit {values name limit field} bound there outside := by
    unfold ofJson?
    split
    · rename_i fields
      obtain ⟨-, rfl⟩ := Json.fields?_array_iff.mp fields
      simp only [bounds, List.mem_cons, Prod.mk.injEq, List.not_mem_nil, or_false] at bound
      rcases bound with ⟨rfl, rfl⟩ | ⟨rfl, rfl⟩ | ⟨rfl, rfl⟩
      all_goals
        obtain rfl : field = _ := by simpa [fieldNames] using there
        simp [Json.byte?, Json.half?, outside]
    · rfl

end Pipe

namespace DeviceSummary

def bounds : List (String × Nat) :=
  [("bus_number", 0xff), ("address", 0xff), ("vendor_id", 0xffff), ("product_id", 0xffff)]

theorem isDecoder : Json.IsDecoder fieldNames bounds toJson ofJson? where
  nodup := by decide
  bounded := by decide
  unread missing := by
    unfold ofJson?
    rw [missing]
  congr same := by
    unfold ofJson?
    rw [same]
  object summary := ⟨_, rfl⟩
  own {summary _} isOwn := by
    cases isOwn
    refine ⟨rfl, ?_⟩
    have fields : Json.fields? fieldNames (.array [Json.ofByte summary.busNumber,
        Json.ofByte summary.address, Json.ofHalf summary.vendorId,
        Json.ofHalf summary.productId]) = some _ := Json.fields?_array_iff.mpr ⟨rfl, rfl⟩
    simp only [List.map_cons, List.map_nil, ofJson?, fields, Json.byte?_ofByte, Json.half?_ofHalf]
    rfl
  known summary := by
    simp [toJson, JsonValue.tokens, JsonValue.memberTokens, Json.ofByte, Json.ofHalf]
  unfit {values name limit field} bound there outside := by
    unfold ofJson?
    split
    · rename_i fields
      obtain ⟨-, rfl⟩ := Json.fields?_array_iff.mp fields
      simp only [bounds, List.mem_cons, Prod.mk.injEq, List.not_mem_nil, or_false] at bound
      rcases bound with ⟨rfl, rfl⟩ | ⟨rfl, rfl⟩ | ⟨rfl, rfl⟩ | ⟨rfl, rfl⟩
      all_goals
        obtain rfl : field = _ := by simpa [fieldNames] using there
        simp [Json.byte?, Json.half?, outside]
    · rfl

end DeviceSummary

/-- Pipes and device summaries read back from their texts, and from no object that lacks or repeats
one of their members or has a number that does not fit. -/
theorem records_read_back :
    Json.ReadsBack Pipe.fieldNames Pipe.bounds Pipe.toJson Pipe.readJson ∧
      Json.ReadsBack DeviceSummary.fieldNames DeviceSummary.bounds DeviceSummary.toJson
        DeviceSummary.readJson :=
  ⟨Pipe.isDecoder.readsBack fun _ => rfl, DeviceSummary.isDecoder.readsBack fun _ => rfl⟩

theorem reversed_summary_reads_back :
    let hub : Option String × JsonValue :=
      (some "hub", .array [.null, .object [(some "address", .boolean true)]])
    let members : List (Option String × JsonValue) :=
      [hub, (some "product_id", .number (some 0x5740)), (some "vendor_id", .number (some 0x0483)),
        (some "address", .number (some 7)), (some "bus_number", .number (some 1))]
    DeviceSummary.readJson (JsonValue.object members).compact =
        some { busNumber := 1, address := 7, vendorId := 0x0483, productId := 0x5740 } ∧
      DeviceSummary.readJson (JsonValue.object (members ++ members)).compact = none := by
  intro hub members
  have once : Json.IsText (.object members) _ := Json.isText_compact (by decide)
  have twice : Json.IsText (.object (members ++ members)) _ := Json.isText_compact (by decide)
  have repeated : ((members ++ members).map Prod.fst).count (some "address") ≠ 1 := by decide
  have unknown : ∀ member ∈ [hub], Json.IsUnknown DeviceSummary.fieldNames member := by
    intro member there
    obtain rfl := List.mem_singleton.mp there
    exact ⟨"hub", rfl, by decide⟩
  refine ⟨?_, records_read_back.2.notOnce twice (by decide) repeated⟩
  exact records_read_back.2.object rfl unknown (List.reverse_perm _) once

end UsbHost
