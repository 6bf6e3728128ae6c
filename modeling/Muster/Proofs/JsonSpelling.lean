import Mathlib
import Muster.Json.Record
import Muster.Proofs.Placement

/-!
How JSON values spell texts, numbers, records and dictionaries. For each reader the values that it
accepts are described apart from it, and shown to be just these. A record is spelled by an array of
its fields in order, or by an object that has them under their names, whatever the order and
whatever else is in it.
-/

namespace Muster

namespace Dict

variable {α : Type}

theorem ext_get? {first second : Dict α} (same : ∀ key, first.get? key = second.get? key) :
    first = second := by
  have perm : first.entries.Perm second.entries := by
    rw [List.perm_ext_iff_of_nodup first.nodup_keys.of_map second.nodup_keys.of_map]
    rintro ⟨key, value⟩
    rw [mem_entries_iff, mem_entries_iff, same]
  have equal : first.entries = second.entries := by
    refine perm.eq_of_pairwise ?_ first.sorted second.sorted
    intro a b _ _ less greater
    exact absurd greater (String.lt_asymm less)
  cases first
  cases second
  simpa using equal

theorem get?_ofList (entries : List (String × α)) (key : String) :
    (ofList entries).get? key = (entries.reverse.find? (·.1 == key)).map (·.2) := by
  induction entries using List.reverseRecOn with
  | nil => rfl
  | append_singleton entries entry ih =>
      have last : ofList (entries ++ [entry]) = (ofList entries).insert entry.1 entry.2 := by
        rw [ofList, List.foldl_append]
        rfl
      rw [last, get?_insert, List.reverse_append]
      by_cases same : entry.1 = key
      · simp [same]
      · simp [same, ih]

theorem ofList_entries (dict : Dict α) : ofList dict.entries = dict := by
  have distinct : (dict.entries.reverse.map Prod.fst).Nodup := by
    rw [List.map_reverse, List.nodup_reverse]
    exact dict.nodup_keys
  apply ext_get?
  intro key
  apply Option.ext
  intro value
  rw [get?_ofList, lookup_eq_some_iff distinct, List.mem_reverse, mem_entries_iff]

end Dict

namespace Json

variable {α β : Type} {json : Json}

def IsText (text : String) : Json → Prop :=
  (· = string text)

def IsFlag (flag : Bool) : Json → Prop :=
  (· = bool flag)

def IsInteger (value : Int) : Json → Prop :=
  (· = integer value)

def IsCount (count : UInt32) : Json → Prop :=
  IsInteger count.toNat

theorem isText_string (text : String) : IsText text (string text) :=
  rfl

theorem text?_eq_some_iff {text : String} : text? json = some text ↔ IsText text json := by
  cases json <;> simp [text?, IsText]

theorem bool?_eq_some_iff {flag : Bool} : bool? json = some flag ↔ IsFlag flag json := by
  cases json <;> simp [bool?, IsFlag]

theorem integerIn?_eq_some_iff {low high value : Int} :
    integerIn? low high json = some value ↔
      IsInteger value json ∧ low ≤ value ∧ value ≤ high := by
  cases json with
  | integer other =>
      simp only [integerIn?, IsInteger, integer.injEq]
      split
      case isTrue within =>
        constructor
        · rintro ⟨⟩
          exact ⟨rfl, within⟩
        · rintro ⟨rfl, _⟩
          rfl
      case isFalse outside =>
        constructor
        · rintro ⟨⟩
        · rintro ⟨rfl, within⟩
          exact (outside within).elim
  | _ => simp [integerIn?, IsInteger]

theorem map_integerIn?_eq_some_iff {ofNat : Nat → β} {toNat : β → Nat} {size : Nat} {count : β}
    (toNat_ofNat : ∀ n < size, toNat (ofNat n) = n) (ofNat_toNat : ofNat (toNat count) = count)
    (below : toNat count < size) :
    (integerIn? 0 (size - 1) json).map (fun value => ofNat value.toNat) = some count ↔
      IsInteger (toNat count) json := by
  simp only [Option.map_eq_some_iff, integerIn?_eq_some_iff]
  constructor
  · rintro ⟨value, ⟨rfl, low, high⟩, rfl⟩
    rw [toNat_ofNat _ (by omega), Int.toNat_of_nonneg low]
    rfl
  · rintro rfl
    exact ⟨_, ⟨rfl, by omega, by omega⟩, ofNat_toNat⟩

theorem uint32?_eq_some_iff {count : UInt32} : uint32? json = some count ↔ IsCount count json :=
  map_integerIn?_eq_some_iff (fun _ => UInt32.toNat_ofNat_of_lt') UInt32.ofNat_toNat
    count.toNat_lt_size

theorem uint64?_eq_some_iff {count : UInt64} :
    uint64? json = some count ↔ IsInteger count.toNat json :=
  map_integerIn?_eq_some_iff (fun _ => UInt64.toNat_ofNat_of_lt') UInt64.ofNat_toNat
    count.toNat_lt_size

theorem int32?_eq_some_iff {number : Int32} :
    int32? json = some number ↔ IsInteger number.toInt json := by
  simp only [int32?, Option.map_eq_some_iff, integerIn?_eq_some_iff]
  constructor
  · rintro ⟨value, ⟨rfl, low, high⟩, rfl⟩
    rw [Int32.toInt_ofInt_of_le low (Int.lt_add_one_of_le high)]
    rfl
  · rintro rfl
    exact ⟨_, ⟨rfl, number.minValue_le_toInt, number.toInt_le⟩, Int32.ofInt_toInt number⟩

inductive IsWord (word : String) : Json → Prop
  | plain : IsWord word (string word)
  | key : IsWord word (object [(word, null)])

theorem alternative?_eq_some_iff {word : String} :
    alternative? json = some word ↔ IsWord word json := by
  constructor
  · intro read
    unfold alternative? at read
    split at read
    · cases read
      exact .plain
    · cases read
      exact .key
    · cases read
  · rintro (_ | _) <;> rfl

theorem mapM_eq_some_iff {read : α → Option β} {items : List α} {values : List β} :
    items.mapM read = some values ↔
      List.Forall₂ (fun item value => read item = some value) items values := by
  induction items generalizing values with
  | nil => cases values <;> simp
  | cons item rest ih => cases values <;> simp [Option.bind_eq_some_iff, ih]

def AreTexts (texts : List String) : Json → Prop :=
  (· = array (texts.map string))

theorem list?_text?_eq_some_iff {texts : List String} :
    list? text? json = some texts ↔ AreTexts texts json := by
  cases json with
  | array items =>
      simp only [list?, mapM_eq_some_iff, text?_eq_some_iff, IsText, AreTexts, array.injEq]
      rw [← List.forall₂_eq_eq_eq, List.forall₂_map_right_iff]
  | _ => simp [list?, AreTexts]

/-! ## Records -/

/-- What stands in a record for the field `name`, which is the one with this index. -/
def part? (index : Nat) (name : String) : Json → Option Json
  | array items => items[index]?
  | object members => member? members name
  | _ => none

def HoldsAtMost (count : Nat) : Json → Prop
  | array items => items.length ≤ count
  | object _ => True
  | _ => False

/-- A record in which each field, or its absence, is as it has to be. -/
def HasSettings (settings : List (String × (Option Json → Prop))) (json : Json) : Prop :=
  json.HoldsAtMost settings.length ∧
    ∀ (index : Nat) setting, settings[index]? = some setting →
      setting.2 (json.part? index setting.1)

def Present (holds : Json → Prop) : Option Json → Prop
  | none => False
  | some json => holds json

/-- A record in which no field is absent; an array has as many items as there are fields. -/
def HasFields (fields : List (String × (Json → Prop))) : Json → Prop :=
  HasSettings (fields.map fun field => (field.1, Present field.2))

/-- A missing setting has the default value, and one that is there has the value that it spells. -/
def OrDefault (SpelledBy : α → Json → Prop) (default value : α) : Option Json → Prop
  | none => value = default
  | some json => SpelledBy value json

theorem padded_eq {items : List Json} {names : List String} (few : items.length ≤ names.length) :
    items.map some ++ List.replicate (names.length - items.length) none =
      names.mapIdx fun index _ => items[index]? := by
  apply List.ext_getElem
  · simp only [List.length_append, List.length_map, List.length_replicate, List.length_mapIdx]
    omega
  · intro index first second
    rw [List.getElem_mapIdx, List.getElem_append]
    split
    case isTrue within =>
      rw [List.length_map] at within
      rw [List.getElem_map, List.getElem?_eq_getElem within]
    case isFalse beyond =>
      rw [List.length_map] at beyond
      rw [List.getElem_replicate, List.getElem?_eq_none (Nat.le_of_not_lt beyond)]

theorem settings?_eq_some_iff {names : List String} {values : List (Option Json)} :
    settings? names json = some values ↔ json.HoldsAtMost names.length ∧
      names.mapIdx (fun index name => json.part? index name) = values := by
  cases json with
  | array items =>
      simp only [settings?, HoldsAtMost, part?]
      split
      case isTrue few => rw [padded_eq few, Option.some.injEq, and_iff_right few]
      case isFalse many => simp [many]
  | object members =>
      have named : names.mapIdx (fun _ name => member? members name) =
          names.map (member? members) := by
        rw [List.mapIdx_eq_iff]
        simp
      simp [settings?, HoldsAtMost, part?, named]
  | _ => simp [settings?, HoldsAtMost]

theorem fields?_eq_some_iff {names : List String} {items : List Json} :
    fields? names json = some items ↔ settings? names json = some (items.map some) := by
  cases json with
  | array given =>
      simp only [fields?, settings?]
      by_cases exact : given.length = names.length
      · rw [if_pos exact, if_pos exact.le, exact, Nat.sub_self, List.replicate_zero,
          List.append_nil, Option.some.injEq, Option.some.injEq,
          (List.map_injective_iff.mpr (Option.some_injective _)).eq_iff]
      · rw [if_neg exact]
        simp only [reduceCtorEq, false_iff]
        intro padded
        split at padded
        case isTrue few =>
          -- There is room for one more field, and nothing stands there.
          have absent : none ∈ items.map some := by
            rw [← Option.some.inj padded]
            refine List.mem_append_right _ (List.mem_replicate.mpr ⟨?_, rfl⟩)
            omega
          simp at absent
        case isFalse => cases padded
  | object members =>
      simp only [fields?, settings?, mapM_eq_some_iff, Option.some.injEq]
      rw [← List.forall₂_eq_eq_eq, List.forall₂_map_right_iff, List.forall₂_map_left_iff]
  | _ => simp [fields?, settings?]

theorem hasSettings_iff {settings : List (String × (Option Json → Prop))} :
    json.HasSettings settings ↔ ∃ values, settings? (settings.map Prod.fst) json = some values ∧
      List.Forall₂ (fun setting value => setting.2 value) settings values := by
  simp only [settings?_eq_some_iff, List.length_map, and_assoc, exists_and_left,
    exists_eq_left', HasSettings]
  refine and_congr_right fun _ => ?_
  rw [List.forall₂_iff_get]
  simp only [List.length_mapIdx, List.length_map, List.get_eq_getElem, List.getElem_mapIdx,
    List.getElem_map, true_and, List.getElem?_eq_some_iff]
  constructor
  · intro each index within _
    exact each index _ ⟨within, rfl⟩
  · rintro each index setting ⟨within, rfl⟩
    exact each index within within

theorem forall₂_present {fields : List (String × (Json → Prop))} {values : List (Option Json)} :
    List.Forall₂ (fun field value => Present field.2 value) fields values ↔
      ∃ items, values = items.map some ∧
        List.Forall₂ (fun field item => field.2 item) fields items := by
  constructor
  · intro each
    induction each with
    | nil => exact ⟨[], rfl, .nil⟩
    | @cons field value fields values present _ ih =>
        obtain ⟨items, rfl, rest⟩ := ih
        cases value with
        | none => exact present.elim
        | some item => exact ⟨item :: items, rfl, .cons present rest⟩
  · rintro ⟨items, rfl, each⟩
    exact List.forall₂_map_right_iff.mpr each

theorem hasFields_iff {fields : List (String × (Json → Prop))} :
    json.HasFields fields ↔ ∃ items, fields? (fields.map Prod.fst) json = some items ∧
      List.Forall₂ (fun field item => field.2 item) fields items := by
  simp only [HasFields, hasSettings_iff, List.map_map, List.forall₂_map_left_iff, forall₂_present,
    fields?_eq_some_iff]
  constructor
  · rintro ⟨_, found, items, rfl, each⟩
    exact ⟨items, found, each⟩
  · rintro ⟨items, found, each⟩
    exact ⟨_, found, items, rfl, each⟩

theorem length_of_settings? {names : List String} {values : List (Option Json)}
    (found : settings? names json = some values) : values.length = names.length := by
  rw [← (settings?_eq_some_iff.mp found).2, List.length_mapIdx]

theorem length_of_fields? {names : List String} {items : List Json}
    (found : fields? names json = some items) : items.length = names.length := by
  rw [← length_of_settings? (fields?_eq_some_iff.mp found), List.length_map]

theorem fields?_bind_iff {names : List String} {fields : List (String × (Json → Prop))}
    {read : List Json → Option α} {value : α} (named : fields.map Prod.fst = names)
    (each : ∀ items : List Json, items.length = fields.length →
      (read items = some value ↔ List.Forall₂ (fun field item => field.2 item) fields items)) :
    fields? names json >>= read = some value ↔ json.HasFields fields := by
  subst named
  rw [Option.bind_eq_bind, Option.bind_eq_some_iff, hasFields_iff]
  refine exists_congr fun items => and_congr_right fun found => each items ?_
  rw [length_of_fields? found, List.length_map]

theorem settings?_bind_iff {names : List String}
    {settings : List (String × (Option Json → Prop))} {read : List (Option Json) → Option α}
    {value : α} (named : settings.map Prod.fst = names)
    (each : ∀ values : List (Option Json), values.length = settings.length →
      (read values = some value ↔
        List.Forall₂ (fun setting value => setting.2 value) settings values)) :
    settings? names json >>= read = some value ↔ json.HasSettings settings := by
  subst named
  rw [Option.bind_eq_bind, Option.bind_eq_some_iff, hasSettings_iff]
  refine exists_congr fun values => and_congr_right fun found => each values ?_
  rw [length_of_settings? found, List.length_map]

theorem optional_eq_some_iff {read? : Json → Option α} {SpelledBy : α → Json → Prop}
    (reads : ∀ {value json}, read? json = some value ↔ SpelledBy value json) {default value : α}
    {given : Option Json} :
    FieldSource.optional read? default given = some value ↔
      OrDefault SpelledBy default value given := by
  cases given with
  | none => simp [FieldSource.optional, OrDefault, eq_comm]
  | some json => exact reads

variable {members others : List (String × Json)}

theorem member?_eq_some_iff (distinct : (members.map Prod.fst).Nodup) {name : String}
    {item : Json} : member? members name = some item ↔ (name, item) ∈ members :=
  Dict.lookup_eq_some_iff distinct

theorem hasSettings_congr {settings : List (String × (Option Json → Prop))}
    (first : (members.map Prod.fst).Nodup) (second : (others.map Prod.fst).Nodup)
    (same : ∀ setting ∈ settings, ∀ item,
      (setting.1, item) ∈ members ↔ (setting.1, item) ∈ others) :
    (object members).HasSettings settings ↔ (object others).HasSettings settings := by
  refine and_congr_right fun _ => forall_congr' fun index => forall₂_congr fun setting found => ?_
  have equal : member? members setting.1 = member? others setting.1 := by
    apply Option.ext
    intro item
    rw [member?_eq_some_iff first, member?_eq_some_iff second]
    exact same setting (List.mem_of_getElem? found) item
  rw [part?, part?, equal]

theorem hasSettings_object {settings : List (String × (Option Json → Prop))}
    (named : settings.map Prod.fst = members.map Prod.fst)
    (distinct : (members.map Prod.fst).Nodup)
    (each : List.Forall₂ (fun setting member => setting.2 (some member.2)) settings members) :
    (object members).HasSettings settings := by
  rw [hasSettings_iff]
  refine ⟨members.map fun member => some member.2, ?_, List.forall₂_map_right_iff.mpr each⟩
  rw [named, settings?, List.map_map]
  refine congrArg some (List.map_congr_left ?_)
  intro member among
  exact (member?_eq_some_iff distinct).mpr among

theorem hasFields_object {fields : List (String × (Json → Prop))}
    (named : fields.map Prod.fst = members.map Prod.fst) (distinct : (members.map Prod.fst).Nodup)
    (each : List.Forall₂ (fun field member => field.2 member.2) fields members) :
    (object members).HasFields fields :=
  hasSettings_object (by rw [List.map_map, ← named]; rfl) distinct
    (List.forall₂_map_left_iff.mpr each)

end Json

/-! ## Dictionaries -/

namespace Dict

variable {α : Type}

/-- An object whose members all spell values; under each key there is what the last member with
this key spells. -/
def SpelledBy (spelledBy : α → Json → Prop) (dict : Dict α) (json : Json) : Prop :=
  ∃ members, json = .object members ∧ (∀ member ∈ members, ∃ value, spelledBy value member.2) ∧
    ∀ key, Option.Rel spelledBy (dict.get? key) (Json.member? members.reverse key)

def SpellsEntry (spelledBy : α → Json → Prop) (member : String × Json) (entry : String × α) :
    Prop :=
  member.1 = entry.1 ∧ spelledBy entry.2 member.2

variable {spelledBy : α → Json → Prop} {read? : Json → Option α} {members : List (String × Json)}
  {entries : List (String × α)} {dict : Dict α} {json : Json}

theorem rel_find? (each : List.Forall₂ (SpellsEntry spelledBy) members entries) (key : String) :
    Option.Rel spelledBy ((entries.find? (·.1 == key)).map (·.2)) (Json.member? members key) := by
  induction each with
  | nil => exact .none
  | @cons member entry members entries head _ ih =>
      obtain ⟨named, spelled⟩ := head
      simp only [Json.member?, List.find?_cons, named] at ih ⊢
      cases entry.1 == key with
      | true => exact .some spelled
      | false => exact ih

theorem rel_ofList (each : List.Forall₂ (SpellsEntry spelledBy) members entries) (key : String) :
    Option.Rel spelledBy ((ofList entries).get? key) (Json.member? members.reverse key) := by
  rw [get?_ofList]
  exact rel_find? (List.forall₂_reverse_iff.mpr each) key

theorem exists_entries_iff :
    (∃ entries, List.Forall₂ (SpellsEntry spelledBy) members entries) ↔
      ∀ member ∈ members, ∃ value, spelledBy value member.2 := by
  induction members with
  | nil => simp
  | cons member members ih =>
      rw [List.forall_mem_cons, ← ih]
      constructor
      · rintro ⟨_, each⟩
        obtain ⟨entry, entries, spelled, rest, rfl⟩ := List.forall₂_cons_left_iff.mp each
        exact ⟨⟨entry.2, spelled.2⟩, entries, rest⟩
      · rintro ⟨⟨value, spelled⟩, entries, rest⟩
        exact ⟨(member.1, value) :: entries, .cons ⟨rfl, spelled⟩ rest⟩

theorem eq_of_rel (single : ∀ json value other, spelledBy value json → spelledBy other json →
      value = other) {value other : Option α} {given : Option Json}
    (first : Option.Rel spelledBy value given) (second : Option.Rel spelledBy other given) :
    value = other := by
  cases first with
  | none =>
      cases second
      rfl
  | some spelled =>
      cases second with
      | some again => rw [single _ _ _ spelled again]

section

variable (reads : ∀ {value json}, read? json = some value ↔ spelledBy value json)

include reads

theorem ofJson?_object_iff :
    ofJson? read? (.object members) = some dict ↔
      ∃ entries, List.Forall₂ (SpellsEntry spelledBy) members entries ∧ ofList entries = dict := by
  have member (given : String × Json) (entry : String × α) :
      ((read? given.2).bind fun value => some (given.1, value)) = some entry ↔
        SpellsEntry spelledBy given entry := by
    rw [SpellsEntry, ← reads]
    simp [Option.bind_eq_some_iff, Prod.ext_iff, and_comm]
  simp only [ofJson?, Option.pure_def, Option.bind_eq_bind, Option.bind_eq_some_iff,
    Option.some.injEq, Json.mapM_eq_some_iff, member]

theorem ofJson?_eq_some_iff : ofJson? read? json = some dict ↔ dict.SpelledBy spelledBy json := by
  constructor
  · intro read
    cases json with
    | object members =>
        obtain ⟨entries, each, rfl⟩ := (ofJson?_object_iff reads).mp read
        exact ⟨members, rfl, exists_entries_iff.mp ⟨entries, each⟩, rel_ofList each⟩
    | _ => cases read
  · rintro ⟨members, rfl, valued, each⟩
    obtain ⟨entries, paired⟩ := exists_entries_iff.mpr valued
    have single (json : Json) (value other : α) (first : spelledBy value json)
        (second : spelledBy other json) : value = other :=
      Option.some.inj ((reads.mpr first).symm.trans (reads.mpr second))
    refine (ofJson?_object_iff reads).mpr ⟨entries, paired, ext_get? fun key => ?_⟩
    exact eq_of_rel single (rel_ofList paired key) (each key)

end

theorem spelledBy_toJson {toJson : α → Json} (spelled : ∀ value, spelledBy value (toJson value))
    (dict : Dict α) : dict.SpelledBy spelledBy (dict.toJson toJson) := by
  have each : List.Forall₂ (SpellsEntry spelledBy)
      (dict.entries.map fun entry => (entry.1, toJson entry.2)) dict.entries := by
    rw [List.forall₂_map_left_iff, List.forall₂_same]
    exact fun entry _ => ⟨rfl, spelled entry.2⟩
  refine ⟨_, rfl, exists_entries_iff.mp ⟨_, each⟩, ?_⟩
  have related := rel_ofList each
  rwa [ofList_entries] at related

end Dict

end Muster
