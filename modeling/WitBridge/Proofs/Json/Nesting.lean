import WitBridge.Json.Record
import WitBridge.Proofs.Json.Reading

/-!
# Nesting and records

How deep a value nests, and what reading a record says of the value that is read. An object with
distinct names gives each field the value under its name; whatever is read out of a record or a
list nests less deep than the record or the list.
-/
namespace WitBridge.Json

namespace Value

mutual
/-- How many arrays and objects stand inside one another. -/
def nesting : Value → Nat
  | array items => nestingItems items + 1
  | object members => nestingMembers members + 1
  | _ => 0
/-- How deep the deepest of some items nests. -/
def nestingItems : List Value → Nat
  | [] => 0
  | item :: rest => max (nesting item) (nestingItems rest)
/-- How deep the deepest of some members nests. -/
def nestingMembers : List (Option String × Value) → Nat
  | [] => 0
  | (_, value) :: rest => max (nesting value) (nestingMembers rest)
end

variable {levels : Nat} {items : List Value} {members : List (Option String × Value)}

/-- Items nest as deep as each of them. -/
theorem nestingItems_le_iff :
    nestingItems items ≤ levels ↔ ∀ item ∈ items, item.nesting ≤ levels := by
  induction items with
  | nil => simp [nestingItems]
  | cons item rest ih => rw [nestingItems, Nat.max_le, ih, List.forall_mem_cons]

/-- Members nest as deep as each of their values. -/
theorem nestingMembers_le_iff :
    nestingMembers members ≤ levels ↔ ∀ member ∈ members, member.2.nesting ≤ levels := by
  induction members with
  | nil => simp [nestingMembers]
  | cons member rest ih => rw [nestingMembers, Nat.max_le, ih, List.forall_mem_cons]

/-- An array nests one level deeper than its items. -/
theorem nesting_array_le_iff :
    (array items).nesting ≤ levels ↔ 0 < levels ∧ ∀ item ∈ items, item.nesting < levels := by
  cases levels with
  | zero => simp [nesting]
  | succ levels =>
    rw [nesting, Nat.add_le_add_iff_right, nestingItems_le_iff]
    simp only [Nat.lt_succ_iff, Nat.zero_le, true_and]

/-- An object nests one level deeper than its values. -/
theorem nesting_ofFields_le_iff {fields : List (String × Value)} :
    (ofFields fields).nesting ≤ levels ↔
      0 < levels ∧ ∀ field ∈ fields, field.2.nesting < levels := by
  cases levels with
  | zero => simp [ofFields, nesting]
  | succ levels =>
    rw [ofFields, nesting, Nat.add_le_add_iff_right, nestingMembers_le_iff, List.forall_mem_map]
    simp only [Nat.lt_succ_iff, Nat.zero_le, true_and]

/-- The value of a field nests less deep than its object. -/
theorem nesting_lt_ofFields {fields : List (String × Value)} (name : String) {value : Value}
    (listed : (name, value) ∈ fields) : value.nesting < (ofFields fields).nesting :=
  (nesting_ofFields_le_iff.1 (Nat.le_refl _)).2 (name, value) listed

/-- A text does not nest. -/
@[simp]
theorem nesting_text (text : String) : (Value.text text).nesting = 0 := by
  rw [Value.text, nesting] <;> simp

/-- An item nests less deep than its array. -/
theorem nesting_lt_array {item : Value} (listed : item ∈ items) :
    item.nesting < (array items).nesting :=
  Nat.lt_succ_of_le (nestingItems_le_iff.1 (Nat.le_refl _) item listed)

/-- A value nests less deep than its object. -/
theorem nesting_lt_object {member : Option String × Value} (listed : member ∈ members) :
    member.2.nesting < (object members).nesting :=
  Nat.lt_succ_of_le (nestingMembers_le_iff.1 (Nat.le_refl _) member listed)

mutual
/-- A value that is plain within some levels nests no deeper. -/
theorem nesting_le_of_isPlain {levels : Nat} {value : Value} (plain : value.isPlain levels = true) :
    value.nesting ≤ levels := by
  cases value with
  | array items =>
    rw [isPlain, Bool.and_eq_true, decide_eq_true_eq] at plain
    have := nestingItems_le_of_isPlain plain.2
    rw [nesting]
    omega
  | object members =>
    rw [isPlain, Bool.and_eq_true, decide_eq_true_eq] at plain
    have := nestingMembers_le_of_isPlain plain.2
    rw [nesting]
    omega
  | _ => simp [nesting]
/-- Items that are plain within some levels nest no deeper. -/
theorem nestingItems_le_of_isPlain {levels : Nat} {items : List Value}
    (plain : isPlainItems levels items = true) : nestingItems items ≤ levels := by
  cases items with
  | nil => simp [nestingItems]
  | cons item rest =>
    rw [isPlainItems, Bool.and_eq_true] at plain
    have first := nesting_le_of_isPlain plain.1
    have others := nestingItems_le_of_isPlain plain.2
    rw [nestingItems]
    omega
/-- Members that are plain within some levels nest no deeper. -/
theorem nestingMembers_le_of_isPlain {levels : Nat} {members : List (Option String × Value)}
    (plain : isPlainMembers levels members = true) : nestingMembers members ≤ levels := by
  match members with
  | [] => simp [nestingMembers]
  | (name, value) :: rest =>
    rw [isPlainMembers, Bool.and_eq_true, Bool.and_eq_true] at plain
    have first := nesting_le_of_isPlain plain.1.2
    have others := nestingMembers_le_of_isPlain plain.2
    rw [nestingMembers]
    omega
end

/-- Items are plain if each of them is. -/
theorem isPlainItems_of_forall (each : ∀ item ∈ items, item.isPlain levels = true) :
    isPlainItems levels items = true := by
  induction items with
  | nil => rfl
  | cons item rest ih =>
    obtain ⟨first, others⟩ := List.forall_mem_cons.1 each
    rw [isPlainItems, first, ih others, Bool.and_self]

/-- Members are plain if each of them has a name that is a text and a plain value. -/
theorem isPlainMembers_of_forall (named : ∀ member ∈ members, member.1.isSome = true)
    (each : ∀ member ∈ members, member.2.isPlain levels = true) :
    isPlainMembers levels members = true := by
  induction members with
  | nil => rfl
  | cons member rest ih =>
    obtain ⟨first, others⟩ := List.forall_mem_cons.1 each
    obtain ⟨name, names⟩ := List.forall_mem_cons.1 named
    rw [isPlainMembers, name, first, ih names others, Bool.and_self, Bool.and_self]

end Value

/-- A textual value is plain within the levels that it nests. -/
theorem Textual.isPlain {value : Value} (textual : Textual value) {levels : Nat}
    (shallow : value.nesting ≤ levels) : value.isPlain levels = true := by
  induction textual generalizing levels with
  | text text => rfl
  | array each ih =>
    rw [Value.nesting] at shallow
    obtain ⟨inner, rfl⟩ := Nat.exists_eq_add_of_le' (Nat.le_of_add_left_le shallow)
    rw [Nat.add_le_add_iff_right, Value.nestingItems_le_iff] at shallow
    rw [Value.isPlain]
    simpa using Value.isPlainItems_of_forall fun item listed => ih item listed (shallow item listed)
  | object named each ih =>
    rw [Value.nesting] at shallow
    obtain ⟨inner, rfl⟩ := Nat.exists_eq_add_of_le' (Nat.le_of_add_left_le shallow)
    rw [Nat.add_le_add_iff_right, Value.nestingMembers_le_iff] at shallow
    rw [Value.isPlain]
    simpa using Value.isPlainMembers_of_forall named fun member listed =>
      ih member listed (shallow member listed)

namespace Value

section Lists

variable {α : Type} {read : Value → Option α} {write : α → Value}

/-- A list that is written item by item is read if each item is. -/
theorem listOf?_map {items : List α} (each : ∀ item ∈ items, read (write item) = some item) :
    (array (items.map write)).listOf? read = some items := by
  change (items.map write).mapM read = some items
  induction items with
  | nil => rfl
  | cons item rest ih =>
    obtain ⟨first, others⟩ := List.forall_mem_cons.1 each
    rw [List.map_cons, List.mapM_cons, first, ih others]
    rfl

/-- Each item of a list that is read one by one is read from an item of the list. -/
theorem exists_of_mem_mapM {items : List Value} {found : List α}
    (ran : items.mapM read = some found) :
    ∀ value ∈ found, ∃ item ∈ items, read item = some value := by
  induction items generalizing found with
  | nil =>
    cases ran
    exact nofun
  | cons item rest ih =>
    rw [List.mapM_cons, Option.bind_eq_bind, Option.bind_eq_some_iff] at ran
    obtain ⟨first, head, ran⟩ := ran
    rw [Option.bind_eq_bind, Option.bind_eq_some_iff] at ran
    obtain ⟨more, tail, same⟩ := ran
    cases same
    intro value listed
    rcases List.mem_cons.1 listed with rfl | listed
    · exact ⟨item, List.mem_cons_self, head⟩
    · obtain ⟨inner, inside, read⟩ := ih tail value listed
      exact ⟨inner, List.mem_cons_of_mem _ inside, read⟩

/-- A list is read from an array, and each of its items from a value inside it. -/
theorem exists_of_listOf? {value : Value} {found : List α} (ran : value.listOf? read = some found) :
    0 < value.nesting ∧
      ∀ item ∈ found, ∃ inner : Value, inner.nesting < value.nesting ∧ read inner = some item := by
  cases value with
  | array items =>
    refine ⟨Nat.succ_pos _, fun item listed => ?_⟩
    obtain ⟨inner, inside, read⟩ := exists_of_mem_mapM ran item listed
    exact ⟨inner, nesting_lt_array inside, read⟩
  | _ => contradiction

end Lists

section Records

variable {fields : List (String × Value)}

/-- A value that is given for a name stands under it. -/
theorem mem_of_mem_valuesOf {members : List (Option String × Value)} {name : String}
    {value : Value} (listed : value ∈ valuesOf members name) : (some name, value) ∈ members := by
  obtain ⟨⟨found, other⟩, inside, picked⟩ := List.mem_filterMap.1 listed
  obtain ⟨rfl, rfl⟩ : found = some name ∧ other = value := by simpa using picked
  exact inside

/-- A name that an object lacks has no values. -/
theorem valuesOf_eq_nil {name : String} (missing : name ∉ fields.map (·.1)) :
    valuesOf (fields.map fun (name, value) => (some name, value)) name = [] := by
  refine List.eq_nil_iff_forall_not_mem.2 fun value listed => missing ?_
  obtain ⟨field, inside, same⟩ := List.mem_map.1 (mem_of_mem_valuesOf listed)
  cases same
  exact List.mem_map_of_mem inside

/-- An object with distinct names has for each name the value of the field. -/
theorem valuesOf_fields (distinct : (fields.map (·.1)).Nodup) (name : String) :
    valuesOf (fields.map fun (name, value) => (some name, value)) name =
      (fields.lookup name).toList := by
  induction fields with
  | nil => rfl
  | cons field rest ih =>
    obtain ⟨other, value⟩ := field
    obtain ⟨fresh, distinct⟩ := List.nodup_cons.1 distinct
    rw [List.map_cons, List.lookup_cons]
    by_cases same : other = name
    · subst same
      have none_left := valuesOf_eq_nil fresh
      unfold valuesOf at none_left ⊢
      simp [none_left]
    · have others := ih distinct
      have differs : (name == other) = false := beq_false_of_ne (Ne.symm same)
      unfold valuesOf at others ⊢
      simp [same, differs, others]

/-- An object with distinct names is read as a record: a field that it lacks is not given. -/
theorem fields?_ofFields (distinct : (fields.map (·.1)).Nodup) (names : List String) :
    (ofFields fields).fields? names = some (names.map (fields.lookup ·)) := by
  rw [ofFields, fields?, if_pos]
  · simp only [valuesOf_fields distinct, Option.head?_toList]
  · simp only [Bool.and_eq_true, List.all_eq_true, decide_eq_true_eq, valuesOf_fields distinct]
    refine ⟨List.forall_mem_map.2 fun _ _ => rfl, fun name _ => ?_⟩
    cases fields.lookup name <;> simp

/-- A tagged object is read as its tag and the object of the other fields. -/
theorem tagged?_ofFields {tag : Value} (untagged : "kind" ∉ fields.map (·.1)) :
    (ofFields (("kind", tag) :: fields)).tagged? = some (tag, ofFields fields) := by
  have none_left := valuesOf_eq_nil untagged
  have tags : valuesOf ((("kind", tag) :: fields).map fun (name, value) => (some name, value))
      "kind" = [tag] := by
    unfold valuesOf at none_left ⊢
    rw [List.map_cons, List.filterMap_cons]
    simp only [↓reduceIte, none_left]
  have others : ((("kind", tag) :: fields).map fun (name, value) => (some name, value)).filter
      (·.1 ≠ some "kind") = fields.map fun (name, value) => (some name, value) := by
    rw [List.map_cons, List.filter_cons_of_neg (by simp), List.filter_eq_self]
    refine List.forall_mem_map.2 fun field listed => ?_
    have : field.1 ≠ "kind" := fun same => untagged (same ▸ List.mem_map_of_mem listed)
    simpa using this
  rw [ofFields, tagged?, tags]
  simp only [others, ofFields]

/-- A field that is read out of a record nests less deep. -/
theorem nesting_lt_of_fields? {names : List String} {value found : Value}
    {values : List (Option Value)} (ran : value.fields? names = some values)
    (listed : some found ∈ values) : found.nesting < value.nesting := by
  cases value with
  | array items =>
    rw [fields?] at ran
    split at ran
    · cases ran
      have inside : found ∈ items := by simpa using listed
      exact nesting_lt_array inside
    · contradiction
  | object members =>
    rw [fields?] at ran
    split at ran
    · cases ran
      obtain ⟨name, -, head⟩ := List.mem_map.1 listed
      have inside := mem_of_mem_valuesOf (List.mem_of_mem_head? head)
      exact nesting_lt_object inside
    · contradiction
  | _ => contradiction

/-- What a tag is taken off nests no deeper than the whole, and is a record. -/
theorem nesting_le_of_tagged? {value tag content : Value}
    (ran : value.tagged? = some (tag, content)) :
    0 < content.nesting ∧ content.nesting ≤ value.nesting := by
  cases value with
  | array items =>
    cases items with
    | nil => contradiction
    | cons first rest =>
      cases ran
      refine ⟨Nat.succ_pos _, ?_⟩
      simp only [nesting, nestingItems]
      omega
  | object members =>
    rw [tagged?] at ran
    split at ran
    · cases ran
      refine ⟨Nat.succ_pos _, Nat.succ_le_succ (nestingMembers_le_iff.2 fun member listed => ?_)⟩
      exact nestingMembers_le_iff.1 (Nat.le_refl _) member (List.mem_filter.1 listed).1
    · contradiction
  | _ => contradiction

/-- A field of what a tag is taken off nests less deep than the whole. -/
theorem nesting_lt_of_tagged? {value tag content inner : Value} {names : List String}
    {fields : List (Option Value)} (tagged : value.tagged? = some (tag, content))
    (record : content.fields? names = some fields) (listed : some inner ∈ fields) :
    inner.nesting < value.nesting :=
  Nat.lt_of_lt_of_le (nesting_lt_of_fields? record listed) (nesting_le_of_tagged? tagged).2

end Records

end Value

end WitBridge.Json
