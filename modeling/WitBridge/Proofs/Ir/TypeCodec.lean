import WitBridge.Ir.Codec
import WitBridge.Proofs.Json.Nesting

/-!
# Names and types as JSON are read back

What is written for a name or a type is textual and is read as the name or the type, as long as it
nests no deeper than the reader allows. Whatever spelling it is read from, what is written for it
nests no deeper than that spelling: an array of the fields of a record nests as deep as the object,
and a tag that is a number as deep as one that is a word. What a reader says of its value is stated
once for lists, members, accesses and documentation: each holds what is read inside.
-/
namespace WitBridge.Ir

open Json (Value Textual)

/-- Names and other lists of lists: what is written for a list that is read nests no deeper than
what it is read from, if this is so for each item. -/
theorem nesting_list_le {α : Type} {read : Value → Option α} {write : α → Value}
    (each : ∀ inner item, read inner = some item → (write item).nesting ≤ inner.nesting)
    {value : Value} {found : List α} (ran : value.listOf? read = some found) :
    (Value.array (found.map write)).nesting ≤ value.nesting := by
  obtain ⟨positive, inside⟩ := Value.exists_of_listOf? ran
  refine Value.nesting_array_le_iff.2 ⟨positive, List.forall_mem_map.2 fun item listed => ?_⟩
  obtain ⟨inner, below, read⟩ := inside item listed
  exact Nat.lt_of_le_of_lt (each inner item read) below

namespace Name

/-- A name is written with texts. -/
theorem textual_toJson (name : Name) : Textual name.toJson :=
  .array (List.forall_mem_map.2 fun word _ => .text word)

/-- A name is read back. -/
theorem ofJson?_toJson (name : Name) : ofJson? name.toJson = some name := by
  have words : (Value.array (name.words.map .text)).listOf? Value.text? = some name.words :=
    Value.listOf?_map fun _ _ => rfl
  rw [ofJson?, toJson, words]
  rfl

/-- A name is written no deeper than it is read. -/
theorem nesting_le_of_ofJson? {value : Value} {name : Name} (ran : ofJson? value = some name) :
    name.toJson.nesting ≤ value.nesting := by
  obtain ⟨words, list, same⟩ := Option.bind_eq_some_iff.1 ran
  cases same
  exact nesting_list_le (fun inner word _ => by simp) list

end Name

namespace Path

/-- A path is written with texts. -/
theorem textual_toJson (path : Path) : Textual path.toJson :=
  .array (List.forall_mem_map.2 fun name _ => name.textual_toJson)

/-- A path is read back. -/
theorem ofJson?_toJson (path : Path) : ofJson? path.toJson = some path := by
  rw [ofJson?, toJson, Value.listOf?_map fun name _ => name.ofJson?_toJson]
  rfl

/-- A path is written no deeper than it is read. -/
theorem nesting_le_of_ofJson? {value : Value} {path : Path} (ran : ofJson? value = some path) :
    path.toJson.nesting ≤ value.nesting := by
  obtain ⟨names, list, same⟩ := Option.bind_eq_some_iff.1 ran
  cases same
  exact nesting_list_le (fun inner name => Name.nesting_le_of_ofJson?) list

end Path

namespace QualifiedName

/-- A qualified name is written with texts. -/
theorem textual_toJson (name : QualifiedName) : Textual name.toJson := by
  refine .ofFields ?_
  simp [Path.textual_toJson, Name.textual_toJson]

/-- A qualified name is read back. -/
theorem ofJson?_toJson (name : QualifiedName) : ofJson? name.toJson = some name := by
  rw [ofJson?, toJson, Value.fields?_ofFields (by simp)]
  simp [List.lookup_cons, Path.ofJson?_toJson, Name.ofJson?_toJson]

/-- A qualified name is written no deeper than it is read. -/
theorem nesting_le_of_ofJson? {value : Value} {name : QualifiedName}
    (ran : ofJson? value = some name) : name.toJson.nesting ≤ value.nesting := by
  obtain ⟨fields, record, ran⟩ := Option.bind_eq_some_iff.1 ran
  split at ran
  · next package module last =>
    obtain ⟨packagePath, package, ran⟩ := Option.bind_eq_some_iff.1 ran
    obtain ⟨modulePath, module, ran⟩ := Option.bind_eq_some_iff.1 ran
    obtain ⟨localName, last, same⟩ := Option.bind_eq_some_iff.1 ran
    cases same
    have first := Nat.lt_of_le_of_lt (Path.nesting_le_of_ofJson? package)
      (Value.nesting_lt_of_fields? record (by simp))
    have second := Nat.lt_of_le_of_lt (Path.nesting_le_of_ofJson? module)
      (Value.nesting_lt_of_fields? record (by simp))
    have third := Nat.lt_of_le_of_lt (Name.nesting_le_of_ofJson? last)
      (Value.nesting_lt_of_fields? record (by simp))
    refine Value.nesting_ofFields_le_iff.2 ⟨Nat.zero_lt_of_lt first, ?_⟩
    simpa using ⟨first, second, third⟩
  · contradiction

end QualifiedName

section Members

variable {α : Type} {read : Value → Option α} {value : Value}

/-- A name with something under a second field is read back. -/
theorem memberOfJson?_ofFields {field : String} (other : field ≠ "name") (name : Name)
    {inner : Value} {found : α} (reads : read inner = some found) :
    memberOfJson? field read (.ofFields [("name", name.toJson), (field, inner)]) =
      some (name, found) := by
  have differs : (field == "name") = false := beq_false_of_ne other
  rw [memberOfJson?, Value.fields?_ofFields (by simpa using other.symm)]
  simp [List.lookup_cons, differs, Name.ofJson?_toJson, reads]

/-- What is read as a name with something under a second field holds both inside. -/
theorem exists_of_memberOfJson? {field : String} {name : Name} {found : α}
    (ran : memberOfJson? field read value = some (name, found)) :
    name.toJson.nesting < value.nesting ∧
      ∃ inner : Value, inner.nesting < value.nesting ∧ read inner = some found := by
  obtain ⟨fields, record, ran⟩ := Option.bind_eq_some_iff.1 ran
  split at ran
  · next first second =>
    obtain ⟨name, named, ran⟩ := Option.bind_eq_some_iff.1 ran
    obtain ⟨found, reads, same⟩ := Option.bind_eq_some_iff.1 ran
    cases same
    refine ⟨?_, second, Value.nesting_lt_of_fields? record (by simp), reads⟩
    exact Nat.lt_of_le_of_lt (Name.nesting_le_of_ofJson? named)
      (Value.nesting_lt_of_fields? record (by simp))
  · contradiction

/-- Something with an access is read back. -/
theorem accessOfJson?_wrap (inside : Bool) (access : Access) {inner : Value} {found : α}
    (reads : read inner = some found) :
    accessOfJson? inside read (access.wrap inner) = some (access, found) := by
  rw [accessOfJson?, Access.wrap, Value.fields?_ofFields (by simp)]
  cases access <;>
    simp [List.lookup_cons, Access.ofJson?, Access.ofWord?, Access.word, Value.text, reads]

/-- What is read as something with an access holds it inside. -/
theorem exists_of_accessOfJson? {inside : Bool} {access : Access} {found : α}
    (ran : accessOfJson? inside read value = some (access, found)) :
    ∃ inner : Value, inner.nesting < value.nesting ∧ read inner = some found := by
  obtain ⟨fields, record, ran⟩ := Option.bind_eq_some_iff.1 ran
  split at ran
  · next first second =>
    obtain ⟨access, -, ran⟩ := Option.bind_eq_some_iff.1 ran
    obtain ⟨found, reads, same⟩ := Option.bind_eq_some_iff.1 ran
    cases same
    exact ⟨second, Value.nesting_lt_of_fields? record (by simp), reads⟩
  · contradiction

/-- Something with documentation is read back, whether the documentation is written or left
out. -/
theorem documentedOfJson?_documentedToJson (doc : String) {inner : Value} {found : α}
    (reads : read inner = some found) :
    documentedOfJson? read (documentedToJson doc inner) = some (doc, found) := by
  by_cases empty : doc = ""
  · subst empty
    rw [documentedOfJson?, documentedToJson, if_pos rfl, Value.fields?_ofFields (by simp)]
    simp [List.lookup_cons, reads]
  · rw [documentedOfJson?, documentedToJson, if_neg empty, Value.fields?_ofFields (by simp)]
    simp [List.lookup_cons, Value.text, Value.text?, reads]

/-- What is read as something with documentation is read from a value. -/
theorem exists_of_documentedOfJson? {doc : String} {found : α}
    (ran : documentedOfJson? read value = some (doc, found)) :
    ∃ inner : Value, read inner = some found := by
  obtain ⟨fields, record, ran⟩ := Option.bind_eq_some_iff.1 ran
  split at ran
  · next first second =>
    have reads : ∃ text : Option String, (text.bind fun doc => (read second).bind fun found =>
        some (doc, found)) = some (doc, found) := by
      cases first with
      | none => exact ⟨some "", ran⟩
      | some first => exact ⟨first.text?, ran⟩
    obtain ⟨text, ran⟩ := reads
    obtain ⟨doc, -, ran⟩ := Option.bind_eq_some_iff.1 ran
    obtain ⟨found, reads, same⟩ := Option.bind_eq_some_iff.1 ran
    cases same
    exact ⟨second, reads⟩
  · contradiction

end Members

namespace TypeExpr

/-- Types of a list are written one by one. -/
theorem listToJson_eq_map (types : List TypeExpr) : listToJson types = types.map toJson := by
  induction types with
  | nil => rfl
  | cons first rest ih => rw [listToJson, ih, List.map_cons]

/-- Fields of a record are written one by one. -/
theorem fieldsToJson_eq_map (fields : List (Name × TypeExpr)) :
    fieldsToJson fields = fields.map fun (name, type) => memberToJson name type.toJson := by
  induction fields with
  | nil => rfl
  | cons first rest ih => rw [fieldsToJson, ih, List.map_cons]

/-- A name with a type is written with texts if the type is. -/
theorem textual_memberToJson (name : Name) {type : Value} (textual : Textual type) :
    Textual (memberToJson name type) :=
  .ofFields (by simp [name.textual_toJson, textual])

mutual
/-- A type is written with texts. -/
theorem textual_toJson (type : TypeExpr) : Textual type.toJson := by
  cases type with
  | var name => exact .ofFields (by simp [Textual.text, name.textual_toJson])
  | reference name parameters =>
    have parameters := Textual.array (textual_listToJson parameters)
    exact .ofFields (by simp [Textual.text, name.textual_toJson, parameters])
  | tuple elements =>
    have elements := Textual.array (textual_listToJson elements)
    exact .ofFields (by simp [Textual.text, elements])
  | record fields =>
    have fields := Textual.array (textual_fieldsToJson fields)
    exact .ofFields (by simp [Textual.text, fields])
  | unit => exact .ofFields (by simp [Textual.text])
/-- The types of a list are written with texts. -/
theorem textual_listToJson (types : List TypeExpr) :
    ∀ value ∈ listToJson types, Textual value := by
  cases types with
  | nil => exact nofun
  | cons first rest =>
    exact List.forall_mem_cons.2 ⟨textual_toJson first, textual_listToJson rest⟩
/-- The fields of a record are written with texts. -/
theorem textual_fieldsToJson (fields : List (Name × TypeExpr)) :
    ∀ value ∈ fieldsToJson fields, Textual value := by
  match fields with
  | [] => exact nofun
  | (name, type) :: rest =>
    have first := textual_memberToJson name (textual_toJson type)
    exact List.forall_mem_cons.2 ⟨first, textual_fieldsToJson rest⟩
end

/-- Each type of a list that is written within some levels is read back if types are that nest
less deep. -/
theorem listOf?_listToJson {read : Value → Option TypeExpr} {levels : Nat}
    (each : ∀ type : TypeExpr, type.toJson.nesting < levels → read type.toJson = some type)
    {types : List TypeExpr} (shallow : (Value.array (listToJson types)).nesting ≤ levels) :
    (Value.array (listToJson types)).listOf? read = some types := by
  rw [listToJson_eq_map] at shallow ⊢
  have inside := (Value.nesting_array_le_iff.1 shallow).2
  exact Value.listOf?_map fun type listed =>
    each type (inside _ (List.mem_map_of_mem listed))

/-- Members that are written within some levels are read back if types are that nest two levels
less deep. -/
theorem listOf?_membersToJson {read : Value → Option TypeExpr} {levels : Nat}
    (each : ∀ type : TypeExpr, type.toJson.nesting + 1 < levels → read type.toJson = some type)
    {members : List (Name × TypeExpr)} (shallow : (membersToJson members).nesting ≤ levels) :
    (membersToJson members).listOf? (memberOfJson? "tpe" read) = some members := by
  have inside := (Value.nesting_array_le_iff.1 shallow).2
  refine Value.listOf?_map ?_
  rintro ⟨name, type⟩ listed
  have outer : (memberToJson name type.toJson).nesting < levels :=
    inside _ (List.mem_map_of_mem listed)
  have inner : type.toJson.nesting < (memberToJson name type.toJson).nesting :=
    Value.nesting_lt_ofFields "tpe" (by simp)
  exact memberOfJson?_ofFields (by decide) name (each type (Nat.lt_of_le_of_lt inner outer))

/-- A type is read back within as many levels as it nests. -/
theorem ofJsonWithin?_toJson {type : TypeExpr} {fuel : Nat} (inside : Bool)
    (shallow : type.toJson.nesting ≤ fuel) :
    ofJsonWithin? fuel inside type.toJson = some type := by
  induction fuel generalizing type inside with
  | zero =>
    cases type <;> exact absurd (Value.nesting_ofFields_le_iff.1 shallow).1 (Nat.lt_irrefl 0)
  | succ fuel ih =>
    have each (type : TypeExpr) (below : type.toJson.nesting < fuel) :
        ofJsonWithin? fuel true type.toJson = some type :=
      ih true (Nat.le_of_lt below)
    cases type with
    | var name =>
      rw [toJson, ofJsonWithin?, Value.tagged?_ofFields (by simp)]
      simp [tagOfJson?, Value.text, tags, Value.fields?_ofFields, List.lookup_cons,
        Name.ofJson?_toJson]
    | reference name parameters =>
      have written : (Value.array (listToJson parameters)).nesting < fuel + 1 :=
        Nat.lt_of_lt_of_le (Value.nesting_lt_ofFields "params" (by simp)) shallow
      have list := listOf?_listToJson each (Nat.le_of_lt_succ written)
      rw [toJson, ofJsonWithin?, Value.tagged?_ofFields (by simp)]
      simp [tagOfJson?, Value.text, tags, Value.fields?_ofFields, List.lookup_cons,
        QualifiedName.ofJson?_toJson, list]
    | tuple elements =>
      have written : (Value.array (listToJson elements)).nesting < fuel + 1 :=
        Nat.lt_of_lt_of_le (Value.nesting_lt_ofFields "elements" (by simp)) shallow
      have list := listOf?_listToJson each (Nat.le_of_lt_succ written)
      rw [toJson, ofJsonWithin?, Value.tagged?_ofFields (by simp)]
      simp [tagOfJson?, Value.text, tags, Value.fields?_ofFields, List.lookup_cons, list]
    | record members =>
      rw [toJson, fieldsToJson_eq_map] at shallow ⊢
      have written : (membersToJson members).nesting < fuel + 1 :=
        Nat.lt_of_lt_of_le (Value.nesting_lt_ofFields "fields" (by simp [membersToJson])) shallow
      have list := listOf?_membersToJson (fun type below => each type (Nat.lt_of_succ_lt below))
        (Nat.le_of_lt_succ written)
      rw [ofJsonWithin?, Value.tagged?_ofFields (by simp)]
      simp only [membersToJson] at list
      simp [tagOfJson?, Value.text, tags, Value.fields?_ofFields, List.lookup_cons, list]
    | unit =>
      rw [toJson, ofJsonWithin?, Value.tagged?_ofFields (by simp)]
      simp [tagOfJson?, Value.text, tags, Value.fields?_ofFields]

/-- Members are written no deeper than they are read, if types are. -/
theorem nesting_membersToJson_le {read : Value → Option TypeExpr}
    (each : ∀ inner type, read inner = some type → type.toJson.nesting ≤ inner.nesting)
    {value : Value} {members : List (Name × TypeExpr)}
    (ran : value.listOf? (memberOfJson? "tpe" read) = some members) :
    (membersToJson members).nesting ≤ value.nesting := by
  refine nesting_list_le (fun outer member found => ?_) ran
  obtain ⟨name, type⟩ := member
  obtain ⟨first, inner, below, found⟩ := exists_of_memberOfJson? found
  have second := Nat.lt_of_le_of_lt (each inner type found) below
  refine Value.nesting_ofFields_le_iff.2 ⟨Nat.zero_lt_of_lt first, ?_⟩
  simpa using ⟨first, second⟩

/-- A type is written no deeper than it is read, for a record that is an array of its fields nests
as deep as one that is an object. -/
theorem nesting_le_of_ofJsonWithin? {fuel : Nat} {inside : Bool} {value : Value}
    {type : TypeExpr} (ran : ofJsonWithin? fuel inside value = some type) :
    type.toJson.nesting ≤ value.nesting := by
  induction fuel generalizing inside value type with
  | zero => contradiction
  | succ fuel ih =>
    obtain ⟨⟨tag, content⟩, tagged, ran⟩ := Option.bind_eq_some_iff.1 ran
    obtain ⟨word, -, ran⟩ := Option.bind_eq_some_iff.1 ran
    obtain ⟨positive, bound⟩ := Value.nesting_le_of_tagged? tagged
    have nonzero : 0 < value.nesting := Nat.lt_of_lt_of_le positive bound
    split at ran
    · obtain ⟨fields, found, ran⟩ := Option.bind_eq_some_iff.1 ran
      split at ran
      · next first =>
        obtain ⟨name, named, same⟩ := Option.bind_eq_some_iff.1 ran
        cases same
        have written := Nat.lt_of_le_of_lt (Name.nesting_le_of_ofJson? named)
          (Value.nesting_lt_of_tagged? tagged found List.mem_cons_self)
        exact Value.nesting_ofFields_le_iff.2 ⟨nonzero, by simpa using ⟨nonzero, written⟩⟩
      · contradiction
    · obtain ⟨fields, found, ran⟩ := Option.bind_eq_some_iff.1 ran
      split at ran
      · next first second =>
        obtain ⟨name, named, ran⟩ := Option.bind_eq_some_iff.1 ran
        obtain ⟨parameters, list, same⟩ := Option.bind_eq_some_iff.1 ran
        cases same
        have head := Nat.lt_of_le_of_lt (QualifiedName.nesting_le_of_ofJson? named)
          (Value.nesting_lt_of_tagged? tagged found (by simp))
        have tail := Nat.lt_of_le_of_lt (nesting_list_le (fun _ _ => ih) list)
          (Value.nesting_lt_of_tagged? tagged found (by simp))
        rw [← listToJson_eq_map] at tail
        exact Value.nesting_ofFields_le_iff.2 ⟨nonzero, by simpa using ⟨nonzero, head, tail⟩⟩
      · contradiction
    · obtain ⟨fields, found, ran⟩ := Option.bind_eq_some_iff.1 ran
      split at ran
      · next first =>
        obtain ⟨elements, list, same⟩ := Option.bind_eq_some_iff.1 ran
        cases same
        have written := Nat.lt_of_le_of_lt (nesting_list_le (fun _ _ => ih) list)
          (Value.nesting_lt_of_tagged? tagged found (by simp))
        rw [← listToJson_eq_map] at written
        exact Value.nesting_ofFields_le_iff.2 ⟨nonzero, by simpa using ⟨nonzero, written⟩⟩
      · contradiction
    · obtain ⟨fields, found, ran⟩ := Option.bind_eq_some_iff.1 ran
      split at ran
      · next first =>
        obtain ⟨members, list, same⟩ := Option.bind_eq_some_iff.1 ran
        cases same
        have written := Nat.lt_of_le_of_lt (nesting_membersToJson_le (fun _ _ => ih) list)
          (Value.nesting_lt_of_tagged? tagged found (by simp))
        rw [membersToJson, ← fieldsToJson_eq_map] at written
        exact Value.nesting_ofFields_le_iff.2 ⟨nonzero, by simpa using ⟨nonzero, written⟩⟩
      · contradiction
    · obtain ⟨fields, found, same⟩ := Option.bind_eq_some_iff.1 ran
      cases same
      exact Value.nesting_ofFields_le_iff.2 ⟨nonzero, by simpa using nonzero⟩

/-- A type that stands inside another choice is read back if it nests no deeper than the limit. -/
theorem ofJsonInside?_toJson {type : TypeExpr} (shallow : type.toJson.nesting ≤ Json.nestingLimit) :
    ofJsonInside? type.toJson = some type :=
  ofJsonWithin?_toJson true shallow

/-- A type that stands in no other choice is read back if it nests no deeper than is left. -/
theorem ofJson?_toJson {depth : Nat} {type : TypeExpr}
    (shallow : type.toJson.nesting ≤ Json.nestingLimit - depth) :
    TypeExpr.ofJson? depth type.toJson = some type := by
  rw [TypeExpr.ofJson?, if_pos (type.textual_toJson.isPlain shallow)]
  exact ofJsonWithin?_toJson false (Nat.le_trans shallow (Nat.sub_le _ _))

/-- A type that stands in no other choice nests no deeper than is left. -/
theorem nesting_le_of_ofJson? {depth : Nat} {value : Value} {type : TypeExpr}
    (ran : TypeExpr.ofJson? depth value = some type) :
    type.toJson.nesting ≤ Json.nestingLimit - depth := by
  rw [TypeExpr.ofJson?] at ran
  split at ran
  · next plain =>
    exact Nat.le_trans (nesting_le_of_ofJsonWithin? ran) (Value.nesting_le_of_isPlain plain)
  · contradiction

end TypeExpr

end WitBridge.Ir
