import WitBridge.Proofs.Ir.TypeCodec

/-!
# Modules as JSON are read back

What is written for a module is textual and is read as the module, as long as it nests no deeper
than the reader allows. And whatever spelling a module is read from, what is written for it nests
no deeper than the limit: the choices in it are checked as a whole when they are read, and around
them the levels of a module are fixed. So a module that is read once is read again from what is
written for it.
-/
namespace WitBridge.Ir

open Json (Value Textual)

/-- Members are written with texts. -/
theorem textual_membersToJson (members : List (Name × TypeExpr)) :
    Textual (membersToJson members) :=
  .array (List.forall_mem_map.2 fun (name, type) _ =>
    TypeExpr.textual_memberToJson name type.textual_toJson)

/-- Something textual with an access is textual. -/
theorem Access.textual_wrap (access : Access) {value : Value} (textual : Textual value) :
    Textual (access.wrap value) :=
  .ofFields (by simp [Textual.text, textual])

/-- An access adds one level. -/
theorem Access.nesting_wrap (access : Access) (value : Value) :
    (access.wrap value).nesting = value.nesting + 1 := by
  simp [Access.wrap, Value.ofFields, Value.nesting, Value.nestingMembers]

/-- Something textual with documentation is textual. -/
theorem textual_documentedToJson (doc : String) {value : Value} (textual : Textual value) :
    Textual (documentedToJson doc value) := by
  refine .ofFields ?_
  split <;> simp [Textual.text, textual]

/-- Documentation adds one level. -/
theorem nesting_documentedToJson (doc : String) (value : Value) :
    (documentedToJson doc value).nesting = value.nesting + 1 := by
  rw [documentedToJson]
  split <;> simp [Value.ofFields, Value.nesting, Value.nestingMembers]

namespace Constructor

/-- A constructor is written with texts. -/
theorem textual_toJson (constructor : Constructor) : Textual constructor.toJson :=
  .ofFields (by simp [Name.textual_toJson, textual_membersToJson])

/-- A constructor is read back. -/
theorem ofJson?_toJson {constructor : Constructor}
    (shallow : constructor.toJson.nesting ≤ Json.nestingLimit) :
    ofJson? constructor.toJson = some constructor := by
  have written : (membersToJson constructor.arguments).nesting < constructor.toJson.nesting :=
    Value.nesting_lt_ofFields "args" (by simp)
  have arguments := TypeExpr.listOf?_membersToJson
    (fun type below => TypeExpr.ofJsonInside?_toJson (Nat.le_of_lt (Nat.lt_of_succ_lt below)))
    (Nat.le_trans (Nat.le_of_lt written) shallow)
  rw [ofJson?, toJson, memberOfJson?_ofFields (by decide) _ arguments]
  rfl

/-- A constructor is written no deeper than it is read. -/
theorem nesting_le_of_ofJson? {value : Value} {constructor : Constructor}
    (ran : ofJson? value = some constructor) : constructor.toJson.nesting ≤ value.nesting := by
  obtain ⟨⟨name, arguments⟩, member, same⟩ := Option.bind_eq_some_iff.1 ran
  cases same
  obtain ⟨first, inner, below, list⟩ := exists_of_memberOfJson? member
  have second := Nat.lt_of_le_of_lt (TypeExpr.nesting_membersToJson_le
    (fun _ _ => TypeExpr.nesting_le_of_ofJsonWithin?) list) below
  exact Value.nesting_ofFields_le_iff.2
    ⟨Nat.zero_lt_of_lt first, by simpa using ⟨first, second⟩⟩

end Constructor

namespace TypeBody

/-- A definition is written with texts. -/
theorem textual_toJson (parameters : List Name) (body : TypeBody) :
    Textual (body.toJson parameters) := by
  have names : Textual (.array (parameters.map Name.toJson)) :=
    .array (List.forall_mem_map.2 fun name _ => name.textual_toJson)
  cases body with
  | synonym target => exact .ofFields (by simp [Textual.text, names, target.textual_toJson])
  | custom access constructors =>
    have list : Textual (.array (constructors.map Constructor.toJson)) :=
      .array (List.forall_mem_map.2 fun constructor _ => constructor.textual_toJson)
    exact .ofFields (by simp [Textual.text, names, access.textual_wrap list])

/-- A definition is read back if it nests no deeper than is left. -/
theorem ofJson?_toJson {depth : Nat} {parameters : List Name} {body : TypeBody}
    (shallow : (body.toJson parameters).nesting ≤ Json.nestingLimit - depth) :
    ofJson? depth (body.toJson parameters) = some (parameters, body) := by
  have plain := (body.textual_toJson parameters).isPlain shallow
  have within := Nat.le_trans shallow (Nat.sub_le _ _)
  have names : (Value.array (parameters.map Name.toJson)).listOf? Name.ofJson? = some parameters :=
    Value.listOf?_map fun name _ => name.ofJson?_toJson
  rw [ofJson?, plain]
  cases body with
  | synonym target =>
    have written : target.toJson.nesting < (toJson parameters (synonym target)).nesting :=
      Value.nesting_lt_ofFields "expr" (by simp)
    have read := TypeExpr.ofJsonInside?_toJson (Nat.le_trans (Nat.le_of_lt written) within)
    rw [toJson, Value.tagged?_ofFields (by simp)]
    simp [tagOfJson?, Value.text, Value.fields?_ofFields, List.lookup_cons, names, read]
  | custom access constructors =>
    have written : (access.wrap (.array (constructors.map Constructor.toJson))).nesting <
        (toJson parameters (custom access constructors)).nesting :=
      Value.nesting_lt_ofFields "constructors" (by simp)
    rw [Access.nesting_wrap] at written
    have list : (Value.array (constructors.map Constructor.toJson)).listOf? Constructor.ofJson? =
        some constructors := by
      refine Value.listOf?_map fun constructor listed => Constructor.ofJson?_toJson ?_
      have := Value.nesting_lt_array (List.mem_map_of_mem (f := Constructor.toJson) listed)
      omega
    have read := accessOfJson?_wrap true access list
    rw [toJson, Value.tagged?_ofFields (by simp)]
    simp [tagOfJson?, Value.text, Value.fields?_ofFields, List.lookup_cons, names, read]

/-- A definition nests no deeper than is left. -/
theorem nesting_le_of_ofJson? {depth : Nat} {value : Value} {parameters : List Name}
    {body : TypeBody} (ran : ofJson? depth value = some (parameters, body)) :
    (body.toJson parameters).nesting ≤ Json.nestingLimit - depth := by
  rw [ofJson?] at ran
  split at ran
  · contradiction
  · next plain =>
    refine Nat.le_trans ?_ (Value.nesting_le_of_isPlain (by simpa using plain))
    obtain ⟨⟨tag, content⟩, tagged, ran⟩ := Option.bind_eq_some_iff.1 ran
    obtain ⟨word, -, ran⟩ := Option.bind_eq_some_iff.1 ran
    obtain ⟨positive, bound⟩ := Value.nesting_le_of_tagged? tagged
    have nonzero : 0 < value.nesting := Nat.lt_of_lt_of_le positive bound
    split at ran
    · obtain ⟨fields, found, ran⟩ := Option.bind_eq_some_iff.1 ran
      split at ran
      · next first second =>
        obtain ⟨parameters, names, ran⟩ := Option.bind_eq_some_iff.1 ran
        obtain ⟨target, read, same⟩ := Option.bind_eq_some_iff.1 ran
        cases same
        have head := Nat.lt_of_le_of_lt (nesting_list_le (fun _ _ => Name.nesting_le_of_ofJson?)
          names) (Value.nesting_lt_of_tagged? tagged found (by simp))
        have tail := Nat.lt_of_le_of_lt (TypeExpr.nesting_le_of_ofJsonWithin? read)
          (Value.nesting_lt_of_tagged? tagged found (by simp))
        exact Value.nesting_ofFields_le_iff.2 ⟨nonzero, by simpa using ⟨nonzero, head, tail⟩⟩
      · contradiction
    · obtain ⟨fields, found, ran⟩ := Option.bind_eq_some_iff.1 ran
      split at ran
      · next first second =>
        obtain ⟨parameters, names, ran⟩ := Option.bind_eq_some_iff.1 ran
        obtain ⟨⟨access, constructors⟩, wrapped, same⟩ := Option.bind_eq_some_iff.1 ran
        cases same
        obtain ⟨inner, below, list⟩ := exists_of_accessOfJson? wrapped
        have head := Nat.lt_of_le_of_lt (nesting_list_le (fun _ _ => Name.nesting_le_of_ofJson?)
          names) (Value.nesting_lt_of_tagged? tagged found (by simp))
        have outer : second.nesting < value.nesting :=
          Value.nesting_lt_of_tagged? tagged found (by simp)
        have list := nesting_list_le (fun _ _ => Constructor.nesting_le_of_ofJson?) list
        have tail : (access.wrap (.array (constructors.map Constructor.toJson))).nesting <
            value.nesting := by
          rw [Access.nesting_wrap]
          omega
        exact Value.nesting_ofFields_le_iff.2 ⟨nonzero, by simpa using ⟨nonzero, head, tail⟩⟩
      · contradiction

end TypeBody

/-- A name nests one level. -/
theorem Name.nesting_toJson_le (name : Name) : name.toJson.nesting ≤ 1 :=
  Value.nesting_array_le_iff.2 ⟨Nat.one_pos, List.forall_mem_map.2 fun word _ => by simp⟩

section Entries

variable {α : Type} {read : Value → Option α} {name : Name} {access : Access} {doc : String}
  {definition : Value}

/-- A name over a definition with an access and documentation is written with texts if the
definition is. -/
theorem textual_entry (textual : Textual definition) :
    Textual (.ofFields [("name", name.toJson),
      ("definition", access.wrap (documentedToJson doc definition))]) := by
  have whole := access.textual_wrap (textual_documentedToJson doc textual)
  exact .ofFields (by simp [name.textual_toJson, whole])

/-- The definition stands three levels below its entry. -/
theorem nesting_entry_le_iff {levels : Nat} : (Value.ofFields [("name", name.toJson),
      ("definition", access.wrap (documentedToJson doc definition))]).nesting ≤ levels + 3 ↔
    definition.nesting ≤ levels := by
  have level := name.nesting_toJson_le
  rw [Value.nesting_ofFields_le_iff]
  simp only [List.forall_mem_cons, List.not_mem_nil, false_imp_iff, implies_true, and_true,
    Access.nesting_wrap, nesting_documentedToJson]
  omega

/-- An entry is read back if its definition is. -/
theorem entryOfJson?_ofFields {found : α} (reads : read definition = some found) :
    memberOfJson? "definition" (accessOfJson? false (documentedOfJson? read))
      (.ofFields [("name", name.toJson),
        ("definition", access.wrap (documentedToJson doc definition))]) =
      some (name, access, doc, found) :=
  memberOfJson?_ofFields (by decide) name
    (accessOfJson?_wrap false access (documentedOfJson?_documentedToJson doc reads))

/-- What is read as an entry has a definition that is read. -/
theorem exists_of_entryOfJson? {value : Value} {found : α}
    (ran : memberOfJson? "definition" (accessOfJson? false (documentedOfJson? read)) value =
      some (name, access, doc, found)) :
    ∃ definition : Value, read definition = some found := by
  obtain ⟨-, whole, -, ran⟩ := exists_of_memberOfJson? ran
  obtain ⟨documented, -, ran⟩ := exists_of_accessOfJson? ran
  exact exists_of_documentedOfJson? ran

end Entries

namespace TypeEntry

/-- A type entry is written with texts. -/
theorem textual_toJson (entry : TypeEntry) : Textual entry.toJson :=
  textual_entry (entry.body.textual_toJson entry.parameters)

/-- A type entry is read back if it nests no deeper than is left in the list of types. -/
theorem ofJson?_toJson {entry : TypeEntry}
    (shallow : entry.toJson.nesting ≤ Json.nestingLimit - 2) :
    ofJson? entry.toJson = some entry := by
  have body : TypeBody.ofJson? 5 (entry.body.toJson entry.parameters) =
      some (entry.parameters, entry.body) :=
    TypeBody.ofJson?_toJson (nesting_entry_le_iff.1 shallow)
  rw [ofJson?, toJson, entryOfJson?_ofFields body]
  rfl

/-- A type entry nests no deeper than is left in the list of types. -/
theorem nesting_le_of_ofJson? {value : Value} {entry : TypeEntry}
    (ran : ofJson? value = some entry) : entry.toJson.nesting ≤ Json.nestingLimit - 2 := by
  obtain ⟨⟨name, access, doc, parameters, body⟩, member, same⟩ := Option.bind_eq_some_iff.1 ran
  cases same
  obtain ⟨definition, reads⟩ := exists_of_entryOfJson? member
  exact nesting_entry_le_iff.2 (TypeBody.nesting_le_of_ofJson? reads)

end TypeEntry

section Signatures

variable {inputs : List (Name × TypeExpr)} {output : TypeExpr}

/-- Inputs and an output are written with texts. -/
theorem textual_signature (inputs : List (Name × TypeExpr)) (output : TypeExpr) :
    Textual (.ofFields [("inputs", membersToJson inputs), ("output", output.toJson)]) :=
  .ofFields (by simp [textual_membersToJson, TypeExpr.textual_toJson])

/-- Inputs and an output are read back if they nest no deeper than is left below the
documentation of a value. -/
theorem signatureOfJson?_ofFields
    (shallow : (Value.ofFields [("inputs", membersToJson inputs),
      ("output", output.toJson)]).nesting ≤ Json.nestingLimit - 5) :
    signatureOfJson? (.ofFields [("inputs", membersToJson inputs), ("output", output.toJson)]) =
      some (inputs, output) := by
  obtain ⟨-, fields⟩ := Value.nesting_ofFields_le_iff.1 shallow
  have first : (membersToJson inputs).nesting ≤ Json.nestingLimit - 6 :=
    Nat.le_of_lt_succ (fields ("inputs", _) List.mem_cons_self)
  have second : output.toJson.nesting ≤ Json.nestingLimit - 6 :=
    Nat.le_of_lt_succ (fields ("output", _) (by simp))
  have each (type : TypeExpr) (below : type.toJson.nesting + 1 < Json.nestingLimit - 6) :
      TypeExpr.ofJson? 8 type.toJson = some type :=
    TypeExpr.ofJson?_toJson (Nat.le_of_lt_succ (Nat.lt_of_succ_lt_succ below))
  have members := TypeExpr.listOf?_membersToJson each first
  have type := TypeExpr.ofJson?_toJson second
  rw [signatureOfJson?, Value.fields?_ofFields (by simp)]
  simp [List.lookup_cons, members, type]

/-- Members nest two levels deeper than their types. -/
theorem nesting_membersToJson_le {levels : Nat} {members : List (Name × TypeExpr)}
    (each : ∀ member ∈ members, member.2.toJson.nesting ≤ levels + 1) :
    (membersToJson members).nesting ≤ levels + 3 := by
  refine Value.nesting_array_le_iff.2 ⟨Nat.succ_pos _, List.forall_mem_map.2 ?_⟩
  rintro ⟨name, type⟩ listed
  have first := name.nesting_toJson_le
  have second := each _ listed
  refine Nat.lt_succ_of_le (Value.nesting_ofFields_le_iff.2 ⟨Nat.succ_pos _, ?_⟩)
  simp only [List.forall_mem_cons, List.not_mem_nil, false_imp_iff, implies_true, and_true]
    at second ⊢
  omega

/-- Inputs and an output that are read nest no deeper than is left below the documentation of a
value. -/
theorem nesting_le_of_signatureOfJson? {value : Value}
    (ran : signatureOfJson? value = some (inputs, output)) :
    (Value.ofFields [("inputs", membersToJson inputs), ("output", output.toJson)]).nesting ≤
      Json.nestingLimit - 5 := by
  obtain ⟨fields, record, ran⟩ := Option.bind_eq_some_iff.1 ran
  split at ran
  · next first second =>
    obtain ⟨inputs, list, ran⟩ := Option.bind_eq_some_iff.1 ran
    obtain ⟨output, type, same⟩ := Option.bind_eq_some_iff.1 ran
    cases same
    have each : ∀ member ∈ inputs, member.2.toJson.nesting ≤ 118 + 1 := by
      rintro ⟨name, type⟩ listed
      obtain ⟨outer, -, read⟩ := (Value.exists_of_listOf? list).2 _ listed
      obtain ⟨-, inner, -, read⟩ := exists_of_memberOfJson? read
      exact TypeExpr.nesting_le_of_ofJson? read
    have members := nesting_membersToJson_le each
    have bound := TypeExpr.nesting_le_of_ofJson? type
    refine Value.nesting_ofFields_le_iff.2 ⟨by decide, ?_⟩
    simp only [List.forall_mem_cons, List.not_mem_nil, false_imp_iff, implies_true, and_true,
      Json.nestingLimit] at bound ⊢
    omega
  · contradiction

end Signatures

namespace ValueEntry

/-- A value entry is written with texts. -/
theorem textual_toJson (entry : ValueEntry) : Textual entry.toJson :=
  textual_entry (textual_signature entry.inputs entry.output)

/-- A value entry is read back if it nests no deeper than is left in the list of values. -/
theorem ofJson?_toJson {entry : ValueEntry}
    (shallow : entry.toJson.nesting ≤ Json.nestingLimit - 2) :
    ofJson? entry.toJson = some entry := by
  have signature : signatureOfJson? (.ofFields [("inputs", membersToJson entry.inputs),
      ("output", entry.output.toJson)]) = some (entry.inputs, entry.output) :=
    signatureOfJson?_ofFields (nesting_entry_le_iff.1 shallow)
  rw [ofJson?, toJson, entryOfJson?_ofFields signature]
  rfl

/-- A value entry nests no deeper than is left in the list of values. -/
theorem nesting_le_of_ofJson? {value : Value} {entry : ValueEntry}
    (ran : ofJson? value = some entry) : entry.toJson.nesting ≤ Json.nestingLimit - 2 := by
  obtain ⟨⟨name, access, doc, inputs, output⟩, member, same⟩ := Option.bind_eq_some_iff.1 ran
  cases same
  obtain ⟨definition, reads⟩ := exists_of_entryOfJson? member
  exact nesting_entry_le_iff.2 (nesting_le_of_signatureOfJson? reads)

end ValueEntry

namespace Module

/-- A module is written with texts. -/
theorem textual_toJson (module : Module) : Textual module.toJson := by
  have types : Textual (.array (module.types.map TypeEntry.toJson)) :=
    .array (List.forall_mem_map.2 fun entry _ => entry.textual_toJson)
  have values : Textual (.array (module.values.map ValueEntry.toJson)) :=
    .array (List.forall_mem_map.2 fun entry _ => entry.textual_toJson)
  refine .ofFields ?_
  cases module.doc <;> simp [Textual.text, types, values]

/-- A module is read back if it nests no deeper than the limit. -/
theorem ofJson?_toJson {module : Module} (shallow : module.toJson.nesting ≤ Json.nestingLimit) :
    ofJson? module.toJson = some module := by
  obtain ⟨-, fields⟩ := Value.nesting_ofFields_le_iff.1 shallow
  have types : (Value.array (module.types.map TypeEntry.toJson)).listOf? TypeEntry.ofJson? =
      some module.types := by
    refine Value.listOf?_map fun entry listed => TypeEntry.ofJson?_toJson ?_
    have outer := fields ("types", .array (module.types.map TypeEntry.toJson)) (by simp)
    have inner := Value.nesting_lt_array (List.mem_map_of_mem (f := TypeEntry.toJson) listed)
    simp only [Json.nestingLimit] at outer ⊢
    omega
  have values : (Value.array (module.values.map ValueEntry.toJson)).listOf? ValueEntry.ofJson? =
      some module.values := by
    refine Value.listOf?_map fun entry listed => ValueEntry.ofJson?_toJson ?_
    have outer := fields ("values", .array (module.values.map ValueEntry.toJson)) (by simp)
    have inner := Value.nesting_lt_array (List.mem_map_of_mem (f := ValueEntry.toJson) listed)
    simp only [Json.nestingLimit] at outer ⊢
    omega
  obtain ⟨typeEntries, valueEntries, doc⟩ := module
  cases doc with
  | none =>
    rw [ofJson?, toJson, Value.fields?_ofFields (by simp)]
    simp [List.lookup_cons, moduleDocOfJson?, types, values]
  | some doc =>
    rw [ofJson?, toJson, Value.fields?_ofFields (by simp)]
    simp [List.lookup_cons, moduleDocOfJson?, Value.text, Value.text?, types, values]

/-- A module that is read from any spelling nests no deeper than the limit when it is written. -/
theorem nesting_le_of_ofJson? {value : Value} {module : Module}
    (ran : ofJson? value = some module) : module.toJson.nesting ≤ Json.nestingLimit := by
  obtain ⟨fields, record, ran⟩ := Option.bind_eq_some_iff.1 ran
  split at ran
  · next first second third =>
    obtain ⟨types, typeList, ran⟩ := Option.bind_eq_some_iff.1 ran
    obtain ⟨values, valueList, ran⟩ := Option.bind_eq_some_iff.1 ran
    obtain ⟨doc, -, same⟩ := Option.bind_eq_some_iff.1 ran
    cases same
    have typeBound : (Value.array (types.map TypeEntry.toJson)).nesting < Json.nestingLimit := by
      refine Nat.lt_of_le_pred (by decide) (Value.nesting_array_le_iff.2 ⟨by decide, ?_⟩)
      refine List.forall_mem_map.2 fun entry listed => ?_
      obtain ⟨inner, -, read⟩ := (Value.exists_of_listOf? typeList).2 entry listed
      exact Nat.lt_of_le_of_lt (TypeEntry.nesting_le_of_ofJson? read) (by decide)
    have valueBound : (Value.array (values.map ValueEntry.toJson)).nesting < Json.nestingLimit := by
      refine Nat.lt_of_le_pred (by decide) (Value.nesting_array_le_iff.2 ⟨by decide, ?_⟩)
      refine List.forall_mem_map.2 fun entry listed => ?_
      obtain ⟨inner, -, read⟩ := (Value.exists_of_listOf? valueList).2 entry listed
      exact Nat.lt_of_le_of_lt (ValueEntry.nesting_le_of_ofJson? read) (by decide)
    refine Value.nesting_ofFields_le_iff.2 ⟨by decide, ?_⟩
    have positive : 0 < Json.nestingLimit := by decide
    cases doc <;> simp [typeBound, valueBound, positive]
  · contradiction

/-- A module that is written is read back if it nests no deeper than the limit. -/
theorem parse?_render_of_nesting_le {module : Module}
    (shallow : module.toJson.nesting ≤ Json.nestingLimit) :
    parse? module.render = some module := by
  rw [parse?, render, Json.parse_render module.textual_toJson]
  exact ofJson?_toJson shallow

/-- A module that is read from some text nests no deeper than the limit. -/
theorem nesting_le_of_parse? {text : String} {module : Module}
    (read : parse? text = some module) : module.toJson.nesting ≤ Json.nestingLimit := by
  obtain ⟨value, -, found⟩ := Option.bind_eq_some_iff.1 read
  exact nesting_le_of_ofJson? found

/-- A module is read back from what is written for it exactly if it stays within the limit of
nesting. Every module that is read from some text does, however the text spells its records, tags
and accesses: so what is written for it is a canonical form. -/
theorem parse?_render (module : Module) :
    (parse? module.render = some module ↔ module.toJson.nesting ≤ Json.nestingLimit) ∧
      ∀ text, parse? text = some module →
        parse? module.render = some module ∧
          (parse? module.render).map render = some module.render := by
  refine ⟨⟨nesting_le_of_parse?, parse?_render_of_nesting_le⟩, fun text read => ?_⟩
  have again := parse?_render_of_nesting_le (nesting_le_of_parse? read)
  exact ⟨again, by rw [again, Option.map_some]⟩

/-- A module that is spelled with arrays, a tag by its number, an access with null and a field that
is unknown is read again from what is written for it. -/
theorem parse?_render_arrays :
    let text := "\x7b\"more\": [0], \"values\": [], \"types\": [[[\"a\"], \x7b\"access\": "
      ++ "\x7b\"private\": null\x7d, \"value\": [\"\\u0001\", [\"TypeAlias\", [], "
      ++ "[\"Tuple\", [[4], [0, [\"\\n\"]]]]]]\x7d]]\x7d"
    let entry : TypeEntry :=
      ⟨⟨["a"]⟩, .owner, "\x01", [], .synonym (.tuple [.unit, .var ⟨["\n"]⟩])⟩
    let module : Module := ⟨[entry], [], none⟩
    parse? text = some module ∧ text ≠ module.render ∧ parse? module.render = some module := by
  intro text entry module
  have read : parse? text = some module := by decide +kernel
  exact ⟨read, by decide +kernel, ((parse?_render module).2 text read).1⟩

end Module

end WitBridge.Ir
