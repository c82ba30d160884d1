import WitBridge.Proofs.Raising.Silence

/-!
# Members of generated interfaces

Every definition, field, constructor, value and input of a module has a name, and it is raised
under the identifier that the name spells in kebab case. A name that spells none is reported, and
only its member is left out. So an interface holds the members of the module in order, except for
those that were reported. If no error was reported it holds all of them, each at its index.
-/
namespace WitBridge

namespace Raising

variable {α β : Type}

/-- The error for a name that spells no identifier. -/
def nameError (what : String) (name : Ir.Name) : Diagnostic :=
  .conversionError s!"invalid {what}: {name.camel}" .gen

/-- Two lists in step: each item of the first becomes the next one of the second or is left out of
it. -/
inductive Kept (becomes : α → β → Prop) (omitted : α → Prop) : List α → List β → Prop
  | nil : Kept becomes omitted [] []
  | keep {item : α} {made : β} {items : List α} {mades : List β} (here : becomes item made)
    (rest : Kept becomes omitted items mades) : Kept becomes omitted (item :: items) (made :: mades)
  | leave {item : α} {items : List α} {mades : List β} (here : omitted item)
    (rest : Kept becomes omitted items mades) : Kept becomes omitted (item :: items) mades

namespace Kept

variable {becomes : α → β → Prop} {omitted : α → Prop} {items : List α} {mades : List β}

/-- If no item can be left out, each becomes the one at its index. -/
theorem forall₂ (kept : Kept becomes omitted items mades) (none : ∀ item, ¬omitted item) :
    List.Forall₂ becomes items mades := by
  induction kept with
  | nil => exact .nil
  | keep here _ ih => exact .cons here ih
  | leave here _ _ => exact absurd here (none _)

/-- What is said of two lists by parts of their items is said of the lists of these parts. -/
theorem map {γ δ : Type} {becomes : γ → δ → Prop} {omitted : γ → Prop} {source : α → γ}
    {target : β → δ}
    (kept : Kept (fun item made => becomes (source item) (target made))
      (fun item => omitted (source item)) items mades) :
    Kept becomes omitted (items.map source) (mades.map target) := by
  induction kept with
  | nil => exact .nil
  | keep here _ ih => exact .keep here ih
  | leave here _ ih => exact .leave here ih

end Kept

/-- The items of a list become those that are kept of it, in order. -/
theorem kept_value {make : α → Reported (Option β)} {becomes : α → β → Prop} {omitted : α → Prop}
    (items : List α) (made : ∀ item ∈ items, ∀ made, (make item).value = some made →
      becomes item made) (missing : ∀ item ∈ items, (make item).value = none → omitted item) :
    Kept becomes omitted items (kept make items).value := by
  simp only [kept, Reported.bind_value, Reported.pure_eq, Reported.value_mapM, List.filterMap_map,
    Function.id_comp]
  induction items with
  | nil => exact .nil
  | cons first rest ih =>
    have kept := ih (fun item listed => made item (List.mem_cons_of_mem first listed))
      fun item listed => missing item (List.mem_cons_of_mem first listed)
    cases found : (make first).value with
    | none =>
      rw [List.filterMap_cons, found]
      exact .leave (missing first List.mem_cons_self found) kept
    | some value =>
      rw [List.filterMap_cons, found]
      exact .keep (made first List.mem_cons_self value found) kept

/-- What is reported of an item is reported of its list. -/
theorem subset_kept {make : α → Reported (Option β)} {items : List α} {item : α}
    (listed : item ∈ items) : (make item).diagnostics ⊆ (kept make items).diagnostics := by
  rw [diagnostics_kept]
  exact fun diagnostic reported => List.mem_flatMap.2 ⟨item, listed, reported⟩

section Names

/-- Names and the identifiers that they spell in kebab case, in order. -/
def Spelled (names : List Ir.Name) (identifiers : List Identifier) : Prop :=
  identifiers.map (·.text) = names.map (·.kebab)

/-- Names and the identifiers that they spell in kebab case, in order, except for names that are
reported. -/
def SpelledOrReported (diagnostics : List Diagnostic) (what : String) :
    List Ir.Name → List Identifier → Prop :=
  Kept (fun name identifier => identifier.text = name.kebab)
    fun name => nameError what name ∈ diagnostics

/-- If no error is reported, all names are spelled. -/
theorem SpelledOrReported.spelled {diagnostics : List Diagnostic} {what : String}
    {names : List Ir.Name} {identifiers : List Identifier}
    (spelled : SpelledOrReported diagnostics what names identifiers)
    (mild : ∀ diagnostic ∈ diagnostics, diagnostic.severity ≠ .error) :
    Spelled names identifiers := by
  have each := Kept.forall₂ spelled fun name reported => mild _ reported rfl
  have same : List.Forall₂ Eq (identifiers.map (·.text)) (names.map (·.kebab)) :=
    List.forall₂_map_left_iff.2 (List.forall₂_map_right_iff.2 each.flip)
  rwa [List.forall₂_eq_eq_eq] at same

/-- What is made of items bears the identifiers of their names: something is made of an item
exactly if its name has one, and what is reported of the name is reported of the item. -/
def Named (what : String) (source : α → Ir.Name) (identifier : β → Identifier)
    (make : α → Reported (Option β)) : Prop :=
  ∀ item, (make item).value.map identifier = (Raising.identifier what (source item)).value ∧
    (Raising.identifier what (source item)).diagnostics ⊆ (make item).diagnostics

/-- A name has the identifier that it spells in kebab case, or is reported. -/
theorem identifier_cases (what : String) (name : Ir.Name) :
    (∃ found, found.text = name.kebab ∧ identifier what name = ⟨some found, []⟩) ∨
      identifier what name = ⟨none, [nameError what name]⟩ := by
  unfold identifier
  cases read : Identifier.ofText name.kebab with
  | ok found => exact .inl ⟨found, Identifier.text_of_ofText read, rfl⟩
  | error fault => exact .inr rfl

namespace Named

variable {what : String} {source : α → Ir.Name} {identifier : β → Identifier}
  {make : α → Reported (Option β)}

/-- What is made of an item is named as the item is. -/
theorem text_eq (named : Named what source identifier make) {item : α} {made : β}
    (found : (make item).value = some made) : (identifier made).text = (source item).kebab := by
  have value := (named item).1
  rw [found] at value
  rcases identifier_cases what (source item) with ⟨spelled, same, eq⟩ | eq
  · rw [eq] at value
    exact Option.some.inj value ▸ same
  · rw [eq] at value
    contradiction

/-- If nothing is made of an item, its name is reported. -/
theorem reported (named : Named what source identifier make) {item : α}
    (missing : (make item).value = none) :
    nameError what (source item) ∈ (make item).diagnostics := by
  obtain ⟨value, within⟩ := named item
  rw [missing] at value
  rcases identifier_cases what (source item) with ⟨spelled, same, eq⟩ | eq
  · rw [eq] at value
    contradiction
  · rw [eq] at within
    exact within (List.mem_singleton_self _)

/-- What is kept of a list bears the names of its items, except for those that are reported. -/
theorem spelledOrReported (named : Named what source identifier make) {items : List α}
    {diagnostics : List Diagnostic} (within : (kept make items).diagnostics ⊆ diagnostics) :
    SpelledOrReported diagnostics what (items.map source)
      ((kept make items).value.map identifier) := by
  refine Kept.map (kept_value items (fun item _ made found => named.text_eq found) ?_)
  exact fun item listed missing => within (subset_kept listed (named.reported missing))

end Named

variable (registry : Mapping.Registry)

/-- Fields bear the identifiers of their names. -/
theorem named_field? : Named "field name" Prod.fst Field.name (field? registry) := by
  intro field
  rcases identifier_cases "field name" field.1 with ⟨found, -, eq⟩ | eq
  · simp [field?, eq]
  · simp [field?, eq]

/-- Parameters bear the identifiers of their names. -/
theorem named_parameter? :
    Named "parameter name" Prod.fst Parameter.name (parameter? registry) := by
  intro input
  rcases identifier_cases "parameter name" input.1 with ⟨found, -, eq⟩ | eq
  · simp [parameter?, eq]
  · simp [parameter?, eq]

/-- The cases of a variant bear the identifiers of the names of constructors. -/
theorem named_case? :
    Named "variant case name" Ir.Constructor.name Case.name (case? registry) := by
  rintro ⟨name, arguments⟩
  rcases identifier_cases "variant case name" name with ⟨found, -, eq⟩ | eq
  · cases arguments <;> simp [case?, eq]
  · simp [case?, eq]

/-- The cases of an enumeration are the identifiers of the names of constructors. -/
theorem named_identifier :
    Named "enum case name" Ir.Constructor.name id
      fun constructor => Raising.identifier "enum case name" constructor.name :=
  fun _ => ⟨Option.map_id_apply, List.Subset.refl _⟩

/-- Type definitions bear the identifiers of their names. -/
theorem named_typeDefinition? :
    Named "identifier" Ir.TypeEntry.name TypeDefinition.name (typeDefinition? registry) := by
  intro entry
  rcases identifier_cases "identifier" entry.name with ⟨found, -, eq⟩ | eq
  · simp [typeDefinition?, eq]
  · simp [typeDefinition?, eq]

/-- Functions bear the identifiers of their names. -/
theorem named_function? :
    Named "function name" Ir.ValueEntry.name Function.name (function? registry) := by
  intro entry
  rcases identifier_cases "function name" entry.name with ⟨found, -, eq⟩ | eq
  · simp [function?, eq]
  · simp [function?, eq]

end Names

end Raising

namespace Ir

open Raising (Kept Spelled SpelledOrReported nameError)

/-- A definition of the sort of a body, with its members: they have identifiers for their names, as
far as a relation between the two asks for them. -/
def TypeBody.Becomes (named : String → List Name → List Identifier → Prop) :
    TypeBody → Definition → Prop
  | synonym (.record fields), .record made =>
    named "field name" (fields.map Prod.fst) (made.map Field.name)
  | synonym (.record _), _ => False
  | synonym _, .synonym _ => True
  | custom _ constructors, .enum made =>
    named "enum case name" (constructors.map Constructor.name) made
  | custom _ constructors, .variant made =>
    named "variant case name" (constructors.map Constructor.name) (made.map Case.name)
  | _, _ => False

/-- A type definition under the kebab case of its name, with its members. -/
structure TypeEntry.Becomes (named : String → List Name → List Identifier → Prop)
    (entry : TypeEntry) (definition : TypeDefinition) : Prop where
  name : definition.name.text = entry.name.kebab
  body : entry.body.Becomes named definition.body

/-- A function under the kebab case of its name, with its parameters. -/
structure ValueEntry.Becomes (named : String → List Name → List Identifier → Prop)
    (entry : ValueEntry) (function : Function) : Prop where
  name : function.name.text = entry.name.kebab
  inputs : named "parameter name" (entry.inputs.map Prod.fst) (function.parameters.map (·.name))

/-- A type that is left out is reported, and so are those of its members whose names spell no
identifiers. -/
structure TypeEntry.Omitted (diagnostics : List Diagnostic) (entry : TypeEntry) : Prop where
  name : nameError "identifier" entry.name ∈ diagnostics
  body : ∃ definition, entry.body.Becomes (SpelledOrReported diagnostics) definition

/-- A value that is left out is reported, and so are those of its inputs whose names spell no
identifiers. -/
structure ValueEntry.Omitted (diagnostics : List Diagnostic) (entry : ValueEntry) : Prop where
  name : nameError "function name" entry.name ∈ diagnostics
  inputs : ∃ identifiers,
    SpelledOrReported diagnostics "parameter name" (entry.inputs.map Prod.fst) identifiers

/-- An interface with the types and values of a module and their members, all in order, except for
those that are reported. -/
structure Module.Accounted (diagnostics : List Diagnostic) (module : Module)
    (interface : Interface) : Prop where
  types : Kept (TypeEntry.Becomes (SpelledOrReported diagnostics))
    (TypeEntry.Omitted diagnostics) module.types interface.types
  values : Kept (ValueEntry.Becomes (SpelledOrReported diagnostics))
    (ValueEntry.Omitted diagnostics) module.values interface.functions

/-- An interface with all types and values of a module at their indices, and all their members. -/
structure Module.Complete (module : Module) (interface : Interface) : Prop where
  types : List.Forall₂ (TypeEntry.Becomes fun _ => Spelled) module.types interface.types
  values : List.Forall₂ (ValueEntry.Becomes fun _ => Spelled) module.values interface.functions

/-- A body becomes what it becomes under a weaker relation of names. -/
theorem TypeBody.Becomes.imp {named weaker : String → List Name → List Identifier → Prop}
    (weakens : ∀ what names identifiers, named what names identifiers →
      weaker what names identifiers)
    {body : TypeBody} {definition : Definition} (becomes : body.Becomes named definition) :
    body.Becomes weaker definition := by
  unfold TypeBody.Becomes at becomes ⊢
  split at becomes <;> first | exact weakens _ _ _ becomes | exact becomes

/-- If no error is reported, nothing is left out. -/
theorem Module.Accounted.complete {diagnostics : List Diagnostic} {module : Module}
    {interface : Interface} (accounted : module.Accounted diagnostics interface)
    (mild : ∀ diagnostic ∈ diagnostics, diagnostic.severity ≠ .error) :
    module.Complete interface := by
  constructor
  case types =>
    have each := accounted.types.forall₂ fun entry left => mild _ left.name rfl
    refine each.imp fun entry definition becomes => ⟨becomes.name, becomes.body.imp ?_⟩
    exact fun _ _ _ spelled => spelled.spelled mild
  case values =>
    have each := accounted.values.forall₂ fun entry left => mild _ left.name rfl
    exact each.imp fun entry function becomes => ⟨becomes.name, becomes.inputs.spelled mild⟩

end Ir

namespace Raising

open Ir (TypeBody TypeEntry ValueEntry)

variable (registry : Mapping.Registry) {diagnostics : List Diagnostic}

/-- A body becomes a definition with its members, except for those that are reported. -/
theorem becomes_body (body : TypeBody)
    (within : (Raising.body registry body).diagnostics ⊆ diagnostics) :
    body.Becomes (SpelledOrReported diagnostics) (Raising.body registry body).value := by
  -- What the definition reports is what its members report.
  cases body with
  | synonym target =>
    cases target with
    | record fields =>
      have fieldsWithin : (kept (field? registry) fields).diagnostics ⊆ diagnostics := by
        simpa [Raising.body] using within
      exact (named_field? registry).spelledOrReported fieldsWithin
    | var | reference | tuple | unit => trivial
  | custom access constructors =>
    simp only [Raising.body] at within ⊢
    by_cases bare : constructors.all (·.arguments.isEmpty) = true
    · rw [if_pos bare] at within ⊢
      have casesWithin : (kept (fun constructor => identifier "enum case name" constructor.name)
          constructors).diagnostics ⊆ diagnostics := by simpa using within
      have spelled := named_identifier.spelledOrReported casesWithin
      rwa [List.map_id] at spelled
    · rw [if_neg bare] at within ⊢
      have casesWithin : (kept (case? registry) constructors).diagnostics ⊆ diagnostics := by
        simpa using within
      exact (named_case? registry).spelledOrReported casesWithin

/-- The diagnostics of a body are among those of its type definition. -/
theorem body_subset (entry : TypeEntry) :
    (Raising.body registry entry.body).diagnostics ⊆
      (typeDefinition? registry entry).diagnostics := by
  rw [typeDefinition?, Reported.bind_diagnostics]
  exact List.subset_append_left _ _

/-- The diagnostics of the parameters are among those of their function. -/
theorem parameters_subset (entry : ValueEntry) :
    (kept (parameter? registry) entry.inputs).diagnostics ⊆
      (function? registry entry).diagnostics := by
  rw [function?, Reported.bind_diagnostics]
  exact List.subset_append_left _ _

/-- The types of a module become type definitions with their members, all in order, except for those
that are reported. -/
theorem kept_typeDefinition? (entries : List TypeEntry)
    (within : (kept (typeDefinition? registry) entries).diagnostics ⊆ diagnostics) :
    Kept (TypeEntry.Becomes (SpelledOrReported diagnostics)) (TypeEntry.Omitted diagnostics) entries
      (kept (typeDefinition? registry) entries).value := by
  have each : ∀ entry ∈ entries, (typeDefinition? registry entry).diagnostics ⊆ diagnostics :=
    fun entry listed => List.Subset.trans (subset_kept listed) within
  have body : ∀ entry ∈ entries, entry.body.Becomes (SpelledOrReported diagnostics)
      (Raising.body registry entry.body).value := fun entry listed =>
    becomes_body registry entry.body (List.Subset.trans (body_subset registry entry)
      (each entry listed))
  have named := named_typeDefinition? registry
  refine kept_value entries (fun entry listed definition made => ?_) fun entry listed missing => ?_
  · have same : definition.body = (Raising.body registry entry.body).value := by
      simp only [typeDefinition?, Reported.bind_value, Reported.pure_eq] at made
      obtain ⟨name, -, rfl⟩ := Option.map_eq_some_iff.1 made
      rfl
    exact ⟨named.text_eq made, same ▸ body entry listed⟩
  · exact ⟨each entry listed (named.reported missing), _, body entry listed⟩

/-- The values of a module become functions with their parameters, all in order, except for those
that are reported. -/
theorem kept_function? (entries : List ValueEntry)
    (within : (kept (function? registry) entries).diagnostics ⊆ diagnostics) :
    Kept (ValueEntry.Becomes (SpelledOrReported diagnostics)) (ValueEntry.Omitted diagnostics)
      entries (kept (function? registry) entries).value := by
  have each : ∀ entry ∈ entries, (function? registry entry).diagnostics ⊆ diagnostics :=
    fun entry listed => List.Subset.trans (subset_kept listed) within
  have inputs : ∀ entry ∈ entries, SpelledOrReported diagnostics "parameter name"
      (entry.inputs.map Prod.fst)
      ((kept (parameter? registry) entry.inputs).value.map Parameter.name) := fun entry listed =>
    (named_parameter? registry).spelledOrReported
      (List.Subset.trans (parameters_subset registry entry) (each entry listed))
  have named := named_function? registry
  refine kept_value entries (fun entry listed function made => ?_) fun entry listed missing => ?_
  · have same : function.parameters = (kept (parameter? registry) entry.inputs).value := by
      simp only [function?, Reported.bind_value, Reported.pure_eq] at made
      obtain ⟨name, -, rfl⟩ := Option.map_eq_some_iff.1 made
      rfl
    exact ⟨named.text_eq made, same ▸ inputs entry listed⟩
  · exact ⟨each entry listed (named.reported missing), _, inputs entry listed⟩

/-- Whatever the mappings, a module becomes one interface with its types and values and their
members, all in order and under the kebab case of their names, except for those that an error names.
If no error is reported, every one is there at its index. -/
theorem accounted_package (module : Ir.Module) :
    ∃ interface, (Raising.package registry module).value.interfaces = [interface] ∧
      module.Accounted (Raising.package registry module).diagnostics interface ∧
      ((Raising.package registry module).Mild → module.Complete interface) := by
  have accounted : module.Accounted (Raising.package registry module).diagnostics
      { name := ⟨false, generated⟩
        types := (kept (typeDefinition? registry) module.types).value
        functions := (kept (function? registry) module.values).value } := by
    have diagnostics : (Raising.package registry module).diagnostics =
        (kept (typeDefinition? registry) module.types).diagnostics ++
          (kept (function? registry) module.values).diagnostics := by
      simp [Raising.package]
    rw [diagnostics]
    exact ⟨kept_typeDefinition? registry module.types (List.subset_append_left _ _),
      kept_function? registry module.values (List.subset_append_right _ _)⟩
  exact ⟨_, rfl, accounted, fun mild => accounted.complete mild⟩

/-- A module with a record, an enumeration, a variant and a function loses nothing. -/
theorem accounted_package_sorts :
    let sorts : Ir.Module :=
      { types :=
          [{ name := ⟨["line", "item"]⟩,
             body := .synonym (.record [(⟨["x"]⟩, .basics "Int"), (⟨["y"]⟩, .unit)]) },
           { name := ⟨["kind"]⟩, body := .custom .everyone [⟨⟨["on"]⟩, []⟩, ⟨⟨["off"]⟩, []⟩] },
           { name := ⟨["shape"]⟩,
             body := .custom .owner [⟨⟨["dot"]⟩, []⟩, ⟨⟨["disc"]⟩, [(⟨["r"]⟩, .basics "Float")]⟩] }]
        values :=
          [{ name := ⟨["area"]⟩, inputs := [(⟨["of"]⟩, .var ⟨["shape"]⟩)], output := .unit }] }
    (Raising.package Mapping.witRegistry sorts).Mild ∧
      ∃ interface,
        (Raising.package Mapping.witRegistry sorts).value.interfaces = [interface] ∧
          sorts.Complete interface := by
  intro sorts
  have mild : (Raising.package Mapping.witRegistry sorts).Mild := by
    unfold Reported.Mild
    decide +kernel
  obtain ⟨interface, interfaces, -, complete⟩ := accounted_package Mapping.witRegistry sorts
  exact ⟨mild, interface, interfaces, complete mild⟩

/-- A field goes with a record that is left out or stands in another type, and no error names it. -/
theorem unreported_fields :
    let boxes : Ir.Module :=
      { types :=
          [{ name := ⟨["1"]⟩, body := .synonym (.record [(⟨["width"]⟩, .basics "Int")]) },
           { name := ⟨["t"]⟩,
             body := .synonym
              (.reference (.sdk "List" "List") [.record [(⟨["height"]⟩, .basics "Int")]]) }] }
    let raised := Raising.package Mapping.witRegistry boxes
    raised.value.interfaces =
        [{ name := ⟨false, generated⟩
           types := [⟨⟨false, ⟨"t", by decide⟩⟩, .synonym (.list (.tuple [])), {}⟩] }] ∧
      ∀ diagnostic ∈ raised.diagnostics, diagnostic.severity = .error →
        ∀ field ∈ ["width", "height"], ¬field.toList <:+: diagnostic.message.toList := by
  decide +kernel

end Raising

end WitBridge
