import WitBridge.Proofs.Package.Comparison
import WitBridge.Proofs.Package.Document

/-!
# Packages that are written without loss of meaning

A package is raised if it has the parts that a module of the IR can give it: interfaces of
carried types without resources, flags and uses, and neither worlds nor versions. A raised package
is read back from its written form with no more than its escapes, its documentation and its
several results changed, and it agrees with what is read back.
-/
namespace WitBridge

/-- Results as they are written: several are one tuple. -/
def gatheredResults : List TypeExpr → List TypeExpr
  | [] => []
  | [result] => [result]
  | results => [.tuple results]

/-- The results of a function are gathered from its list of results. -/
theorem Function.gatheredResults_eq (function : Function) :
    function.gatheredResults = WitBridge.gatheredResults function.results := by
  unfold gatheredResults WitBridge.gatheredResults
  match function.results with
  | [] => rfl
  | [_] => rfl
  | _ :: _ :: _ => rfl

/-- Gathered results are no more than one, however they are changed. -/
theorem gatheredResults_map_gatheredResults (change : TypeExpr → TypeExpr)
    (results : List TypeExpr) :
    gatheredResults ((gatheredResults results).map change) =
      (gatheredResults results).map change := by
  match results with
  | [] => rfl
  | [_] => rfl
  | _ :: _ :: _ => rfl

/-- What writing and reading changes: escapes are added to reserved words, lines of documentation
lose the blanks at their ends, or are gone, and several results become one tuple. -/
def Rewriting.written (layout : Layout) : Rewriting :=
  ⟨Identifier.settled, Identifier.settled, Documentation.reread layout, gatheredResults⟩

/-- Whether a type is carried, whatever its names. -/
def TypeExpr.Carried (type : TypeExpr) : Prop :=
  type.carried (fun _ => true) = true

/-- A type that may be missing is carried if it is where it is there. -/
theorem TypeExpr.carriedOption_iff {type : Option TypeExpr} :
    carriedOption (fun _ => true) type = true ↔ ∀ found ∈ type, found.Carried := by
  cases type with
  | none => exact ⟨fun _ => nofun, fun _ => rfl⟩
  | some found =>
    exact ⟨fun carried _ same => by cases same; exact carried, fun all => all found rfl⟩

/-- A definition without resources and flags whose types are carried. -/
def Definition.Raised : Definition → Prop
  | record fields => ∀ field ∈ fields, field.type.Carried ∧ field.docs.SingleLines
  | variant cases => ∀ case ∈ cases, (∀ type ∈ case.payload, type.Carried) ∧ case.docs.SingleLines
  | enum _ => True
  | synonym target => target.Carried
  | flags _ | resource _ _ => False

/-- A type definition without resources and flags. -/
structure TypeDefinition.Raised (definition : TypeDefinition) : Prop where
  body : definition.body.Raised
  docs : definition.docs.SingleLines

/-- A function of carried types. -/
structure Function.Raised (function : Function) : Prop where
  parameters : ∀ parameter ∈ function.parameters, parameter.type.Carried
  results : ∀ type ∈ function.results, type.Carried
  docs : function.docs.SingleLines

/-- An interface without resources, flags and uses. -/
structure Interface.Raised (interface : Interface) : Prop where
  types : ∀ definition ∈ interface.types, definition.Raised
  functions : ∀ function ∈ interface.functions, function.Raised
  uses : interface.uses = []
  docs : interface.docs.SingleLines

/-- A package that a module of the IR may become. -/
structure Package.Raised (package : Package) : Prop where
  header : ∀ header ∈ package.header, header.docs.SingleLines ∧ header.version = none
  interfaces : ∀ interface ∈ package.interfaces, interface.Raised
  worlds : package.worlds = []
  uses : package.uses = []

/-- A raised definition can be read from its text. -/
theorem Definition.Raised.legible {body : Definition} (raised : body.Raised) : body.Legible := by
  cases body with
  | record fields => exact fun field listed => (raised field listed).2
  | variant cases => exact fun case listed => (raised case listed).2
  | enum | synonym => trivial
  | flags names => trivial
  | resource constructor methods => exact raised.elim

/-- A raised interface can be read from its text. -/
theorem Interface.Raised.legible {interface : Interface} (raised : interface.Raised) :
    interface.Legible where
  docs := raised.docs
  types definition listed :=
    ⟨(raised.types definition listed).docs, (raised.types definition listed).body.legible⟩
  functions function listed := (raised.functions function listed).docs
  uses := by simp [raised.uses]

/-- A raised package can be read from its text. -/
theorem Package.Raised.legible {package : Package} (raised : package.Raised) : package.Legible where
  header header found := by
    have opening := raised.header header found
    exact ⟨opening.1, by simp [opening.2]⟩
  interfaces interface listed := (raised.interfaces interface listed).legible
  worlds := by simp [raised.worlds]
  uses := by simp [raised.uses]

section Written

variable (layout : Layout)

/-- A function is reread as it is written. -/
theorem Function.reread_eq_written (function : Function) :
    function.reread layout = function.rewrite (.written layout) := by
  rw [reread, gatheredResults_eq]
  rfl

/-- A raised definition is reread as it is written. -/
theorem TypeDefinition.Raised.reread_eq {definition : TypeDefinition} (raised : definition.Raised) :
    definition.reread layout = definition.rewrite (.written layout) := by
  obtain ⟨name, body, docs⟩ := definition
  cases body with
  | record | variant | enum | synonym => rfl
  | flags names => exact raised.body.elim
  | resource constructor methods => exact raised.body.elim

/-- A raised interface is reread as it is written. -/
theorem Interface.Raised.reread_eq {interface : Interface} (raised : interface.Raised) :
    interface.reread layout = interface.rewrite (.written layout) := by
  have types : interface.types.map (TypeDefinition.reread layout) =
      interface.types.map (TypeDefinition.rewrite (.written layout)) :=
    List.map_congr_left fun definition listed => (raised.types definition listed).reread_eq layout
  have functions : interface.functions.map (Function.reread layout) =
      interface.functions.map (Function.rewrite (.written layout)) :=
    List.map_congr_left fun function _ => function.reread_eq_written layout
  rw [reread, rewrite, types, functions, raised.uses]
  rfl

/-- A raised package is reread as it is written. -/
theorem Package.Raised.reread_eq {package : Package} (raised : package.Raised) :
    package.reread layout = package.rewrite (.written layout) := by
  have interfaces : package.interfaces.map (Interface.reread layout) =
      package.interfaces.map (Interface.rewrite (.written layout)) :=
    List.map_congr_left fun interface listed =>
      (raised.interfaces interface listed).reread_eq layout
  rw [reread, rewrite, interfaces, raised.worlds, raised.uses]
  rfl

/-- Every name agrees with itself under another escape. -/
theorem Identifier.agrees_settled (name : Identifier) : name.agrees name.settled = true :=
  decide_eq_true rfl

/-- A carried type agrees with the type of settled names. -/
theorem TypeExpr.Carried.agrees_settled {type : TypeExpr} (carried : type.Carried) :
    type.agrees type.settled = true :=
  agrees_mapNames (fun name _ => name.agrees_settled) type carried

/-- Carried types agree with the types of settled names. -/
theorem TypeExpr.agreesList_settled {types : List TypeExpr}
    (carried : ∀ type ∈ types, type.Carried) :
    agreesList types (types.map TypeExpr.settled) = true := by
  have all : carriedList (fun _ => true) types = true := by
    rw [carriedList_eq_all]
    exact List.all_eq_true.2 carried
  have agrees := agreesList_mapNames (fun name _ => name.agrees_settled) types all
  rwa [mapNamesList_eq_map] at agrees

/-- A raised function agrees with the function that is read back. -/
theorem Function.Raised.agrees {function : Function} (raised : function.Raised) :
    function.agrees (function.rewrite (.written layout)) = true := by
  have parameters : agreeAll Parameter.agrees function.parameters
      (function.parameters.map (Parameter.rewrite (.written layout))) = true := by
    rw [agreeAll_map, List.all_eq_true]
    intro parameter listed
    rw [Parameter.agrees, Bool.and_eq_true]
    exact ⟨parameter.name.agrees_settled, (raised.parameters parameter listed).agrees_settled⟩
  have gathered : ∀ type ∈ WitBridge.gatheredResults function.results, type.Carried := by
    have results := raised.results
    match shape : function.results with
    | [] => exact nofun
    | [result] => rw [shape] at results; exact results
    | first :: second :: more =>
      rw [shape] at results
      intro type listed
      obtain rfl := List.mem_singleton.1 listed
      rw [TypeExpr.Carried, TypeExpr.carried, TypeExpr.carriedList_eq_all]
      exact List.all_eq_true.2 results
  have results : TypeExpr.agreesList function.gatheredResults
      (function.rewrite (.written layout)).gatheredResults = true := by
    rw [gatheredResults_eq, gatheredResults_eq]
    exact (congrArg _ (gatheredResults_map_gatheredResults TypeExpr.settled function.results)).trans
      (TypeExpr.agreesList_settled gathered)
  rw [Function.agrees, Bool.and_eq_true, Bool.and_eq_true]
  exact ⟨⟨function.name.agrees_settled, parameters⟩, results⟩

/-- A raised definition agrees with the definition that is read back. -/
theorem Definition.Raised.agrees {body : Definition} (raised : body.Raised) :
    body.agrees (body.rewrite (.written layout)) = true := by
  cases body with
  | record fields =>
    rw [rewrite, Definition.agrees, agreeAll_map, List.all_eq_true]
    intro field listed
    rw [Field.agrees, Bool.and_eq_true]
    exact ⟨field.name.agrees_settled, (raised field listed).1.agrees_settled⟩
  | variant cases =>
    rw [rewrite, Definition.agrees, agreeAll_map, List.all_eq_true]
    intro case listed
    have payload :
        TypeExpr.agreesOption case.payload (case.payload.map TypeExpr.settled) = true := by
      cases found : case.payload with
      | none => rfl
      | some type => exact ((raised case listed).1 type found).agrees_settled
    rw [Case.agrees, Bool.and_eq_true]
    exact ⟨case.name.agrees_settled, payload⟩
  | enum names =>
    rw [rewrite, Definition.agrees, agreeAll_map, List.all_eq_true]
    exact fun name _ => name.agrees_settled
  | synonym target => exact TypeExpr.Carried.agrees_settled raised
  | flags names => exact raised.elim
  | resource constructor methods => exact raised.elim

/-- A raised type definition agrees with the definition that is read back. -/
theorem TypeDefinition.Raised.agrees {definition : TypeDefinition} (raised : definition.Raised) :
    definition.agrees (definition.rewrite (.written layout)) = true := by
  have name : (definition.rewrite (.written layout)).name = definition.name.settled := by
    unfold rewrite
    split <;> rfl
  rw [TypeDefinition.agrees, name, Bool.and_eq_true]
  exact ⟨definition.name.agrees_settled, raised.body.agrees layout⟩

/-- A raised interface agrees with the interface that is read back. -/
theorem Interface.Raised.agrees {interface : Interface} (raised : interface.Raised) :
    interface.agrees (interface.rewrite (.written layout)) = true := by
  have types : agreeAll TypeDefinition.agrees interface.types
      (interface.types.map (TypeDefinition.rewrite (.written layout))) = true := by
    rw [agreeAll_map, List.all_eq_true]
    exact fun definition listed => (raised.types definition listed).agrees layout
  have functions : agreeAll Function.agrees interface.functions
      (interface.functions.map (Function.rewrite (.written layout))) = true := by
    rw [agreeAll_map, List.all_eq_true]
    exact fun function listed => (raised.functions function listed).agrees layout
  rw [Interface.agrees, Bool.and_eq_true]
  exact ⟨types, functions⟩

/-- A raised package agrees with the package that is read back. -/
theorem Package.Raised.agrees {package : Package} (raised : package.Raised) :
    package.agrees (package.rewrite (.written layout)) = true := by
  have interfaces : agreeAll Interface.agrees package.interfaces
      (package.interfaces.map (Interface.rewrite (.written layout))) = true := by
    rw [agreeAll_map, List.all_eq_true]
    exact fun interface listed => (raised.interfaces interface listed).agrees layout
  rw [Package.agrees, Bool.and_eq_true]
  refine ⟨interfaces, ?_⟩
  rw [rewrite, raised.worlds]
  rfl

end Written

end WitBridge
