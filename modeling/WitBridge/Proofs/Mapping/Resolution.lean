import WitBridge.Mapping.Defaults
import WitBridge.Proofs.Mapping.Overwriting

/-!
# What calls of a builder resolve to

A builder is called any number of times in any order. What it holds afterwards is the mappings that
were added one by one, in the order of the calls, then the last defaults and then the last settings.
The registry that is built resolves each external type to the last of its mappings there with the
greatest priority, so calls of different kinds may change places.
-/
namespace WitBridge.Mapping

/-- A call of a builder. -/
inductive Call where
  | addPrimitive (external target : String) (options : Options)
  | addContainer (mapping : Container)
  | withDefaults (defaults : Source)
  | withConfig (config : Config)
  deriving DecidableEq, Repr

namespace Call

/-- The kinds of calls. -/
inductive Kind where
  | primitive | container | defaults | config
  deriving DecidableEq, Repr

/-- The kind of a call. -/
def kind : Call → Kind
  | addPrimitive .. => .primitive
  | addContainer .. => .container
  | withDefaults .. => .defaults
  | withConfig .. => .config

/-- The mapping of a type that a call adds, if its IR type can be read. -/
def primitive? : Call → Option Primitive
  | addPrimitive external target options => Primitive.make? external target options
  | _ => none

/-- The mapping of a container that a call adds. -/
def container? : Call → Option Container
  | addContainer mapping => some mapping
  | _ => none

/-- The defaults that a call sets. -/
def defaults? : Call → Option Source
  | withDefaults defaults => some defaults
  | _ => none

/-- The mappings of the settings that a call sets. -/
def configured? : Call → Option Source
  | withConfig config => some config.mappings
  | _ => none

/-- The mappings that calls add one by one. -/
def added (calls : List Call) : Source :=
  ⟨calls.filterMap primitive?, calls.filterMap container?⟩

/-- What the last call that sets something sets. -/
def last? (set? : Call → Option Source) (calls : List Call) : Option Source :=
  (calls.filterMap set?).getLast?

/-- The mappings that calls state: those added one by one, those of the last defaults, and those of
the last settings. -/
def stated (calls : List Call) : Source :=
  added calls ++ (last? defaults? calls).getD {} ++ (last? configured? calls).getD {}

end Call

namespace Source

/-- Nothing is put behind a source. -/
theorem append_nil (source : Source) : source ++ ({} : Source) = source :=
  congrArg₂ Source.mk (List.append_nil _) (List.append_nil _)

/-- Three sources in a row may be put together in either way. -/
theorem append_assoc (first second third : Source) :
    first ++ second ++ third = first ++ (second ++ third) :=
  congrArg₂ Source.mk (List.append_assoc _ _ _) (List.append_assoc _ _ _)

end Source

namespace Call

/-- What a call adds stands before what later calls add. -/
theorem added_cons (call : Call) (calls : List Call) :
    added (call :: calls) = ⟨call.primitive?.toList, call.container?.toList⟩ ++ added calls := by
  refine congrArg₂ Source.mk ?_ ?_
  · cases found : call.primitive? <;> simp [added, found]
  · cases found : call.container? <;> simp [added, found]

/-- What a call sets stands until a later call sets it again. -/
theorem getD_last?_cons (set? : Call → Option Source) (call : Call) (calls : List Call)
    (before : Source) :
    (last? set? (call :: calls)).getD before =
      (last? set? calls).getD ((set? call).getD before) := by
  cases found : set? call <;> simp [last?, found, List.getLast?_cons]

end Call

namespace Builder

/-- A builder after a call. -/
def perform (builder : Builder) : Call → Builder
  | .addPrimitive external target options => builder.addPrimitive external target options
  | .addContainer mapping => builder.addContainer mapping
  | .withDefaults defaults => builder.withDefaults defaults
  | .withConfig config => builder.withConfig config

/-- The builder of a binding after calls. -/
def after (binding : String) (calls : List Call) : Builder :=
  calls.foldl perform { binding := binding }

/-- A call adds its mapping, or sets the defaults or the settings, and changes nothing else. -/
theorem perform_eq (builder : Builder) (call : Call) :
    builder.perform call =
      { binding := builder.binding
        added := builder.added ++ ⟨call.primitive?.toList, call.container?.toList⟩
        defaults := call.defaults?.getD builder.defaults
        configured := call.configured?.getD builder.configured } := by
  have nothing : builder.added ++ ⟨[], []⟩ = builder.added := builder.added.append_nil
  cases call with
  | addPrimitive external target options =>
    cases made : Primitive.make? external target options with
    | none =>
      simp [perform, addPrimitive, Call.primitive?, Call.container?, Call.defaults?,
        Call.configured?, made, nothing]
    | some mapping =>
      simp [perform, addPrimitive, Call.primitive?, Call.container?, Call.defaults?,
        Call.configured?, made]
  | addContainer mapping => rfl
  | withDefaults defaults =>
    simp [perform, withDefaults, Call.primitive?, Call.container?, Call.defaults?,
      Call.configured?, nothing]
  | withConfig config =>
    simp [perform, withConfig, Call.primitive?, Call.container?, Call.defaults?,
      Call.configured?, nothing]

/-- Calls add what they state one by one, and the last defaults and settings stand. -/
theorem foldl_perform (builder : Builder) (calls : List Call) :
    calls.foldl perform builder =
      { binding := builder.binding
        added := builder.added ++ Call.added calls
        defaults := (Call.last? Call.defaults? calls).getD builder.defaults
        configured := (Call.last? Call.configured? calls).getD builder.configured } := by
  induction calls generalizing builder with
  | nil => exact congrArg (Builder.mk _ · _ _) builder.added.append_nil.symm
  | cons call calls ih =>
    rw [List.foldl_cons, ih, perform_eq, Call.added_cons, Call.getD_last?_cons,
      Call.getD_last?_cons, Source.append_assoc]

/-- A builder holds what its calls state. -/
theorem mappings_after (binding : String) (calls : List Call) :
    (after binding calls).mappings = Call.stated calls := by
  rw [after, foldl_perform]
  rfl

/-- The registry of calls holds the winners of what the calls state. -/
theorem build_after (binding : String) (calls : List Call) :
    (after binding calls).build =
      { binding := binding
        primitives := winners (·.external) (·.priority) (Call.stated calls).primitives
        containers := winners (·.external) (·.priority) (Call.stated calls).containers } := by
  have named : (after binding calls).binding = binding := by rw [after, foldl_perform]
  rw [build, named, mappings_after]

end Builder

end WitBridge.Mapping
