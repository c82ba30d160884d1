import WitBridge.Json.Reader
import WitBridge.Json.Record
import WitBridge.Toml.Reader

/-!
# Mapping settings

Settings given by a user override the mappings of a binding. They are records that may be
written in JSON or in TOML; what is left out takes its default.
-/
namespace WitBridge.Mapping

open DataFormat (fieldOr)

/-- An override of a type without parameters. -/
structure PrimitiveOverride where
  external : String
  target : String
  bidirectional : Bool := true
  priority : Int := 0
  deriving DecidableEq, Repr

/-- An override of a container. -/
structure ContainerOverride where
  external : String
  target : String
  /-- How many type parameters the container takes; negative for any number. -/
  parameters : Int := 1
  bidirectional : Bool := true
  priority : Int := 0
  deriving DecidableEq, Repr

/-- The overrides of a user. -/
structure Config where
  primitives : List PrimitiveOverride := []
  containers : List ContainerOverride := []
  deriving DecidableEq, Repr

variable {V : Type}

/-- The override of a type that a value of a data format spells. -/
def PrimitiveOverride.read? (format : DataFormat V) (value : V) : Option PrimitiveOverride := do
  match ← format.fields? ["external", "morphir", "bidirectional", "priority"] value with
  | [some external, some target, bidirectional, priority] =>
    return { external := ← format.text? external
             target := ← format.text? target
             bidirectional := ← fieldOr true format.bool? bidirectional
             priority := ← fieldOr 0 format.int32? priority }
  | _ => none

/-- The override of a container that a value of a data format spells. -/
def ContainerOverride.read? (format : DataFormat V) (value : V) : Option ContainerOverride := do
  match ← format.fields? ["external_pattern", "morphir_pattern", "type_params", "bidirectional",
      "priority"] value with
  | [some external, some target, parameters, bidirectional, priority] =>
    return { external := ← format.text? external
             target := ← format.text? target
             parameters := ← fieldOr 1 format.int32? parameters
             bidirectional := ← fieldOr true format.bool? bidirectional
             priority := ← fieldOr 0 format.int32? priority }
  | _ => none

namespace Config

/-- Whether nothing is overridden. -/
def isEmpty (config : Config) : Bool :=
  config.primitives.isEmpty && config.containers.isEmpty

/-- The settings that a value of a data format spells. -/
def read? (format : DataFormat V) (value : V) : Option Config := do
  match ← format.fields? ["primitives", "containers"] value with
  | [primitives, containers] =>
    return {
      primitives := ← fieldOr [] (format.listOf? (PrimitiveOverride.read? format)) primitives
      containers := ← fieldOr [] (format.listOf? (ContainerOverride.read? format)) containers }
  | _ => none

/-- The settings that a JSON text spells. -/
def ofJson? (text : String) : Option Config := do
  read? Json.dataFormat (← Json.parse text)

/-- The settings that a TOML text spells. -/
def ofToml? (text : String) : Option Config := do
  read? Toml.dataFormat (← Toml.parse text)

end Config

end WitBridge.Mapping
