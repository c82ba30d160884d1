import WitBridge.Build
import WitBridge.Proofs.Lowering.Notes
import WitBridge.Proofs.Raising.Notes

/-!
# When steps fail

A step fails exactly if it reports an error, or a warning where warnings count. Every diagnostic
names the step that reports it. So a build in which warnings count in both of its steps fails if
there is any warning or error but its own, the mismatch: this one alone fails nothing.
-/
namespace WitBridge

/-- There is a diagnostic of a severity if their count is not zero. -/
theorem Diagnostic.count_pos_iff {severity : Severity} {diagnostics : List Diagnostic} :
    0 < count severity diagnostics ↔
      ∃ diagnostic ∈ diagnostics, diagnostic.severity = severity := by
  rw [count, List.length_filter_pos_iff]
  simp only [decide_eq_true_eq]

/-- A step fails exactly if it reports an error, or a warning where warnings count. -/
theorem isSome_stepFault_iff {step : Step} {warningsAsErrors : Bool}
    {diagnostics : List Diagnostic} :
    (stepFault step warningsAsErrors diagnostics).isSome = true ↔
      ∃ diagnostic ∈ diagnostics, diagnostic.severity = .error ∨
        (warningsAsErrors = true ∧ diagnostic.severity = .warning) := by
  unfold stepFault
  by_cases errors : 0 < Diagnostic.count .error diagnostics
  · obtain ⟨diagnostic, listed, error⟩ := Diagnostic.count_pos_iff.1 errors
    rw [if_pos errors]
    exact ⟨fun _ => ⟨diagnostic, listed, .inl error⟩, fun _ => rfl⟩
  · have mild : ∀ diagnostic ∈ diagnostics, diagnostic.severity ≠ .error :=
      fun diagnostic listed error => errors (Diagnostic.count_pos_iff.2 ⟨diagnostic, listed, error⟩)
    rw [if_neg errors]
    by_cases warnings :
        (warningsAsErrors && decide (0 < Diagnostic.count .warning diagnostics)) = true
    · obtain ⟨counts, some⟩ := Bool.and_eq_true_iff.1 warnings
      obtain ⟨diagnostic, listed, warning⟩ :=
        Diagnostic.count_pos_iff.1 (of_decide_eq_true some)
      rw [if_pos warnings]
      exact ⟨fun _ => ⟨diagnostic, listed, .inr ⟨counts, warning⟩⟩, fun _ => rfl⟩
    · rw [if_neg warnings]
      constructor
      · exact fun failed => absurd failed Bool.false_ne_true
      · rintro ⟨diagnostic, listed, error | ⟨counts, warning⟩⟩
        · exact absurd error (mild diagnostic listed)
        · have some := Diagnostic.count_pos_iff.2 ⟨diagnostic, listed, warning⟩
          exact absurd (Bool.and_eq_true_iff.2 ⟨counts, decide_eq_true some⟩) warnings

/-- Where warnings count, a step fails exactly if not all that it reports is for information. -/
theorem isSome_stepFault_strict {step : Step} {diagnostics : List Diagnostic} :
    (stepFault step true diagnostics).isSome = true ↔
      ∃ diagnostic ∈ diagnostics, diagnostic.severity ≠ .info := by
  rw [isSome_stepFault_iff]
  apply exists_congr
  intro diagnostic
  cases diagnostic.severity <;> simp

section Build

variable {source : String} {options : BuildOptions} {registry : Mapping.Registry}

/-- `make` never reports a mismatch for the whole build. -/
theorem ne_roundTripMismatch_of_make {diagnostic : Diagnostic}
    (listed : diagnostic ∈ (make source options.make registry).diagnostics) :
    diagnostic ≠ .roundTripMismatch .build := by
  unfold make at listed
  intro mismatch
  cases parsed : Package.parse source with
  | error fault =>
    rw [parsed] at listed
    rw [List.mem_singleton.1 listed] at mismatch
    exact absurd (congrArg Diagnostic.step mismatch) Step.noConfusion
  | ok package =>
    rw [parsed] at listed
    simp only [Lowering.diagnostics_package] at listed
    have step := Lowering.step_packageNotes package diagnostic listed
    rw [mismatch] at step
    contradiction

/-- `gen` never reports a mismatch for the whole build. -/
theorem ne_roundTripMismatch_of_gen {module : Ir.Module} {diagnostic : Diagnostic}
    (listed : diagnostic ∈ (gen module options.gen registry).diagnostics) :
    diagnostic ≠ .roundTripMismatch .build := by
  have step := (Raising.reports_package registry module diagnostic listed).step
  intro mismatch
  rw [mismatch] at step
  contradiction

/-- `make` fails where warnings count exactly if not all that it reports is for information. -/
theorem isSome_fault_make (counts : options.make.warningsAsErrors = true) :
    (make source options.make registry).fault.isSome = true ↔
      ∃ diagnostic ∈ (make source options.make registry).diagnostics,
        diagnostic.severity ≠ .info := by
  unfold make
  cases Package.parse source with
  | error fault =>
    exact ⟨fun _ => ⟨_, List.mem_singleton_self _, Severity.noConfusion⟩, fun _ => rfl⟩
  | ok package =>
    simp only [counts]
    exact isSome_stepFault_strict

/-- A build is its `make` where this fails, and else its `make`, the `gen` of the module and the
comparison: the fault is that of `gen`. -/
theorem build_cases (source : String) (options : BuildOptions) (registry : Mapping.Registry) :
    ((make source options.make registry).fault.isSome = true ∧
        (build source options registry).diagnostics =
          (make source options.make registry).diagnostics ∧
        (build source options registry).fault = (make source options.make registry).fault) ∨
      ∃ module mismatch, (make source options.make registry).fault = none ∧
        (mismatch = [] ∨ mismatch = [Diagnostic.roundTripMismatch .build]) ∧
        (build source options registry).diagnostics =
          (make source options.make registry).diagnostics ++
            (gen module options.gen registry).diagnostics ++ mismatch ∧
        (build source options registry).fault = (gen module options.gen registry).fault := by
  cases fault : (make source options.make registry).fault with
  | some cause =>
    refine .inl ⟨rfl, ?_⟩
    simp only [build, fault, and_self]
  | none =>
    obtain ⟨output, made⟩ : ∃ output, (make source options.make registry).output = some output := by
      unfold make at fault ⊢
      cases parsed : Package.parse source with
      | error cause =>
        rw [parsed] at fault
        contradiction
      | ok package => exact ⟨_, rfl⟩
    let agrees := output.source.agrees (Raising.package registry output.module).value
    refine .inr ⟨output.module, if agrees then [] else [.roundTripMismatch .build], rfl, ?_, ?_⟩
    · split
      · exact .inl rfl
      · exact .inr rfl
    · simp only [build, fault, made, and_true]
      rfl

/-- A build in which warnings count in both steps fails exactly if it reports a warning or an
error other than its own. -/
theorem isSome_fault_build (makeCounts : options.make.warningsAsErrors = true)
    (genCounts : options.gen.warningsAsErrors = true) :
    (build source options registry).fault.isSome = true ↔
      ∃ diagnostic ∈ (build source options registry).diagnostics,
        diagnostic.severity ≠ .info ∧ diagnostic ≠ .roundTripMismatch .build := by
  have gens : ∀ module, (gen module options.gen registry).fault.isSome = true ↔
      ∃ diagnostic ∈ (gen module options.gen registry).diagnostics,
        diagnostic.severity ≠ .info := by
    intro module
    rw [gen, genCounts]
    exact isSome_stepFault_strict
  rcases build_cases source options registry with
    ⟨failed, diagnostics, fault⟩ | ⟨module, mismatch, made, own, diagnostics, fault⟩
  · rw [diagnostics, fault, isSome_fault_make makeCounts]
    constructor
    · rintro ⟨diagnostic, listed, grave⟩
      exact ⟨diagnostic, listed, grave, ne_roundTripMismatch_of_make listed⟩
    · rintro ⟨diagnostic, listed, grave, -⟩
      exact ⟨diagnostic, listed, grave⟩
  · rw [diagnostics, fault, gens module]
    constructor
    · rintro ⟨diagnostic, listed, grave⟩
      refine ⟨diagnostic, ?_, grave, ne_roundTripMismatch_of_gen listed⟩
      exact List.mem_append_left _ (List.mem_append_right _ listed)
    · rintro ⟨diagnostic, listed, grave, other⟩
      rcases List.mem_append.1 listed with earlier | appended
      · rcases List.mem_append.1 earlier with ofMake | ofGen
        · have failed := (isSome_fault_make makeCounts).2 ⟨diagnostic, ofMake, grave⟩
          rw [made] at failed
          contradiction
        · exact ⟨diagnostic, ofGen, grave⟩
      · rcases own with rfl | rfl
        · contradiction
        · exact absurd (List.mem_singleton.1 appended) other

/-- Flags are a warning without strict mode: their build fails where warnings count. -/
theorem isSome_fault_build_flags :
    let options : BuildOptions := ⟨⟨false, true⟩, ⟨true, {}⟩⟩
    let built := build "interface i { flags f {} }" options
    (options.make.warningsAsErrors = true ∧ options.gen.warningsAsErrors = true) ∧
      .flagsUnsupported "f" .make false ∈ built.diagnostics ∧ built.fault.isSome = true := by
  have listed : .flagsUnsupported "f" .make false ∈
      (build "interface i { flags f {} }" ⟨⟨false, true⟩, ⟨true, {}⟩⟩).diagnostics := by
    decide +kernel
  exact ⟨⟨rfl, rfl⟩, listed, (isSome_fault_build rfl rfl).2 ⟨_, listed, by decide, by decide⟩⟩

/-- The image of a package has no worlds. The build of a world reports this as a warning and
succeeds, although warnings count. -/
theorem fault_build_world :
    let options : BuildOptions := ⟨⟨false, true⟩, ⟨true, {}⟩⟩
    let built := build "world w {}" options
    (options.make.warningsAsErrors = true ∧ options.gen.warningsAsErrors = true) ∧
      (.roundTripMismatch .build ∈ built.diagnostics ∧
        (Diagnostic.roundTripMismatch .build).severity = .warning) ∧
      built.fault = none := by
  decide +kernel

end Build

end WitBridge
