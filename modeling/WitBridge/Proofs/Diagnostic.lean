import WitBridge.Diagnostic

/-!
# Work that reports

The value of work over a list is the list of the values, and its diagnostics are those of the
single steps in order. What holds of the diagnostics of all steps holds of those of the whole
work; work is mild if none of its diagnostics is an error.
-/
namespace WitBridge.Reported

variable {α β : Type}

/-- Work over a list makes the values of its items. -/
@[simp]
theorem value_mapM (make : α → Reported β) (items : List α) :
    (items.mapM make).value = items.map fun item => (make item).value := by
  induction items with
  | nil => rfl
  | cons first rest ih =>
    rw [List.mapM_cons, bind_value, bind_value, pure_eq, ih]
    rfl

/-- Work over a list reports what is reported of its items. -/
@[simp]
theorem diagnostics_mapM (make : α → Reported β) (items : List α) :
    (items.mapM make).diagnostics = items.flatMap fun item => (make item).diagnostics := by
  induction items with
  | nil => rfl
  | cons first rest ih =>
    rw [List.mapM_cons, bind_diagnostics, bind_diagnostics, pure_eq, ih, List.append_nil]
    rfl

/-- Whether all that is reported has a property. -/
def Reports (property : Diagnostic → Prop) (reported : Reported α) : Prop :=
  ∀ diagnostic ∈ reported.diagnostics, property diagnostic

variable {property : Diagnostic → Prop}

/-- A plain value reports nothing. -/
theorem reports_pure (value : α) : (pure value : Reported α).Reports property :=
  fun _ listed => absurd listed List.not_mem_nil

/-- A note reports its diagnostic. -/
theorem reports_note {diagnostic : Diagnostic} (holds : property diagnostic) :
    (note diagnostic).Reports property := by
  intro other listed
  have same : other = diagnostic := by simpa [note] using listed
  exact same ▸ holds

/-- What both steps report, the two in a row report. -/
theorem Reports.bind {reported : Reported α} {next : α → Reported β}
    (first : reported.Reports property) (second : ∀ value, (next value).Reports property) :
    (reported >>= next).Reports property := by
  intro diagnostic listed
  rw [bind_diagnostics] at listed
  rcases List.mem_append.1 listed with listed | listed
  · exact first diagnostic listed
  · exact second reported.value diagnostic listed

/-- What is reported of each item is reported of the list. -/
theorem reports_mapM {make : α → Reported β} {items : List α}
    (each : ∀ item ∈ items, (make item).Reports property) :
    (items.mapM make).Reports property := by
  intro diagnostic listed
  rw [diagnostics_mapM] at listed
  obtain ⟨item, member, inside⟩ := List.mem_flatMap.1 listed
  exact each item member diagnostic inside

/-- Whether no error is reported. -/
def Mild (reported : Reported α) : Prop :=
  ∀ diagnostic ∈ reported.diagnostics, diagnostic.severity ≠ .error

end WitBridge.Reported
