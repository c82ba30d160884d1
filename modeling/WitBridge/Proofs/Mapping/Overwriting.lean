import WitBridge.Proofs.Mapping.Winners

/-!
# Tables that are filled in order

A table of winners can also be made by sorting: all entries are put in the order of their
priorities, where entries of one priority stay as they are, and are entered one after the other,
each in the place of one with its key. A key then leads to the last of its entries, which is the
one that wins the key.
-/
namespace WitBridge.Mapping

section Overwriting

variable {α β : Type} [LinearOrder β] {key : α → String} {measure : α → β} {found : α}
  {entries : List α} {wanted : String}

/-- What is found under a key when entries are entered in the order of a measure, each in the place
of one with its key. -/
def overwritten (key : α → String) (measure : α → β) (entries : List α) (wanted : String) :
    Option α :=
  (entries.mergeSort fun lower upper => measure lower ≤ measure upper).reverse.find?
    (key · = wanted)

/-- Measures pass on. -/
theorem decide_le_trans (measure : α → β) (lower middle upper : α)
    (first : decide (measure lower ≤ measure middle) = true)
    (second : decide (measure middle ≤ measure upper) = true) :
    decide (measure lower ≤ measure upper) = true :=
  decide_eq_true ((of_decide_eq_true first).trans (of_decide_eq_true second))

/-- Any two entries are in order one way or the other. -/
theorem decide_le_total (measure : α → β) (left right : α) :
    (decide (measure left ≤ measure right) || decide (measure right ≤ measure left)) = true := by
  simpa using le_total (measure left) (measure right)

/-- Sorting puts entries in the order of the measure. -/
theorem pairwise_mergeSort (measure : α → β) (entries : List α) :
    (entries.mergeSort fun lower upper => measure lower ≤ measure upper).Pairwise
      fun lower upper => measure lower ≤ measure upper :=
  (List.pairwise_mergeSort (decide_le_trans measure) (decide_le_total measure) entries).imp
    of_decide_eq_true

/-- Sorting leaves entries of one measure as they are. -/
theorem filter_mergeSort {accept : α → Bool} {value : β}
    (equal : ∀ entry, accept entry = true → measure entry = value) :
    (entries.mergeSort fun lower upper => measure lower ≤ measure upper).filter accept =
      entries.filter accept := by
  have ordered : (entries.filter accept).Pairwise fun lower upper =>
      decide (measure lower ≤ measure upper) = true := by
    refine List.pairwise_of_forall_mem_list fun lower first upper second => decide_eq_true ?_
    rw [equal lower (List.mem_filter.1 first).2, equal upper (List.mem_filter.1 second).2]
  have kept := (List.sublist_mergeSort (decide_le_trans measure) (decide_le_total measure) ordered
    List.filter_sublist).filter accept
  rw [List.filter_eq_self.2 fun _ listed => (List.mem_filter.1 listed).2] at kept
  have count := ((List.mergeSort_perm entries fun lower upper =>
    measure lower ≤ measure upper).filter accept).length_eq
  exact (kept.eq_of_length count.symm).symm

/-- What is found has the key, and no entry with the key measures more. -/
theorem measure_le_of_overwritten (looked : overwritten key measure entries wanted = some found) :
    found ∈ entries ∧ key found = wanted ∧
      ∀ other ∈ entries, key other = wanted → measure other ≤ measure found := by
  obtain ⟨same, front, back, shape, others⟩ := List.find?_eq_some_iff_append.1 looked
  have members : ∀ entry, entry ∈ front ++ found :: back ↔ entry ∈ entries := by
    intro entry
    rw [← shape, List.mem_reverse, List.mem_mergeSort]
  have descending : (front ++ found :: back).Pairwise fun upper lower =>
      measure lower ≤ measure upper := by
    rw [← shape, List.pairwise_reverse]
    exact pairwise_mergeSort measure entries
  refine ⟨(members found).1 (by simp), of_decide_eq_true same, fun other member also => ?_⟩
  -- What is found stands before all others with its key.
  rcases List.mem_append.1 ((members other).2 member) with inside | inside
  · simpa [also] using others other inside
  · rcases List.mem_cons.1 inside with rfl | inside
    · exact le_rfl
    · obtain ⟨-, behind, -⟩ := List.pairwise_append.1 descending
      exact (List.pairwise_cons.1 behind).1 other inside

/-- Something is found under the key of an entry. -/
theorem exists_overwritten (key : α → String) (measure : α → β) (listed : found ∈ entries) :
    ∃ entry, overwritten key measure entries (key found) = some entry := by
  refine Option.isSome_iff_exists.1 (List.find?_isSome.2 ⟨found, ?_, decide_eq_true rfl⟩)
  rw [List.mem_reverse, List.mem_mergeSort]
  exact listed

/-- What is found is the last of the entries with its key and its measure. -/
theorem getLast?_filter_of_overwritten
    (looked : overwritten key measure entries wanted = some found) :
    (entries.filter fun other =>
      key other = key found && measure other = measure found).getLast? = some found := by
  have equal : ∀ other, (key other = key found && measure other = measure found : Bool) = true →
      measure other = measure found :=
    fun other same => of_decide_eq_true (Bool.and_eq_true_iff.1 same).2
  rw [← filter_mergeSort equal, ← List.head?_reverse, ← List.filter_reverse, List.head?_filter]
  obtain ⟨same, front, back, shape, others⟩ := List.find?_eq_some_iff_append.1 looked
  obtain rfl := of_decide_eq_true same
  refine List.find?_eq_some_iff_append.2 ⟨by simp, front, back, shape, fun other inside => ?_⟩
  -- What stands before it has another key.
  simp [show key other ≠ key found by simpa using others other inside]

end Overwriting

section Priorities

variable {α : Type} {key : α → String} {priority : α → Int} {found : α} {entries : List α}

/-- A winner is the last of the entries with its key and its priority. -/
theorem Wins.getLast?_filter (wins : Wins key priority entries found) :
    (entries.filter fun other =>
      key other = key found && priority other = priority found).getLast? = some found := by
  obtain ⟨before, after, rfl, -, later⟩ := wins
  have none : after.filter (fun other => key other = key found && priority other = priority found) =
      [] := by
    refine List.filter_eq_nil_iff.2 fun other listed same => ?_
    obtain ⟨shared, equal⟩ := Bool.and_eq_true_iff.1 same
    exact (later other listed (of_decide_eq_true shared)).ne (of_decide_eq_true equal)
  simp [none]

/-- A key leads to the entry that wins it when entries are entered in the order of priorities. -/
theorem Wins.overwritten_eq (wins : Wins key priority entries found) :
    overwritten key priority entries (key found) = some found := by
  obtain ⟨entry, looked⟩ := exists_overwritten key priority wins.mem
  obtain ⟨listed, same, highest⟩ := measure_le_of_overwritten looked
  have equal : priority entry = priority found :=
    le_antisymm (wins.priority_le entry listed same) (highest found wins.mem rfl)
  have last := getLast?_filter_of_overwritten looked
  rw [same, equal, wins.getLast?_filter] at last
  rw [looked, last]

/-- Entering entries in the order of priorities makes the table of winners. -/
theorem overwritten_eq_lookup (key : α → String) (priority : α → Int) (entries : List α)
    (wanted : String) :
    overwritten key priority entries wanted =
      lookup key wanted (winners key priority entries) := by
  cases looked : lookup key wanted (winners key priority entries) with
  | some found =>
    obtain ⟨rfl, wins⟩ := lookup_winners_eq_some_iff.1 looked
    exact wins.overwritten_eq
  | none =>
    rw [Option.eq_none_iff_forall_ne_some]
    intro found filled
    obtain ⟨listed, same, -⟩ := measure_le_of_overwritten filled
    exact lookup_winners_eq_none_iff.1 looked found listed same

end Priorities

end WitBridge.Mapping
