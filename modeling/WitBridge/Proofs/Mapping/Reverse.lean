import Mathlib.Data.Prod.Lex
import WitBridge.Proofs.Mapping.Resolution

/-!
# What a registry holds from the IR side

From the IR side a registry only holds mappings that win their external types. Of those that hold
both ways and have one text, the one with the greatest priority owns the text, and of equals the one
whose external type is last. Entering the winners by priority and external type says the same, in
whatever order they come.
-/
namespace WitBridge.Mapping

section Owners

variable {α : Type} {text key : α → String} {priority : α → Int} {candidate : α → Prop}
  {entry found other : α} {entries table : List α} {wanted : String}

/-- The rank of an entry: its priority, and among entries of one priority its key. -/
def rank (key : α → String) (priority : α → Int) (entry : α) : Int ×ₗ String :=
  toLex (priority entry, key entry)

/-- Whether an entry owns what candidates share: it is the candidate of the highest rank. -/
structure Owns (key : α → String) (priority : α → Int) (candidate : α → Prop) (entry : α) :
    Prop where
  among : candidate entry
  highest : ∀ other, candidate other → rank key priority other ≤ rank key priority entry

/-- An entry ranks no higher than another if its priority is lower, or if it is the same and its key
is not behind. -/
theorem rank_le_iff : rank key priority entry ≤ rank key priority other ↔
    priority entry < priority other ∨ priority entry = priority other ∧ key entry ≤ key other :=
  Prod.Lex.toLex_le_toLex

/-- Owners of the same have one key. -/
theorem Owns.key_eq (first : Owns key priority candidate entry)
    (second : Owns key priority candidate other) : key entry = key other :=
  congrArg (fun rank => (ofLex rank).2)
    (le_antisymm (second.highest entry first.among) (first.highest other second.among))

/-- In a table of rising keys an entry is determined by its key. -/
theorem Rising.eq_of_key_eq (rising : Rising key table) (listed : entry ∈ table)
    (also : other ∈ table) (same : key entry = key other) : entry = other :=
  Option.some.inj <| (rising.lookup_eq_some_iff.2 ⟨same, listed⟩).symm.trans
    (rising.lookup_eq_some_iff.2 ⟨rfl, also⟩)

/-- In a table of rising keys the winner of a text owns it. -/
theorem Rising.wins_iff_owns (rising : Rising key table) :
    Wins text priority table entry ↔
      Owns key priority (fun other => other ∈ table ∧ text other = text entry) entry := by
  constructor
  · intro wins
    refine ⟨⟨wins.mem, rfl⟩, fun other ⟨listed, same⟩ => ?_⟩
    obtain ⟨before, after, rfl, earlier, later⟩ := wins
    obtain ⟨-, behind, ordered⟩ := List.pairwise_append.1 rising
    rw [rank_le_iff]
    rcases List.mem_append.1 listed with listed | listed
    · have less := ordered other listed entry List.mem_cons_self
      exact (earlier other listed same).lt_or_eq.imp_right (⟨·, less.le⟩)
    · rcases List.mem_cons.1 listed with rfl | listed
      · exact .inr ⟨rfl, le_rfl⟩
      · exact .inl (later other listed same)
  · rintro ⟨⟨listed, -⟩, highest⟩
    obtain ⟨before, after, rfl⟩ := List.append_of_mem listed
    obtain ⟨-, behind, ordered⟩ := List.pairwise_append.1 rising
    refine ⟨before, after, rfl, fun other member same => ?_, fun other member same => ?_⟩
    · have inside := List.mem_append_left (entry :: after) member
      rcases rank_le_iff.1 (highest other ⟨inside, same⟩) with lower | ⟨equal, -⟩
      · exact lower.le
      · exact equal.le
    · have inside := List.mem_append_right before (List.mem_cons_of_mem entry member)
      rcases rank_le_iff.1 (highest other ⟨inside, same⟩) with lower | ⟨-, notBehind⟩
      · exact lower
      · exact absurd notBehind ((List.pairwise_cons.1 behind).1 other member).not_ge

/-- In a table of rising keys a text leads to its owner. -/
theorem Rising.lookup_winners_iff_owns (rising : Rising key table) :
    lookup text wanted (winners text priority table) = some found ↔
      Owns key priority (fun other => other ∈ table ∧ text other = wanted) found := by
  rw [lookup_winners_eq_some_iff, rising.wins_iff_owns]
  constructor
  · rintro ⟨rfl, owns⟩
    exact owns
  · intro owns
    obtain rfl := owns.among.2
    exact ⟨rfl, owns⟩

/-- If entries are determined by their keys, entering them by rank leads a text to its owner. -/
theorem overwritten_rank_eq_some_iff
    (distinct : ∀ entry ∈ entries, ∀ other ∈ entries, key entry = key other → entry = other) :
    overwritten text (rank key priority) entries wanted = some found ↔
      Owns key priority (fun other => other ∈ entries ∧ text other = wanted) found := by
  have owns : ∀ entry, overwritten text (rank key priority) entries wanted = some entry →
      Owns key priority (fun other => other ∈ entries ∧ text other = wanted) entry := by
    intro entry looked
    obtain ⟨listed, same, highest⟩ := measure_le_of_overwritten looked
    exact ⟨⟨listed, same⟩, fun other ⟨member, also⟩ => highest other member also⟩
  refine ⟨owns found, fun owner => ?_⟩
  obtain ⟨listed, rfl⟩ := owner.among
  obtain ⟨entry, looked⟩ := exists_overwritten text (rank key priority) listed
  have owner' := owns entry looked
  rw [looked, distinct entry owner'.among.1 found listed (owner'.key_eq owner)]

/-- Entering a table of rising keys by rank, in whatever order it is gone through, makes the table
of the winners of texts. -/
theorem Rising.overwritten_eq_lookup (rising : Rising key table) {order : List α}
    (iterated : order.Perm table) :
    overwritten text (rank key priority) order wanted =
      lookup text wanted (winners text priority table) := by
  have distinct : ∀ entry ∈ order, ∀ other ∈ order, key entry = key other → entry = other :=
    fun entry listed other also =>
      rising.eq_of_key_eq (iterated.mem_iff.1 listed) (iterated.mem_iff.1 also)
  ext found
  rw [overwritten_rank_eq_some_iff distinct, rising.lookup_winners_iff_owns]
  simp only [iterated.mem_iff]

end Owners

/-- What a table and the look-ups in it say of entries from the other side. -/
structure Reflects {α τ : Type} (shown : τ → String) (text key : α → String) (priority : α → Int)
    (both : α → Bool) (entries : List α) (look : String → Option α) (back : τ → Option α)
    (table : List α) : Prop where
  /-- A target leads back to the owner of its text among those that win their keys and hold both
  ways. -/
  owner : ∀ target found, back target = some found ↔
    Owns key priority (fun entry =>
      Wins key priority entries entry ∧ both entry = true ∧ text entry = shown target) found
  /-- What a target leads back to is what its own key leads to. -/
  forward : ∀ target found, back target = some found → look (key found) = some found
  /-- Entering those that hold both ways by rank leads back to the same in whatever order the table
  is gone through. -/
  iterated : ∀ order : List α, order.Perm table → ∀ target,
    overwritten text (rank key priority) (order.filter both) (shown target) = back target

/-- The winners of texts among the winners of keys reflect the entries. -/
theorem reflects_winners {α τ : Type} (shown : τ → String) (text key : α → String)
    (priority : α → Int) (both : α → Bool) (entries : List α) :
    Reflects shown text key priority both entries (lookup key · (winners key priority entries))
      (fun target => lookup text (shown target)
        (winners text priority ((winners key priority entries).filter both)))
      (winners key priority entries) := by
  have rising : Rising key (winners key priority entries) := rising_winners key priority entries
  have back : Rising key ((winners key priority entries).filter both) := rising.filter both
  have owner : ∀ target found,
      lookup text (shown target)
          (winners text priority ((winners key priority entries).filter both)) = some found ↔
        Owns key priority (fun entry => Wins key priority entries entry ∧ both entry = true ∧
          text entry = shown target) found := by
    intro target found
    rw [back.lookup_winners_iff_owns]
    simp only [List.mem_filter, mem_winners_iff, and_assoc]
  refine ⟨owner, fun target found looked => ?_, fun order iterated target => ?_⟩
  · obtain ⟨⟨wins, -, -⟩, -⟩ := (owner target found).1 looked
    exact lookup_winners_eq_some_iff.2 ⟨rfl, wins⟩
  · exact back.overwritten_eq_lookup (iterated.filter both)

/-- From the IR side a registry of calls leads to the mapping with the greatest priority among those
that win their external types, hold both ways and have the text, and of equals to the one whose
external type is last. -/
theorem reflects_build (binding : String) (calls : List Call) :
    let registry := (Builder.after binding calls).build
    Reflects Ir.TypeReference.display (·.target.display) (·.external) (·.priority)
        (·.bidirectional) (Call.stated calls).primitives registry.lookup registry.lookupReverse
        registry.primitives ∧
      Reflects id (·.target) (·.external) (·.priority) (·.bidirectional)
        (Call.stated calls).containers registry.lookupContainer registry.lookupContainerReverse
        registry.containers := by
  intro registry
  have built : registry = _ := Builder.build_after binding calls
  rw [built]
  exact ⟨reflects_winners _ _ _ _ _ _, reflects_winners _ _ _ _ _ _⟩

/-- A mapping in one direction leaves no trace of the one that it takes the place of. -/
theorem reflects_build_shadowed :
    let calls : List Call := [.addPrimitive "u32" "Int" { priority := 1, oneWay := some .toIr },
      .withDefaults witDefaults]
    let registry := (Builder.after "wit" calls).build
    registry.primitives.reverse.Perm registry.primitives ∧
      registry.lookupReverse (.primitive "Int") = none ∧
      overwritten (·.target.display) (rank (·.external) (·.priority))
        (registry.primitives.reverse.filter (·.bidirectional)) "Int" = none := by
  intro calls registry
  have reversed : registry.primitives.reverse.Perm registry.primitives := List.reverse_perm _
  have missing : registry.lookupReverse (.primitive "Int") = none := by decide +kernel
  obtain ⟨primitives, -⟩ := reflects_build "wit" calls
  exact ⟨reversed, missing, (primitives.iterated _ reversed (.primitive "Int")).trans missing⟩

end WitBridge.Mapping
