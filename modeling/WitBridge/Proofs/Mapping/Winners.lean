import Mathlib.Data.Finset.Card
import Mathlib.Data.String.Basic
import WitBridge.Mapping.Builder

/-!
# Tables of winners

The table of winners holds entries of the list it is made of, and its keys rise, so a key has one
entry at most: the last of those with the greatest priority. A registry is two such tables, and what
is found in it from the IR side stands in the table of the external side too and holds both ways.
-/
namespace WitBridge.Mapping

/-- A table whose keys rise. -/
def Rising {α : Type} (key : α → String) (table : List α) : Prop :=
  table.Pairwise fun earlier later => key earlier < key later

section Tables

variable {α : Type} {key : α → String} {priority : α → Int} {entry found : α} {table : List α}

/-- What stands in a table after an entry was put into it is the entry or stood in it before. -/
theorem mem_challenge (listed : found ∈ challenge key priority entry table) :
    found = entry ∨ found ∈ table := by
  induction table with
  | nil => exact .inl (List.mem_singleton.1 listed)
  | cons other rest ih =>
    rw [challenge] at listed
    split at listed
    · exact List.mem_cons.1 listed
    · split at listed
      · rcases List.mem_cons.1 listed with rfl | listed
        · split
          · exact .inl rfl
          · exact .inr List.mem_cons_self
        · exact .inr (List.mem_cons_of_mem _ listed)
      · rcases List.mem_cons.1 listed with rfl | listed
        · exact .inr List.mem_cons_self
        · exact (ih listed).imp_right (List.mem_cons_of_mem _)

/-- An entry is put into a table so that the keys rise. -/
theorem Rising.challenge (rising : Rising key table) :
    Rising key (challenge key priority entry table) := by
  induction table with
  | nil => exact List.pairwise_singleton _ _
  | cons other rest ih =>
    obtain ⟨first, others⟩ := List.pairwise_cons.1 rising
    rw [Mapping.challenge]
    split
    · next before =>
      refine List.pairwise_cons.2 ⟨List.forall_mem_cons.2 ⟨before, fun later listed => ?_⟩, rising⟩
      exact before.trans (first later listed)
    · next notBefore =>
      split
      · next same =>
        -- The entry and the one in its place have one key.
        refine List.pairwise_cons.2 ⟨fun later listed => ?_, others⟩
        split
        · rw [same]
          exact first later listed
        · exact first later listed
      · next apart =>
        refine List.pairwise_cons.2 ⟨fun later listed => ?_, ih others⟩
        rcases mem_challenge listed with rfl | listed
        · exact lt_of_le_of_ne (not_lt.1 notBefore) (Ne.symm apart)
        · exact first later listed

/-- The keys of winners rise. -/
theorem rising_winners (key : α → String) (priority : α → Int) (entries : List α) :
    Rising key (winners key priority entries) :=
  List.foldlRecOn (motive := Rising key) entries _ List.Pairwise.nil
    fun _ rising _ _ => rising.challenge

/-- What is found under a key stands in the table and has the key. -/
theorem mem_of_lookup {wanted : String} (looked : lookup key wanted table = some found) :
    found ∈ table ∧ key found = wanted :=
  ⟨List.mem_of_find?_eq_some looked, by simpa using List.find?_some looked⟩

/-- In a table of rising keys the first entry of some sort is the one with the least key. -/
theorem Rising.find?_eq_some (rising : Rising key table) {accept : α → Bool}
    (listed : found ∈ table) (accepted : accept found = true)
    (least : ∀ other ∈ table, accept other = true → ¬key other < key found) :
    table.find? accept = some found := by
  induction table with
  | nil => contradiction
  | cons head rest ih =>
    obtain ⟨first, others⟩ := List.pairwise_cons.1 rising
    rcases List.mem_cons.1 listed with rfl | listed
    · exact List.find?_cons_of_pos accepted
    · have refused : ¬accept head = true := fun also =>
        least head List.mem_cons_self also (first found listed)
      rw [List.find?_cons_of_neg refused]
      exact ih others listed fun other member => least other (List.mem_cons_of_mem _ member)

end Tables

section Winning

variable {α : Type} {key : α → String} {priority : α → Int} {entry found : α}
  {entries table : List α} {wanted : String}

/-- Whether an entry wins its key: it is the last of the entries with its key that have the greatest
priority. -/
def Wins (key : α → String) (priority : α → Int) (entries : List α) (entry : α) : Prop :=
  ∃ before after, entries = before ++ entry :: after ∧
    (∀ earlier ∈ before, key earlier = key entry → priority earlier ≤ priority entry) ∧
    ∀ later ∈ after, key later = key entry → priority later < priority entry

/-- A winner is one of the entries. -/
theorem Wins.mem (wins : Wins key priority entries entry) : entry ∈ entries := by
  obtain ⟨before, after, rfl, -, -⟩ := wins
  exact List.mem_append_right before List.mem_cons_self

/-- No entry with the key of a winner has a higher priority. -/
theorem Wins.priority_le (wins : Wins key priority entries entry) :
    ∀ other ∈ entries, key other = key entry → priority other ≤ priority entry := by
  obtain ⟨before, after, rfl, earlier, later⟩ := wins
  intro other listed same
  rcases List.mem_append.1 listed with listed | listed
  · exact earlier other listed same
  · rcases List.mem_cons.1 listed with rfl | listed
    · exact le_rfl
    · exact (later other listed same).le

/-- A further entry wins its key if no entry before it has a higher priority, and of the other
winners those stay that have another key or a higher priority. -/
theorem wins_append_singleton :
    Wins key priority (entries ++ [entry]) found ↔
      (found = entry ∧ ∀ other ∈ entries, key other = key entry → priority other ≤ priority entry) ∨
        Wins key priority entries found ∧
          (key entry = key found → priority entry < priority found) := by
  constructor
  · rintro ⟨before, after, shape, earlier, later⟩
    rcases List.eq_nil_or_concat' after with rfl | ⟨front, last, rfl⟩
    · obtain ⟨rfl, same⟩ := List.append_inj' shape rfl
      obtain rfl := List.singleton_inj.1 same
      exact .inl ⟨rfl, earlier⟩
    · rw [← List.cons_append, ← List.append_assoc] at shape
      obtain ⟨rfl, same⟩ := List.append_inj' shape rfl
      obtain rfl := List.singleton_inj.1 same
      refine .inr ⟨⟨before, front, rfl, earlier, fun other listed => ?_⟩, ?_⟩
      · exact later other (List.mem_append_left _ listed)
      · exact later entry (List.mem_append_right _ List.mem_cons_self)
  · rintro (⟨rfl, highest⟩ | ⟨⟨before, after, rfl, earlier, later⟩, stays⟩)
    · exact ⟨entries, [], rfl, highest, nofun⟩
    · refine ⟨before, after ++ [entry], by simp, earlier, fun other listed => ?_⟩
      rcases List.mem_append.1 listed with listed | listed
      · exact later other listed
      · obtain rfl := List.mem_singleton.1 listed
        exact stays

/-- Every entry has a winner of its key that has no lower priority. -/
theorem exists_wins (key : α → String) (priority : α → Int) {other : α}
    (listed : other ∈ entries) :
    ∃ winner, Wins key priority entries winner ∧ key winner = key other ∧
      priority other ≤ priority winner := by
  induction entries using List.reverseRecOn generalizing other with
  | nil => contradiction
  | append_singleton entries entry ih =>
    simp only [wins_append_singleton]
    -- The new entry is beaten by a winner so far, or it wins its key.
    by_cases beaten : ∃ rival ∈ entries, key rival = key entry ∧ priority entry < priority rival
    · obtain ⟨rival, member, same, higher⟩ := beaten
      rcases List.mem_append.1 listed with listed | listed
      · obtain ⟨winner, wins, shared, le⟩ := ih listed
        refine ⟨winner, .inr ⟨wins, fun also => ?_⟩, shared, le⟩
        exact higher.trans_le (wins.priority_le rival member (same.trans also))
      · obtain rfl := List.mem_singleton.1 listed
        obtain ⟨winner, wins, shared, le⟩ := ih member
        exact ⟨winner, .inr ⟨wins, fun _ => higher.trans_le le⟩, shared.trans same,
          higher.le.trans le⟩
    · have highest : ∀ rival ∈ entries, key rival = key entry → priority rival ≤ priority entry :=
        fun rival member same => not_lt.1 fun higher => beaten ⟨rival, member, same, higher⟩
      rcases List.mem_append.1 listed with listed | listed
      · by_cases same : key other = key entry
        · exact ⟨entry, .inl ⟨rfl, highest⟩, same.symm, highest other listed same⟩
        · obtain ⟨winner, wins, shared, le⟩ := ih listed
          exact ⟨winner, .inr ⟨wins, fun also => absurd (shared.symm.trans also.symm) same⟩, shared,
            le⟩
      · obtain rfl := List.mem_singleton.1 listed
        exact ⟨other, .inl ⟨rfl, highest⟩, rfl, le_rfl⟩

/-- What stands in a table of rising keys after an entry was put into it: the entry if none with its
key has a higher priority, and of the others those with another key or a higher priority. -/
theorem Rising.mem_challenge_iff (rising : Rising key table) :
    found ∈ Mapping.challenge key priority entry table ↔
      (found = entry ∧ ∀ other ∈ table, key other = key entry → priority other ≤ priority entry) ∨
        found ∈ table ∧ (key entry = key found → priority entry < priority found) := by
  induction table with
  | nil => simp [Mapping.challenge]
  | cons head rest ih =>
    obtain ⟨first, others⟩ := List.pairwise_cons.1 rising
    rw [Mapping.challenge]
    split
    · next before =>
      -- No entry of the table has the key.
      have apart : ∀ other ∈ head :: rest, key entry ≠ key other := by
        refine List.forall_mem_cons.2 ⟨before.ne, fun later listed => ?_⟩
        exact (before.trans (first later listed)).ne
      grind
    · split
      · next same =>
        -- The head is the only entry with the key.
        have apart : ∀ later ∈ rest, key entry ≠ key later := fun later listed =>
          same ▸ (first later listed).ne
        grind
      · next apart =>
        have tail := ih others
        grind

/-- The table of winners holds exactly the entries that win their keys. -/
theorem mem_winners_iff :
    found ∈ winners key priority entries ↔ Wins key priority entries found := by
  induction entries using List.reverseRecOn generalizing found with
  | nil =>
    refine ⟨fun listed => absurd listed List.not_mem_nil, fun wins => ?_⟩
    exact absurd wins.mem List.not_mem_nil
  | append_singleton entries entry ih =>
    have step : winners key priority (entries ++ [entry]) =
        challenge key priority entry (winners key priority entries) := by
      simp [winners]
    -- An entry with a higher priority is as good as a winner with one.
    have bound : (∀ other ∈ winners key priority entries,
        key other = key entry → priority other ≤ priority entry) ↔
          ∀ other ∈ entries, key other = key entry → priority other ≤ priority entry := by
      refine ⟨fun highest other listed same => ?_, fun highest other listed same => ?_⟩
      · obtain ⟨winner, wins, shared, le⟩ := exists_wins key priority listed
        exact le.trans (highest winner (ih.2 wins) (shared.trans same))
      · exact highest other (ih.1 listed).mem same
    rw [step, (rising_winners key priority entries).mem_challenge_iff, bound, ih,
      wins_append_singleton]

/-- Winners are entries. -/
theorem mem_of_mem_winners (listed : found ∈ winners key priority entries) : found ∈ entries :=
  (mem_winners_iff.1 listed).mem

/-- In a table of rising keys exactly the entries of a key are found under it. -/
theorem Rising.lookup_eq_some_iff (rising : Rising key table) :
    lookup key wanted table = some found ↔ key found = wanted ∧ found ∈ table := by
  refine ⟨fun looked => (mem_of_lookup looked).symm, fun ⟨same, listed⟩ => ?_⟩
  refine rising.find?_eq_some listed (decide_eq_true same) fun other _ also => ?_
  rw [of_decide_eq_true also, same]
  exact lt_irrefl wanted

/-- A key leads to the entry that wins it. -/
theorem lookup_winners_eq_some_iff :
    lookup key wanted (winners key priority entries) = some found ↔
      key found = wanted ∧ Wins key priority entries found := by
  rw [(rising_winners key priority entries).lookup_eq_some_iff, mem_winners_iff]

/-- A key leads nowhere exactly if no entry has it. -/
theorem lookup_winners_eq_none_iff :
    lookup key wanted (winners key priority entries) = none ↔
      ∀ entry ∈ entries, key entry ≠ wanted := by
  rw [Option.eq_none_iff_forall_ne_some]
  refine ⟨fun missing entry listed same => ?_, fun none found looked => ?_⟩
  · obtain ⟨winner, wins, shared, -⟩ := exists_wins key priority listed
    exact missing winner (lookup_winners_eq_some_iff.2 ⟨shared.trans same, wins⟩)
  · obtain ⟨same, wins⟩ := lookup_winners_eq_some_iff.1 looked
    exact none found wins.mem same

end Winning

namespace Registry

/-- A registry whose external types rise in each table. -/
structure Ordered (registry : Registry) : Prop where
  primitives : Rising (·.external) registry.primitives
  containers : Rising (·.external) registry.containers

variable {registry : Registry}

/-- What is found of an external type stands in the registry and is of that type. -/
theorem mem_of_lookup {external : String} {found : Primitive}
    (looked : registry.lookup external = some found) :
    found ∈ registry.primitives ∧ found.external = external :=
  Mapping.mem_of_lookup looked

/-- What is found from the IR side stands in the registry, holds both ways and has the text of the
IR type. -/
theorem mem_of_lookupReverse {target : Ir.TypeReference} {found : Primitive}
    (looked : registry.lookupReverse target = some found) :
    found ∈ registry.primitives ∧ found.bidirectional = true ∧
      found.target.display = target.display := by
  obtain ⟨listed, same⟩ := Mapping.mem_of_lookup looked
  obtain ⟨listed, both⟩ := List.mem_filter.1 (mem_of_mem_winners listed)
  exact ⟨listed, both, same⟩

/-- A container that is found from the IR side stands in the registry, holds both ways and has the
text. -/
theorem mem_of_lookupContainerReverse {target : String} {found : Container}
    (looked : registry.lookupContainerReverse target = some found) :
    found ∈ registry.containers ∧ found.bidirectional = true ∧ found.target = target := by
  obtain ⟨listed, same⟩ := Mapping.mem_of_lookup looked
  obtain ⟨listed, both⟩ := List.mem_filter.1 (mem_of_mem_winners listed)
  exact ⟨listed, both, same⟩

end Registry

/-- The tables of a registry that was built rise. -/
theorem Builder.ordered_build (builder : Builder) : builder.build.Ordered where
  primitives := rising_winners _ _ _
  containers := rising_winners _ _ _

end WitBridge.Mapping
