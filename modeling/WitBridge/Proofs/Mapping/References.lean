import WitBridge.Proofs.Ir.QualifiedName
import WitBridge.Proofs.Mapping.Reverse

/-!
# References as keys

From the IR side a registry is asked by the text of a reference. The text of a reference stands for
it where no two neighbouring words of a name are numbers, so among such references the mapping that
is found is one of the reference that was asked for.
-/
namespace WitBridge.Mapping

open Ir (QualifiedName TypeReference)

/-- What is found from the IR side has the text that was asked for. -/
theorem Registry.display_of_lookupReverse {registry : Registry} {reference : TypeReference}
    {found : Primitive} (looked : registry.lookupReverse reference = some found) :
    found.target.display = reference.display :=
  (lookup_winners_eq_some_iff.1 looked).1

/-- A qualified name that a text spells is read back from its own text exactly if it has a package,
a module and a name of its own and no two neighbouring words of its names are numbers. References
that texts spell are told apart by their texts if neither has such neighbours. So if the reference
that a registry is asked for from the IR side has none, the mapping that is found is one of that
reference exactly if its own reference has none. -/
theorem faithful_display :
    (∀ text name, QualifiedName.ofText text = .ok name →
      (QualifiedName.ofText name.display = .ok name ↔
        (name.packagePath.names ≠ [] ∧ name.modulePath.names ≠ [] ∧ name.localName.words ≠ []) ∧
          ∀ part ∈ name.names, part.IsApart)) ∧
    (∀ text text' reference reference', TypeReference.ofText text = .ok reference →
      TypeReference.ofText text' = .ok reference' → reference.IsApart → reference'.IsApart →
      reference.display = reference'.display → reference = reference') ∧
    ∀ (registry : Registry) text text' reference found,
      TypeReference.ofText text = .ok reference → reference.IsApart →
      registry.lookupReverse reference = some found →
      TypeReference.ofText text' = .ok found.target →
      (found.target = reference ↔ found.target.IsApart) := by
  have apart : ∀ text text' reference reference', TypeReference.ofText text = .ok reference →
      TypeReference.ofText text' = .ok reference' → reference.IsApart → reference'.IsApart →
      reference.display = reference'.display → reference = reference' :=
    fun text text' reference reference' read read' =>
      TypeReference.display_inj (TypeReference.isSpelled_of_ofText read)
        (TypeReference.isSpelled_of_ofText read')
  refine ⟨fun text name read => ?_, apart, ?_⟩
  · exact QualifiedName.ofText_display_eq_iff (QualifiedName.ofWords_of_ofText read)
  · intro registry text text' reference found read alone looked read'
    constructor
    · rintro rfl
      exact alone
    · intro alone'
      exact apart text' text found.target reference read' read alone' alone
        (Registry.display_of_lookupReverse looked)

/-- A name with the numbers 1 and 2 has the text of one with the number 12, so a mapping of the
first is found under the second. Without such neighbours a name is read back. -/
theorem faithful_display_numbers :
    let named (words : List String) : QualifiedName := ⟨⟨[⟨["a"]⟩]⟩, ⟨[⟨["b"]⟩]⟩, ⟨words⟩⟩
    let mapping : Primitive := ⟨"u32", .qualified (named ["c", "1", "2"]), none, 0, []⟩
    let registry := (Builder.after "wit" [.addPrimitive "u32" "A:B:c1-2" {}]).build
    QualifiedName.ofText (named ["c", "12"]).display = .ok (named ["c", "12"]) ∧
      QualifiedName.ofText (named ["c", "1", "2"]).display ≠ .ok (named ["c", "1", "2"]) ∧
      registry.lookupReverse (.qualified (named ["c", "12"])) = some mapping ∧
      mapping.target ≠ .qualified (named ["c", "12"]) := by
  intro named mapping registry
  have looked : registry.lookupReverse (.qualified (named ["c", "12"])) = some mapping := by
    decide +kernel
  have one : QualifiedName.ofText "A:B:c12" = .ok (named ["c", "12"]) := by decide +kernel
  have two : QualifiedName.ofText "A:B:c1-2" = .ok (named ["c", "1", "2"]) := by decide +kernel
  have one' : TypeReference.ofText "A:B:c12" = .ok (.qualified (named ["c", "12"])) := by
    decide +kernel
  have two' : TypeReference.ofText "A:B:c1-2" = .ok mapping.target := by decide +kernel
  obtain ⟨kept, -, found⟩ := faithful_display
  refine ⟨(kept _ _ one).2 (by decide +kernel), (kept _ _ two).not.2 (by decide +kernel), looked,
    ?_⟩
  have same := found registry _ _ _ mapping one' (by decide +kernel) looked two'
  exact same.not.2 (by decide +kernel)

end WitBridge.Mapping
