import WitBridge.Lowering
import WitBridge.Package.Comparison
import WitBridge.Proofs.Ir.Spelling
import WitBridge.Raising

/-!
# Identifiers and names of the IR

An identifier becomes a name of the IR, and every such name has an identifier again. The two
agree exactly if the text of the first is a row of segments. A worded name becomes an identifier
that becomes the name again.
-/
namespace WitBridge

namespace KebabName

/-- A name begins with a small letter. -/
theorem begins (name : KebabName) :
    ∃ c rest, name.text.toList = c :: rest ∧ c.isLower = true := by
  have kebab := name.kebab
  cases shape : name.text.toList with
  | nil => rw [shape] at kebab; contradiction
  | cons c rest =>
    rw [shape, isKebab, Bool.and_eq_true, Bool.and_eq_true] at kebab
    exact ⟨c, rest, rfl, kebab.1.1⟩

/-- A name has no capitals. -/
theorem not_isUpper (name : KebabName) : ∀ c ∈ name.text.toList, c.isUpper = false := by
  have kebab := name.kebab
  cases shape : name.text.toList with
  | nil => exact nofun
  | cons c rest =>
    rw [shape, isKebab, Bool.and_eq_true, Bool.and_eq_true, List.all_eq_true] at kebab
    refine List.forall_mem_cons.2 ⟨(Text.case_of_isLower kebab.1.1).1, fun d listed => ?_⟩
    have part := kebab.1.2 d listed
    simp only [isNamePart, Bool.or_eq_true, decide_eq_true_eq] at part
    rcases part with (lower | digit) | hyphen
    · exact (Text.case_of_isLower lower).1
    · exact (Text.case_of_isDigit digit).1
    · subst hyphen
      decide

/-- The words of a name are words. -/
theorem isWord_words (name : KebabName) :
    ∀ word ∈ (Ir.Name.ofText name.text).words, Ir.IsWord word.toList := by
  intro word listed
  obtain ⟨characters, inside, rfl⟩ := List.mem_map.1 listed
  rw [String.toList_ofList]
  exact Ir.isWord_of_mem_wordsOf _ name.not_isUpper characters inside

/-- The kebab case of the words of a name spells them. -/
theorem kebab_ofText (name : KebabName) :
    (Ir.Name.ofText name.text).kebab =
      String.ofList (Ir.spelled (Ir.wordsOf name.text.toList)) := by
  rw [Ir.Name.kebab_eq name.isWord_words, Ir.Name.ofText, List.map_map]
  simp [Function.comp_def]

/-- The words of a name have a kebab case. -/
theorem isKebab_kebab (name : KebabName) :
    isKebab (Ir.Name.ofText name.text).kebab.toList = true := by
  obtain ⟨c, rest, shape, lower⟩ := name.begins
  obtain ⟨first, found, letters⟩ := Ir.letters_of_head_wordsOf rest lower
  rw [kebab_ofText, String.toList_ofList]
  rw [← shape] at found
  exact Ir.isKebab_spelled (Ir.isWord_of_mem_wordsOf _ name.not_isUpper) found letters

/-- The name that a name becomes by way of its words. -/
def image (name : KebabName) : KebabName :=
  ⟨(Ir.Name.ofText name.text).kebab, name.isKebab_kebab⟩

/-- A name is kept exactly if it is segmented. -/
theorem image_eq_iff (name : KebabName) :
    name = name.image ↔ Ir.IsSegmented name.text.toList := by
  obtain ⟨c, rest, shape, lower⟩ := name.begins
  have small := name.not_isUpper
  rw [shape] at small
  have kept := Ir.spelled_wordsOf_iff lower small
  rw [← shape] at kept
  rw [← kept, KebabName.mk.injEq]
  change name.text = (Ir.Name.ofText name.text).kebab ↔ _
  rw [kebab_ofText, ← String.toList_inj, String.toList_ofList]
  exact eq_comm

end KebabName

namespace Identifier

/-- Whether an identifier is, without its escape, a row of segments between hyphens, each of
letters and then digits. -/
def isPlain (name : Identifier) : Bool :=
  decide (Ir.IsSegmented name.bare.text.toList)

/-- The identifier that an identifier becomes by way of its words. -/
def image (name : Identifier) : Identifier :=
  ⟨false, name.bare.image⟩

/-- An identifier agrees with what it becomes exactly if it is plain. -/
theorem agrees_image (name : Identifier) : name.agrees name.image = name.isPlain :=
  decide_eq_decide.2 name.bare.image_eq_iff

end Identifier

/-- A name with a kebab case is raised to it. -/
theorem Raising.identifier_of_isKebab (what : String) {name : Ir.Name}
    (kebab : isKebab name.kebab.toList = true) :
    Raising.identifier what name = pure (some ⟨false, ⟨name.kebab, kebab⟩⟩) := by
  have read := Identifier.ofText_text ⟨false, ⟨name.kebab, kebab⟩⟩
  change Identifier.ofText name.kebab = _ at read
  rw [identifier, read]

/-- The name of an identifier is raised to what the identifier becomes. -/
theorem Raising.identifier_irName (what : String) (name : Identifier) :
    Raising.identifier what name.irName = pure (some name.image) :=
  identifier_of_isKebab what name.bare.isKebab_kebab

namespace Ir.Name.Worded

variable {name : Ir.Name}

/-- The identifier of a worded name. -/
def identifier (worded : name.Worded) : Identifier :=
  ⟨false, ⟨name.kebab, worded.isKebab⟩⟩

/-- A worded name is raised to its identifier. -/
theorem raised (worded : name.Worded) (what : String) :
    Raising.identifier what name = pure (some worded.identifier) :=
  Raising.identifier_of_isKebab what worded.isKebab

/-- The identifier of a worded name becomes the name. -/
theorem irName_identifier (worded : name.Worded) : worded.identifier.irName = name :=
  worded.ofText_kebab

end Ir.Name.Worded

end WitBridge
