import WitBridge.Text.Quoted

/-!
# Names

Names are in kebab case: lower-case letters, digits and hyphens, beginning with a letter and
not ending with a hyphen. Namespaces and packages bear such a name; an identifier may carry
a `%` in front of it, which lets it spell a reserved word.
-/
namespace WitBridge

/-- What is seen of an outcome is a value if something was found and the value is seen of that. -/
theorem map_eq_ok_iff {ε α β : Type} {outcome : Except ε α} {view : α → β} {value : β} :
    outcome.map view = .ok value ↔ ∃ found, outcome = .ok found ∧ view found = value := by
  cases outcome with
  | error fault => simp [Except.map]
  | ok found => simp [Except.map]

/-- Whether a character may stand in a name after its first letter. -/
def isNamePart (c : Char) : Bool :=
  c.isLower || c.isDigit || c = '-'

/-- Whether a text is in kebab case. -/
def isKebab : List Char → Bool
  | [] => false
  | c :: rest => c.isLower && rest.all isNamePart && rest.getLast? != some '-'

/-- A text in kebab case. -/
structure KebabName where
  /-- The characters of the name. -/
  text : String
  /-- The text is in kebab case. -/
  kebab : isKebab text.toList = true
  deriving DecidableEq, Repr

/-- What a name is for. -/
inductive NameRole where
  | vendor | package | identifier
  deriving DecidableEq, Repr

/-- The role as messages name it. -/
def NameRole.display : NameRole → String
  | vendor => "namespace"
  | package => "package name"
  | identifier => "identifier"

/-- A text that is no name, and the role it was to have. -/
structure NameFault where
  /-- What the name was for. -/
  role : NameRole
  /-- The text that was refused. -/
  text : String
  deriving DecidableEq, Repr

namespace NameFault

/-- Why the text was refused. -/
def reason (fault : NameFault) : String :=
  if fault.text = "" then "cannot be empty" else "must be kebab-case"

/-- What was refused, as what, and why. -/
def message (fault : NameFault) : String :=
  s!"invalid {fault.role.display} {Text.quoted fault.text}: {fault.reason}"

end NameFault

/-- The name that a text spells, for use in a given role. -/
def KebabName.ofText (role : NameRole) (text : String) : Except NameFault KebabName :=
  if kebab : isKebab text.toList = true then .ok ⟨text, kebab⟩ else .error ⟨role, text⟩

/-- A text in kebab case is read as itself. -/
theorem KebabName.ofText_text (role : NameRole) (name : KebabName) :
    KebabName.ofText role name.text = .ok name := by
  simp [ofText, name.kebab]

/-- A name is read only from its own text. -/
theorem KebabName.text_of_ofText {role : NameRole} {text : String} {name : KebabName}
    (read : KebabName.ofText role text = .ok name) : name.text = text := by
  unfold ofText at read
  split at read <;> cases read
  rfl

/-- A name of a definition, a member or an interface. -/
structure Identifier where
  /-- Whether a `%` stands in front. -/
  escaped : Bool
  /-- The name without its escape. -/
  bare : KebabName
  deriving DecidableEq, Repr

namespace Identifier

/-- The identifier as written, its escape included. -/
def text (name : Identifier) : String :=
  if name.escaped then "%" ++ name.bare.text else name.bare.text

/-- The identifier that a text spells. -/
def ofText (text : String) : Except NameFault Identifier :=
  match text.toList with
  | '%' :: rest => (KebabName.ofText .identifier (String.ofList rest)).map (⟨true, ·⟩)
  | _ => (KebabName.ofText .identifier text).map (⟨false, ·⟩)

/-- An identifier is read back from its text. -/
theorem ofText_text (name : Identifier) : ofText name.text = .ok name := by
  obtain ⟨escaped, bare⟩ := name
  cases escaped with
  | true => simp [ofText, text, KebabName.ofText_text, Except.map]
  | false =>
    have kebab := bare.kebab
    simp only [ofText, text]
    split
    · next rest shape =>
      have shape : bare.text.toList = '%' :: rest := by simpa using shape
      rw [shape] at kebab
      exact absurd kebab (by simp [isKebab, show '%'.isLower = false by decide])
    · simp [KebabName.ofText_text, Except.map]

/-- An identifier is read only from its own text. -/
theorem text_of_ofText {text : String} {name : Identifier}
    (read : ofText text = .ok name) : name.text = text := by
  have bare : ∀ {escaped : Bool} {part : String},
      (KebabName.ofText .identifier part).map (mk escaped ·) = .ok name →
        name.escaped = escaped ∧ name.bare.text = part := by
    intro escaped part made
    obtain ⟨kebab, found, rfl⟩ := map_eq_ok_iff.1 made
    exact ⟨rfl, KebabName.text_of_ofText found⟩
  unfold ofText at read
  split at read
  · next rest shape =>
    obtain ⟨escaped, same⟩ := bare read
    rw [Identifier.text, if_pos escaped, same, ← String.toList_inj, shape]
    simp
  · obtain ⟨escaped, same⟩ := bare read
    rw [Identifier.text, if_neg (by simp [escaped]), same]

end Identifier

end WitBridge
