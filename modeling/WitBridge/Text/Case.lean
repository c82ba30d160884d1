import WitBridge.Text.CaseTable

/-!
# Case mapping

The full mapping of a character to upper case and of a text to lower case. ASCII letters map
among themselves, every other character by the tables. One letter depends on its neighbours:
a capital sigma is written `ς` where it ends a word and `σ` elsewhere.
-/
namespace WitBridge.Text

/-- The image of a character under a table of runs and a table of expansions. -/
def mapCase (expansions : List (Nat × List Nat)) (runs : List CaseRun) (c : Char) : List Char :=
  match expansions.lookup c.toNat with
  | some codes => codes.map Char.ofNat
  | none =>
    match runs.find? (·.contains c.toNat) with
    | some run => [Char.ofNat (c.toNat + run.offset).toNat]
    | none => [c]

/-- The upper case of a character, one or more characters. -/
def upperChar (c : Char) : List Char :=
  if c.toNat < 0x80 then [c.toUpper] else mapCase upperExpansions upperRuns c

/-- The lower case of a character on its own. -/
def lowerChar (c : Char) : List Char :=
  if c.toNat < 0x80 then [c.toLower] else mapCase lowerExpansions lowerRuns c

/-- Whether a letter follows once characters that do not matter for case are passed over. -/
def reachesCased (text : List Char) : Bool :=
  match text.dropWhile (inRanges caseIgnorableRanges) with
  | c :: _ => inRanges casedRanges c
  | [] => false

/-- The lower case of a text that follows the characters `before`, nearest first. -/
def lowerAfter (before : List Char) : List Char → List Char
  | [] => []
  | c :: rest =>
    let image :=
      if c = 'Σ' then [if reachesCased before && !reachesCased rest then 'ς' else 'σ']
      else lowerChar c
    image ++ lowerAfter (c :: before) rest

/-- The lower case of a text. -/
def lower (text : List Char) : List Char :=
  lowerAfter [] text

/-- A word with its first character in upper case. -/
def capitalize : List Char → List Char
  | [] => []
  | c :: rest => upperChar c ++ rest

/-- An ASCII character has one character as its upper case. -/
theorem upperChar_ascii {c : Char} (ascii : c.toNat < 0x80) : upperChar c = [c.toUpper] := by
  simp [upperChar, ascii]

/-- An ASCII character has one character as its lower case. -/
theorem lowerChar_ascii {c : Char} (ascii : c.toNat < 0x80) : lowerChar c = [c.toLower] := by
  simp [lowerChar, ascii]

/-- On ASCII text the neighbours of a character do not matter. -/
theorem lowerAfter_ascii (before : List Char) {text : List Char}
    (ascii : ∀ c ∈ text, c.toNat < 0x80) : lowerAfter before text = text.map Char.toLower := by
  induction text generalizing before with
  | nil => rfl
  | cons c rest ih =>
    have head : c.toNat < 0x80 := ascii c (by simp)
    have plain : c ≠ 'Σ' := by rintro rfl; exact absurd head (by decide)
    simp [lowerAfter, plain, lowerChar_ascii head,
      ih (c :: before) fun d member => ascii d (by simp [member])]

/-- The lower case of ASCII text is taken letter by letter. -/
theorem lower_ascii {text : List Char} (ascii : ∀ c ∈ text, c.toNat < 0x80) :
    lower text = text.map Char.toLower :=
  lowerAfter_ascii [] ascii

end WitBridge.Text
