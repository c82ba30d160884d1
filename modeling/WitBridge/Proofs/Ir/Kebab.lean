import WitBridge.Proofs.Package.Idempotence
import WitBridge.Proofs.Raising

/-!
# Texts in kebab case by way of the IR

A text in kebab case becomes a name of the IR, and the kebab case of that name is a text again. The
second text is kept whenever it goes that way. The first is kept if it is a row of segments, and of
a text in kebab case this says that no letter stands behind a digit and neither a digit nor a hyphen
behind a hyphen.
-/
namespace WitBridge.Ir

section Segments

/-- Whether a character may stand behind another in a row of segments. -/
def Follows (left right : Char) : Prop :=
  ¬(left.isDigit = true ∧ right.isLower = true) ∧
    ¬(left = '-' ∧ (right.isDigit = true ∨ right = '-'))

instance : DecidableRel Follows := fun left right =>
  inferInstanceAs (Decidable (¬(left.isDigit = true ∧ right.isLower = true) ∧
    ¬(left = '-' ∧ (right.isDigit = true ∨ right = '-'))))

/-- Whether a text begins with a small letter and each character may stand behind the one before. -/
def Flows (text : List Char) : Prop :=
  (∃ c ∈ text.head?, c.isLower = true) ∧ text.IsChain Follows

variable {c d : Char} {text rest : List Char}

/-- Anything may stand behind a small letter. -/
theorem follows_of_isLower (lower : c.isLower = true) (d : Char) : Follows c d := by
  obtain ⟨-, digit, -, -, -, -, -, hyphen⟩ := Text.case_of_isLower lower
  exact ⟨fun both => by simp [digit] at both, fun both => hyphen both.1⟩

/-- No letter stands behind a digit. -/
theorem follows_iff_of_isDigit (digit : c.isDigit = true) :
    Follows c d ↔ d.isLower = false := by
  obtain ⟨-, -, -, -, -, hyphen, -⟩ := Text.case_of_isDigit digit
  simp [Follows, digit, hyphen]

/-- Only a letter stands behind a hyphen. -/
theorem follows_hyphen_iff (part : isNamePart d = true) : Follows '-' d ↔ d.isLower = true := by
  simp only [isNamePart, Bool.or_eq_true, decide_eq_true_eq] at part
  constructor
  · intro follows
    exact part.elim (·.resolve_right fun digit => follows.2 ⟨rfl, .inl digit⟩) fun hyphen =>
      absurd ⟨rfl, .inr hyphen⟩ follows.2
  · intro lower
    obtain ⟨-, digit, -, -, -, -, -, hyphen⟩ := Text.case_of_isLower lower
    exact ⟨fun both => absurd both.1 (by decide), fun both => by simp [digit, hyphen] at both⟩

/-- Behind a digit stand digits only. -/
theorem isChain_iff_of_isDigit (digit : c.isDigit = true)
    (parts : ∀ d ∈ rest, d.isLower = true ∨ d.isDigit = true) :
    (c :: rest).IsChain Follows ↔ ∀ d ∈ rest, d.isDigit = true := by
  induction rest generalizing c with
  | nil => simp
  | cons d more ih =>
    obtain ⟨part, others⟩ := List.forall_mem_cons.1 parts
    rw [List.isChain_cons_cons, follows_iff_of_isDigit digit, List.forall_mem_cons]
    constructor
    · rintro ⟨other, chain⟩
      have digit := part.resolve_left (by simp [other])
      exact ⟨digit, (ih digit others).1 chain⟩
    · rintro ⟨digit, digits⟩
      exact ⟨(Text.case_of_isDigit digit).2.1, (ih digit others).2 digits⟩

/-- Behind a letter stand letters and then digits. -/
theorem isChain_iff_of_isLower (lower : c.isLower = true)
    (parts : ∀ d ∈ rest, d.isLower = true ∨ d.isDigit = true) :
    (c :: rest).IsChain Follows ↔ ∀ d ∈ rest.dropWhile Char.isLower, d.isDigit = true := by
  induction rest generalizing c with
  | nil => simp
  | cons d more ih =>
    obtain ⟨part, others⟩ := List.forall_mem_cons.1 parts
    rw [List.isChain_cons_cons, and_iff_right (follows_of_isLower lower d)]
    rcases part with letter | digit
    · rw [ih letter others, List.dropWhile_cons_of_pos letter]
    · have other : ¬d.isLower = true := by simp [(Text.case_of_isDigit digit).2.1]
      rw [isChain_iff_of_isDigit digit others, List.dropWhile_cons_of_neg other,
        List.forall_mem_cons, and_iff_right digit]

/-- Letters and digits are a segment if they flow. -/
theorem isSegment_iff_flows (parts : ∀ c ∈ text, c.isLower = true ∨ c.isDigit = true) :
    isSegment text = true ↔ Flows text := by
  cases text with
  | nil => simp [isSegment, Flows]
  | cons c rest =>
    obtain ⟨-, others⟩ := List.forall_mem_cons.1 parts
    by_cases lower : c.isLower = true
    · simp only [Flows, isChain_iff_of_isLower lower others]
      simp [isSegment, lower]
    · simp [isSegment, Flows, lower]

/-- A text with a hyphen flows if it flows on both sides of the hyphen. -/
theorem flows_append_iff {piece after : List Char} (absent : '-' ∉ piece)
    (parts : ∀ c ∈ after, isNamePart c = true) (inhabited : after ≠ []) :
    Flows (piece ++ '-' :: after) ↔ Flows piece ∧ Flows after := by
  obtain ⟨d, behind, rfl⟩ := List.exists_cons_of_ne_nil inhabited
  have back : ('-' :: d :: behind).IsChain Follows ↔ Flows (d :: behind) := by
    rw [List.isChain_cons_cons, follows_hyphen_iff (parts d List.mem_cons_self)]
    simp [Flows]
  cases piece with
  | nil => simp [Flows]
  | cons c more =>
    have middle : ∀ left ∈ (c :: more).getLast?, ∀ right ∈ ('-' :: d :: behind).head?,
        Follows left right := by
      intro left last right found
      obtain rfl : '-' = right := by simpa using found
      refine ⟨fun both => absurd both.2 (by decide), fun both => absent ?_⟩
      exact both.1 ▸ List.mem_of_getLast? last
    have chain : (c :: more ++ '-' :: d :: behind).IsChain Follows ↔
        (c :: more).IsChain Follows ∧ ('-' :: d :: behind).IsChain Follows := by
      rw [List.isChain_append]
      exact and_congr_right' (and_iff_left middle)
    change _ ∧ _ ↔ (_ ∧ _) ∧ _
    rw [chain, back, and_assoc]
    rfl

/-- A piece without hyphens is a segment if it flows. -/
theorem isSegment_iff_flows_piece {piece : List Char} (absent : '-' ∉ piece)
    (parts : ∀ c ∈ piece, isNamePart c = true) : isSegment piece = true ↔ Flows piece := by
  refine isSegment_iff_flows fun c listed => ?_
  have part := parts c listed
  simp only [isNamePart, Bool.or_eq_true, decide_eq_true_eq] at part
  exact part.resolve_right fun hyphen => absent (hyphen ▸ listed)

/-- Pieces between hyphens are segments if they flow where they are joined. -/
theorem isSegment_iff_flows_join {pieces : List (List Char)} (inhabited : pieces ≠ [])
    (absent : ∀ piece ∈ pieces, '-' ∉ piece)
    (parts : ∀ c ∈ Text.join '-' pieces, isNamePart c = true)
    (last : (Text.join '-' pieces).getLast? ≠ some '-') :
    (∀ piece ∈ pieces, isSegment piece = true) ↔ Flows (Text.join '-' pieces) := by
  induction pieces with
  | nil => contradiction
  | cons piece rest ih =>
    obtain ⟨here, others⟩ := List.forall_mem_cons.1 absent
    cases rest with
    | nil =>
      rw [List.forall_mem_singleton]
      exact isSegment_iff_flows_piece here parts
    | cons second rest =>
      change ∀ c ∈ piece ++ '-' :: Text.join '-' (second :: rest), _ at parts
      change (piece ++ '-' :: Text.join '-' (second :: rest)).getLast? ≠ _ at last
      obtain ⟨front, back⟩ := List.forall_mem_append.1 parts
      obtain ⟨-, back⟩ := List.forall_mem_cons.1 back
      have more : Text.join '-' (second :: rest) ≠ [] := by
        intro none
        simp [none] at last
      have ending : (Text.join '-' (second :: rest)).getLast? ≠ some '-' := by
        intro hyphen
        simp [List.getLast?_append, List.getLast?_cons, hyphen] at last
      have later := ih (List.cons_ne_nil second rest) others back ending
      refine List.forall_mem_cons.trans ?_
      refine (and_congr (isSegment_iff_flows_piece here front) later).trans ?_
      exact (flows_append_iff here back more).symm

/-- A text in kebab case is a row of segments if each character may stand behind the one before. -/
theorem isSegmented_iff_isChain (kebab : isKebab text = true) :
    IsSegmented text ↔ text.IsChain Follows := by
  cases text with
  | nil => contradiction
  | cons c rest =>
    simp only [isKebab, Bool.and_eq_true, List.all_eq_true, bne_iff_ne, ne_eq] at kebab
    obtain ⟨⟨lower, parts⟩, last⟩ := kebab
    have each : ∀ d ∈ c :: rest, isNamePart d = true :=
      List.forall_mem_cons.2 ⟨by simp [isNamePart, lower], parts⟩
    have ending : (c :: rest).getLast? ≠ some '-' := by
      cases rest with
      | nil => simpa using (Text.case_of_isLower lower).2.2.2.2.2.2.2
      | cons d more => rwa [List.getLast?_cons_cons]
    have whole := Text.join_pieces '-' (c :: rest)
    have flows := isSegment_iff_flows_join (Text.pieces_ne_nil '-' (c :: rest))
      Text.not_mem_of_mem_pieces (whole.symm ▸ each) (whole.symm ▸ ending)
    rw [whole] at flows
    exact flows.trans (and_iff_right ⟨c, rfl, lower⟩)

end Segments

/-- The text that a text becomes by way of the name of the IR that it spells. -/
def respelled (text : String) : String :=
  (Name.ofText text).kebab

/-- What a text in kebab case becomes by way of the IR is in kebab case and is kept from there on.
The text itself is kept exactly if it is a row of segments, each of small letters and then digits,
so that no letter stands behind a digit and neither a digit nor a hyphen behind a hyphen. So no two
rows of segments become one text. -/
theorem respelled_eq_iff (text : String) (kebab : isKebab text.toList = true) :
    isKebab (respelled text).toList = true ∧ respelled (respelled text) = respelled text ∧
    (respelled text = text ↔ IsSegmented text.toList) ∧
    (IsSegmented text.toList ↔ text.toList.IsChain Follows) ∧
    ∀ other : String, isKebab other.toList = true → IsSegmented text.toList →
      IsSegmented other.toList → respelled text = respelled other → text = other := by
  have kept (text : String) (kebab : isKebab text.toList = true) :
      respelled text = text ↔ IsSegmented text.toList := by
    rw [← (⟨text, kebab⟩ : KebabName).image_eq_iff, KebabName.mk.injEq]
    exact eq_comm
  let name : KebabName := ⟨text, kebab⟩
  refine ⟨name.isKebab_kebab, congrArg KebabName.text name.image_image, kept text kebab,
    isSegmented_iff_isChain kebab, fun other kebab' segmented segmented' same => ?_⟩
  rw [← (kept text kebab).2 segmented, same, (kept other kebab').2 segmented']

/-- A letter behind a digit gets a hyphen, and the text with the hyphen is kept. -/
theorem respelled_eq_iff_digits :
    respelled "utf8-text" = "utf8-text" ∧ respelled "utf8text" ≠ "utf8text" := by
  obtain ⟨-, -, kept, -⟩ := respelled_eq_iff "utf8-text" (by decide)
  obtain ⟨-, -, lost, -⟩ := respelled_eq_iff "utf8text" (by decide)
  exact ⟨kept.2 (by decide), fun same => absurd (lost.1 same) (by decide)⟩

end WitBridge.Ir
