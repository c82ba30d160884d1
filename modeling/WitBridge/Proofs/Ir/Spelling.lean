import WitBridge.Name
import WitBridge.Proofs.Ir.Rendering

/-!
# Spellings that are kept

The name that a text in kebab case spells has an identifier again. It is the text itself exactly
if the text is a row of segments between hyphens, each of letters and then digits. The other way
about, a name is read back from its identifier if its words can be told apart.
-/
namespace WitBridge.Ir

/-- Whether a text is one or more small letters and then digits, of which there may be none. -/
def isSegment (text : List Char) : Bool :=
  (text.head?.any Char.isLower) && (text.dropWhile Char.isLower).all Char.isDigit

/-- A text whose pieces between hyphens are segments. -/
def IsSegmented (text : List Char) : Prop :=
  ∀ piece ∈ Text.pieces '-' text, isSegment piece = true

instance (text : List Char) : Decidable (IsSegmented text) :=
  inferInstanceAs (Decidable (∀ piece ∈ Text.pieces '-' text, isSegment piece = true))

/-- A segment is letters and then digits, if there are any. -/
theorem isSegment_iff {text : List Char} :
    isSegment text = true ↔
      ∃ letters digits, text = letters ++ digits ∧ IsLetters letters ∧
        ∀ c ∈ digits, c.isDigit = true := by
  unfold isSegment
  rw [Bool.and_eq_true, List.all_eq_true]
  constructor
  · rintro ⟨head, digits⟩
    refine ⟨text.takeWhile Char.isLower, text.dropWhile Char.isLower,
      List.takeWhile_append_dropWhile.symm, ⟨?_, fun c => List.mem_takeWhile_imp⟩, digits⟩
    cases text with
    | nil => contradiction
    | cons c rest =>
      have lower : c.isLower = true := by simpa using head
      simp [lower]
  · rintro ⟨letters, digits, rfl, ⟨inhabited, lower⟩, number⟩
    constructor
    · cases letters with
      | nil => contradiction
      | cons c rest => simpa using lower c (by simp)
    · have rest : digits.dropWhile Char.isLower = digits := by
        cases digits with
        | nil => rfl
        | cons d more => simp [(Text.case_of_isDigit (number d (by simp))).2.1]
      rw [List.dropWhile_append_of_pos lower, rest]
      exact number

/-- Letters are a segment. -/
theorem IsLetters.isSegment {word : List Char} (letters : IsLetters word) :
    Ir.isSegment word = true :=
  isSegment_iff.2 ⟨word, [], by simp, letters, nofun⟩

/-- Digits at the end of a segment leave it a segment. -/
theorem isSegment_append {segment digits : List Char} (isSegment : Ir.isSegment segment = true)
    (number : ∀ c ∈ digits, c.isDigit = true) : Ir.isSegment (segment ++ digits) = true := by
  obtain ⟨letters, first, rfl, isLetters, others⟩ := isSegment_iff.1 isSegment
  refine isSegment_iff.2 ⟨letters, first ++ digits, by simp, isLetters, fun c listed => ?_⟩
  exact (List.mem_append.1 listed).elim (others c) (number c)

/-- Segments have no hyphen. -/
theorem hyphen_not_mem_of_isSegment {segment : List Char}
    (isSegment : Ir.isSegment segment = true) : '-' ∉ segment := by
  obtain ⟨letters, digits, rfl, isLetters, number⟩ := isSegment_iff.1 isSegment
  intro listed
  rcases List.mem_append.1 listed with listed | listed
  · exact absurd (isLetters.2 _ listed) (by decide)
  · exact absurd (number _ listed) (by decide)

/-- Words behind a segment leave a text of segments. -/
theorem isSegmented_append {segment : List Char} {words : List (List Char)}
    (isSegment : Ir.isSegment segment = true) (each : ∀ word ∈ words, IsWord word) :
    IsSegmented (segment ++ words.flatMap hyphened) := by
  induction words generalizing segment with
  | nil =>
    rw [List.flatMap_nil, List.append_nil, IsSegmented,
      Text.pieces_of_not_mem (hyphen_not_mem_of_isSegment isSegment)]
    simpa using isSegment
  | cons word rest ih =>
    obtain ⟨head, others⟩ := List.forall_mem_cons.1 each
    rw [List.flatMap_cons]
    rcases head with letters | number
    · rw [letters.hyphened_eq, List.cons_append, IsSegmented,
        Text.pieces_append (hyphen_not_mem_of_isSegment isSegment)]
      exact List.forall_mem_cons.2 ⟨isSegment, ih letters.isSegment others⟩
    · rw [number.hyphened_eq, ← List.append_assoc]
      exact ih (isSegment_append isSegment number.2) others

/-- Spelled words that begin with letters are segments. -/
theorem isSegmented_spelled {words : List (List Char)} {first : List Char}
    (each : ∀ word ∈ words, IsWord word) (found : first ∈ words.head?)
    (letters : IsLetters first) : IsSegmented (spelled words) := by
  cases words with
  | nil => contradiction
  | cons word rest =>
    obtain rfl : word = first := by simpa using found
    exact isSegmented_append letters.isSegment fun other listed =>
      each other (List.mem_cons_of_mem _ listed)

/-- The words of a segment and of what comes after its hyphen, each behind its hyphen. -/
theorem flatMap_wordsOf_segment {segment : List Char}
    (isSegment : Ir.isSegment segment = true) (after : List Char)
    (apart : ∀ c ∈ after.head?, c = '-') :
    (wordsOf (segment ++ after)).flatMap hyphened =
      '-' :: segment ++ (wordsOf after).flatMap hyphened := by
  obtain ⟨letters, digits, rfl, isLetters, number⟩ := isSegment_iff.1 isSegment
  have stop : ∀ c ∈ after.head?, c.isLower = false ∧ c.isDigit = false := by
    intro c found
    obtain rfl := apart c found
    exact ⟨by decide, by decide⟩
  have tail : (wordsOf (digits ++ after)).flatMap hyphened =
      digits ++ (wordsOf after).flatMap hyphened := by
    by_cases none : digits = []
    · rw [none, List.nil_append, List.nil_append]
    · have isNumber : IsNumber digits := ⟨none, number⟩
      rw [isNumber.wordsOf_append fun c found => (stop c found).2, List.flatMap_cons,
        isNumber.hyphened_eq]
  have next : ∀ c ∈ (digits ++ after).head?, c.isLower = false := by
    cases digits with
    | nil => exact fun c found => (stop c found).1
    | cons d more =>
      intro c found
      obtain rfl : d = c := by simpa using found
      exact (Text.case_of_isDigit (number d (by simp))).2.1
  rw [List.append_assoc, isLetters.wordsOf_append next, List.flatMap_cons, isLetters.hyphened_eq,
    tail]
  simp

/-- The words of segments are spelled as the segments. -/
theorem flatMap_wordsOf_join {segments : List (List Char)} (inhabited : segments ≠ [])
    (each : ∀ segment ∈ segments, isSegment segment = true) :
    (wordsOf (Text.join '-' segments)).flatMap hyphened = '-' :: Text.join '-' segments := by
  induction segments with
  | nil => contradiction
  | cons segment rest ih =>
    obtain ⟨head, others⟩ := List.forall_mem_cons.1 each
    cases rest with
    | nil =>
      have alone := flatMap_wordsOf_segment head [] nofun
      rw [List.append_nil, wordsOf_nil] at alone
      simpa [Text.join] using alone
    | cons second rest =>
      have more := ih (by simp) others
      have first := flatMap_wordsOf_segment head ('-' :: Text.join '-' (second :: rest)) (by simp)
      rw [wordsOf_hyphen, more] at first
      simpa [Text.join] using first

/-- The words of a text that begins with a letter begin with letters. -/
theorem letters_of_head_wordsOf {c : Char} (rest : List Char) (lower : c.isLower = true) :
    ∃ first ∈ (wordsOf (c :: rest)).head?, IsLetters first := by
  have letters : IsLetters (c :: rest.takeWhile Char.isLower) :=
    ⟨by simp, List.forall_mem_cons.2 ⟨lower, fun d => List.mem_takeWhile_imp⟩⟩
  rw [wordsOf, if_pos (Text.case_of_isLower lower).2.2.1, IsWord.map_toLower (.inl letters)]
  exact ⟨_, rfl, letters⟩

/-- A text in small letters is the spelling of its words exactly if it is segmented. -/
theorem spelled_wordsOf_iff {c : Char} {rest : List Char} (lower : c.isLower = true)
    (small : ∀ d ∈ c :: rest, d.isUpper = false) :
    spelled (wordsOf (c :: rest)) = c :: rest ↔ IsSegmented (c :: rest) := by
  obtain ⟨first, found, letters⟩ := letters_of_head_wordsOf rest lower
  constructor
  · intro kept
    rw [← kept]
    exact isSegmented_spelled (isWord_of_mem_wordsOf _ small) found letters
  · intro segmented
    have words := flatMap_wordsOf_join (Text.pieces_ne_nil '-' (c :: rest)) segmented
    rw [Text.join_pieces, flatMap_hyphened_eq found letters] at words
    exact (List.cons.inj words).2

section Kebab

/-- Words behind others are of characters that a name may have. -/
theorem IsWord.isNamePart {word : List Char} (isWord : IsWord word) :
    ∀ c ∈ hyphened word, isNamePart c = true := by
  have parts : ∀ c ∈ word, WitBridge.isNamePart c = true := by
    intro c listed
    rcases isWord.lower_or_digit listed with part | part <;> simp [WitBridge.isNamePart, part]
  rcases isWord with letters | number
  · rw [letters.hyphened_eq]
    exact List.forall_mem_cons.2 ⟨by decide, parts⟩
  · rwa [number.hyphened_eq]

/-- A word behind others ends as it does alone. -/
theorem IsWord.getLast?_hyphened {word : List Char} (isWord : IsWord word) :
    ∃ c ∈ word, (hyphened word).getLast? = some c := by
  have ends : ∀ {word : List Char}, word ≠ [] → ∃ c ∈ word, word.getLast? = some c :=
    fun inhabited => ⟨_, List.getLast_mem inhabited, List.getLast?_eq_some_getLast inhabited⟩
  rcases isWord with letters | number
  · obtain ⟨c, listed, last⟩ := ends letters.1
    refine ⟨c, listed, ?_⟩
    rw [letters.hyphened_eq, List.getLast?_cons, last]
    rfl
  · rw [number.hyphened_eq]
    exact ends number.1

/-- Words behind a text leave it without a hyphen at its end. -/
theorem getLast?_append_hyphened {text : List Char} {words : List (List Char)}
    (last : text.getLast? ≠ some '-') (each : ∀ word ∈ words, IsWord word) :
    (text ++ words.flatMap hyphened).getLast? ≠ some '-' := by
  induction words generalizing text with
  | nil => simpa using last
  | cons word rest ih =>
    obtain ⟨head, others⟩ := List.forall_mem_cons.1 each
    rw [List.flatMap_cons, ← List.append_assoc]
    apply ih _ others
    obtain ⟨c, listed, ending⟩ := head.getLast?_hyphened
    rw [List.getLast?_append, ending]
    intro same
    obtain rfl : c = '-' := by simpa using same
    exact head.hyphen_not_mem listed

/-- Spelled words that begin with letters are in kebab case. -/
theorem isKebab_spelled {words : List (List Char)} {first : List Char}
    (each : ∀ word ∈ words, IsWord word) (found : first ∈ words.head?)
    (letters : IsLetters first) : isKebab (spelled words) = true := by
  cases words with
  | nil => contradiction
  | cons word rest =>
    obtain rfl : word = first := by simpa using found
    have others : ∀ other ∈ rest, IsWord other :=
      fun other listed => each other (List.mem_cons_of_mem _ listed)
    obtain ⟨inhabited, lower⟩ := letters
    cases word with
    | nil => contradiction
    | cons c more =>
      obtain ⟨head, small⟩ := List.forall_mem_cons.1 lower
      have parts : (more ++ rest.flatMap hyphened).all isNamePart = true := by
        rw [List.all_eq_true]
        intro d listed
        rcases List.mem_append.1 listed with listed | listed
        · simp [isNamePart, small d listed]
        · obtain ⟨other, inside, member⟩ := List.mem_flatMap.1 listed
          exact (others other inside).isNamePart d member
      have last : (more ++ rest.flatMap hyphened).getLast? ≠ some '-' := by
        apply getLast?_append_hyphened _ others
        intro ending
        exact absurd (small '-' (List.mem_of_getLast? ending)) (by decide)
      change isKebab (c :: (more ++ rest.flatMap hyphened)) = true
      simp only [isKebab, head, parts, Bool.true_and, bne_iff_ne]
      exact last

end Kebab

/-- A name that is read back from its identifier: its words can be told apart, and the first is
of letters. -/
structure Name.Worded (name : Name) : Prop where
  words : ∀ word ∈ name.words, IsWord word.toList
  first : ∃ first ∈ name.words.head?, IsLetters first.toList
  apart : Apart (name.words.map String.toList)

namespace Name

variable {name : Name}

instance : Decidable name.Worded :=
  decidable_of_iff ((∀ word ∈ name.words, IsWord word.toList) ∧
      (∃ first ∈ name.words.head?, IsLetters first.toList) ∧ Apart (name.words.map String.toList))
    ⟨fun parts => ⟨parts.1, parts.2.1, parts.2.2⟩, fun worded => ⟨worded.1, worded.2, worded.3⟩⟩

/-- The first word as characters. -/
theorem Worded.head (worded : name.Worded) :
    ∃ first ∈ (name.words.map String.toList).head?, IsLetters first := by
  obtain ⟨first, found, letters⟩ := worded.first
  exact ⟨first.toList, by rw [List.head?_map, found]; rfl, letters⟩

/-- The words as characters. -/
theorem Worded.each (worded : name.Worded) :
    ∀ word ∈ name.words.map String.toList, IsWord word := by
  simpa using worded.words

/-- The kebab case of a worded name is in kebab case. -/
theorem Worded.isKebab (worded : name.Worded) : isKebab name.kebab.toList = true := by
  obtain ⟨first, found, letters⟩ := worded.head
  rw [kebab_eq worded.words, String.toList_ofList]
  exact isKebab_spelled worded.each found letters

/-- A worded name is read back from its kebab case. -/
theorem Worded.ofText_kebab (worded : name.Worded) : ofText name.kebab = name := by
  rw [Name.ofText_kebab worded.words]
  exact joined_eq_iff.2 worded.apart

end Name

end WitBridge.Ir
