import Mathlib.Data.List.Chain
import Mathlib.Data.List.TakeWhile
import WitBridge.Ir.Name
import WitBridge.Proofs.Text.Runs

/-!
# Names between their spellings

The words of a name are letters or digits. In kebab case a word of letters has a hyphen in front
and a word of digits has none, so a name whose words can be told apart is read back from its
spelling, and a spelling is kept if it is a row of segments, each of letters and then digits.
-/
namespace WitBridge.Ir

/-- A word of small letters. -/
def IsLetters (word : List Char) : Prop :=
  word ≠ [] ∧ ∀ c ∈ word, c.isLower = true

/-- A word of digits. -/
def IsNumber (word : List Char) : Prop :=
  word ≠ [] ∧ ∀ c ∈ word, c.isDigit = true

/-- A word of one sort of characters. -/
def IsWord (word : List Char) : Prop :=
  IsLetters word ∨ IsNumber word

instance : DecidablePred IsLetters :=
  fun word => decidable_of_iff (word ≠ [] ∧ word.all Char.isLower = true)
    (and_congr_right' List.all_eq_true)

instance : DecidablePred IsNumber :=
  fun word => decidable_of_iff (word ≠ [] ∧ word.all Char.isDigit = true)
    (and_congr_right' List.all_eq_true)

instance : DecidablePred IsWord :=
  fun word => inferInstanceAs (Decidable (IsLetters word ∨ IsNumber word))

/-- A word as it stands behind another: letters need a hyphen. -/
def hyphened : List Char → List Char
  | [] => []
  | c :: rest => if c.isDigit then c :: rest else '-' :: c :: rest

/-- Words in kebab case. -/
def spelled : List (List Char) → List Char
  | [] => []
  | first :: rest => first ++ rest.flatMap hyphened

/-- A character of a word. -/
theorem IsWord.lower_or_digit {word : List Char} (isWord : IsWord word) {c : Char}
    (member : c ∈ word) : c.isLower = true ∨ c.isDigit = true :=
  isWord.imp (fun letters => letters.2 c member) fun number => number.2 c member

/-- No character of a word is a capital. -/
theorem IsWord.not_isUpper {word : List Char} (isWord : IsWord word) {c : Char}
    (member : c ∈ word) : c.isUpper = false :=
  (isWord.lower_or_digit member).elim (fun lower => (Text.case_of_isLower lower).1)
    fun digit => (Text.case_of_isDigit digit).1

/-- Words have no hyphen. -/
theorem IsWord.hyphen_not_mem {word : List Char} (isWord : IsWord word) : '-' ∉ word := by
  intro member
  rcases isWord.lower_or_digit member with lower | digit
  · exact absurd lower (by decide)
  · exact absurd digit (by decide)

/-- A word of digits needs no hyphen. -/
theorem IsNumber.hyphened_eq {word : List Char} (number : IsNumber word) :
    hyphened word = word := by
  cases word with
  | nil => rfl
  | cons c rest => rw [hyphened, if_pos (number.2 c (by simp))]

/-- A word of letters needs a hyphen. -/
theorem IsLetters.hyphened_eq {word : List Char} (letters : IsLetters word) :
    hyphened word = '-' :: word := by
  cases word with
  | nil => exact absurd rfl letters.1
  | cons c rest =>
    have other := (Text.case_of_isLower (letters.2 c (by simp))).2.1
    rw [hyphened, if_neg (by simp [other])]

section Kebab

/-- A character in camel case as it stands in kebab case, before it is made small. -/
def separated (c : Char) : List Char :=
  if c.isUpper then ['-', c] else [c]

/-- Characters that are no capitals are not separated. -/
theorem flatMap_separated {text : List Char} (small : ∀ c ∈ text, c.isUpper = false) :
    text.flatMap separated = text := by
  induction text with
  | nil => rfl
  | cons c rest ih =>
    have head := small c (by simp)
    rw [List.flatMap_cons, ih fun d member => small d (List.mem_cons_of_mem _ member), separated,
      if_neg (by simp [head])]
    rfl

/-- Characters of words are small. -/
theorem IsWord.map_toLower {word : List Char} (isWord : IsWord word) :
    word.map Char.toLower = word := by
  have same : ∀ c ∈ word, c.toLower = c := fun c member =>
    (isWord.lower_or_digit member).elim (fun lower => (Text.case_of_isLower lower).2.2.2.2.2.1)
      fun digit => (Text.case_of_isDigit digit).2.2.2.2.1
  rw [List.map_congr_left same, List.map_id']

/-- A word with a capital becomes the word with its hyphen. -/
theorem IsWord.separated_capitalize {word : List Char} (isWord : IsWord word) :
    ((Text.capitalize word).flatMap separated).map Char.toLower = hyphened word ∧
      ∀ c ∈ (Text.capitalize word).flatMap separated, c.toNat < 128 := by
  cases word with
  | nil => exact ⟨rfl, nofun⟩
  | cons c rest =>
    have small : rest.flatMap separated = rest :=
      flatMap_separated fun d member => isWord.not_isUpper (List.mem_cons_of_mem _ member)
    have lowered := List.cons.inj isWord.map_toLower
    have ascii : ∀ d ∈ c :: rest, d.toNat < 128 :=
      fun d member => Text.ascii_of_isLower_or_isDigit (isWord.lower_or_digit member)
    have capital : Text.capitalize (c :: rest) = c.toUpper :: rest := by
      rw [Text.capitalize, Text.upperChar_ascii (ascii c (by simp))]
      rfl
    rw [capital, List.flatMap_cons, small]
    rcases isWord.lower_or_digit (List.mem_cons_self) with lower | digit
    · obtain ⟨-, other, -, upper, back, -, bound, -⟩ := Text.case_of_isLower lower
      rw [separated, if_pos upper, hyphened, if_neg (by simp [other])]
      refine ⟨?_, ?_⟩
      · simp [back, lowered.2]
      · intro d member
        simp only [List.cons_append, List.nil_append, List.mem_cons] at member
        rcases member with rfl | rfl | member
        · decide
        · exact bound
        · exact ascii d (by simp [member])
    · obtain ⟨upper, -, -, same, -, -, -⟩ := Text.case_of_isDigit digit
      rw [same, separated, if_neg (by simp [upper]), hyphened, if_pos digit]
      exact ⟨by simpa using lowered, by simpa using ascii⟩

/-- Words run together come apart at their capitals. -/
theorem separated_capitalized {words : List (List Char)} (each : ∀ word ∈ words, IsWord word) :
    ((words.flatMap Text.capitalize).flatMap separated).map Char.toLower =
        words.flatMap hyphened ∧
      ∀ c ∈ (words.flatMap Text.capitalize).flatMap separated, c.toNat < 128 := by
  induction words with
  | nil => exact ⟨rfl, nofun⟩
  | cons word rest ih =>
    obtain ⟨head, others⟩ := List.forall_mem_cons.1 each
    have first := head.separated_capitalize
    have more := ih others
    rw [List.flatMap_cons, List.flatMap_append, List.map_append, first.1, more.1]
    constructor
    · rfl
    · intro c listed
      rcases List.mem_append.1 listed with listed | listed
      · exact first.2 c listed
      · exact more.2 c listed

/-- Words run together, as characters. -/
theorem Name.toList_capitalized (words : List String) :
    (capitalized words).toList = (words.map String.toList).flatMap Text.capitalize := by
  induction words with
  | nil => rfl
  | cons word rest ih =>
    have joined : capitalized (word :: rest) =
        String.ofList (Text.capitalize word.toList) ++ capitalized rest := by
      simp [capitalized, String.join_cons]
    rw [joined, String.toList_append, ih]
    simp

/-- The kebab case of a name spells its words. -/
theorem Name.kebab_eq {name : Name} (each : ∀ word ∈ name.words, IsWord word.toList) :
    name.kebab = String.ofList (spelled (name.words.map String.toList)) := by
  obtain ⟨words⟩ := name
  cases words with
  | nil => rfl
  | cons first rest =>
    obtain ⟨head, others⟩ := List.forall_mem_cons.1 each
    have words : ∀ word ∈ rest.map String.toList, IsWord word := by simpa using others
    have split := separated_capitalized words
    have camel : (first ++ capitalized rest).toList =
        first.toList ++ (rest.map String.toList).flatMap Text.capitalize := by
      rw [String.toList_append, toList_capitalized]
    have hyphens : hyphenate (first ++ capitalized rest).toList =
        first.toList ++ ((rest.map String.toList).flatMap Text.capitalize).flatMap separated := by
      rw [camel]
      cases shape : first.toList with
      | nil => exact absurd shape (head.elim And.left And.left)
      | cons c more =>
        have small : more.flatMap separated = more :=
          flatMap_separated fun d member => head.not_isUpper (by rw [shape]; simp [member])
        change c :: (more ++ _).flatMap separated = _
        rw [List.flatMap_append, small]
        rfl
    have ascii : ∀ c ∈ hyphenate (first ++ capitalized rest).toList, c.toNat < 128 := by
      rw [hyphens]
      intro c listed
      rcases List.mem_append.1 listed with listed | listed
      · exact Text.ascii_of_isLower_or_isDigit (head.lower_or_digit listed)
      · exact split.2 c listed
    change camelToKebab (first ++ capitalized rest) = _
    rw [camelToKebab, Text.lower_ascii ascii, hyphens, List.map_append, head.map_toLower, split.1]
    rfl

end Kebab

section Words

/-- Nothing is spelled by the empty text. -/
theorem wordsOf_nil : wordsOf [] = [] := by
  rw [wordsOf]

/-- A hyphen spells nothing. -/
theorem wordsOf_hyphen (after : List Char) : wordsOf ('-' :: after) = wordsOf after := by
  rw [wordsOf, if_neg (by decide), if_neg (by decide)]

/-- Small letters are one word if no small letter comes after them. -/
theorem IsLetters.wordsOf_append {word after : List Char} (letters : IsLetters word)
    (apart : ∀ c ∈ after.head?, c.isLower = false) :
    wordsOf (word ++ after) = word :: wordsOf after := by
  cases word with
  | nil => exact absurd rfl letters.1
  | cons c rest =>
    obtain ⟨head, others⟩ := List.forall_mem_cons.1 letters.2
    obtain ⟨taken, dropped⟩ := Text.takeWhile_append_of_head others apart
    have small : (c :: rest).map Char.toLower = c :: rest := IsWord.map_toLower (.inl letters)
    rw [List.cons_append, wordsOf, if_pos (Text.case_of_isLower head).2.2.1, taken, dropped, small]

/-- Digits are one word if no digit comes after them. -/
theorem IsNumber.wordsOf_append {word after : List Char} (number : IsNumber word)
    (apart : ∀ c ∈ after.head?, c.isDigit = false) :
    wordsOf (word ++ after) = word :: wordsOf after := by
  cases word with
  | nil => exact absurd rfl number.1
  | cons c rest =>
    obtain ⟨head, others⟩ := List.forall_mem_cons.1 number.2
    obtain ⟨taken, dropped⟩ := Text.takeWhile_append_of_head others apart
    have other : ¬c.isAlpha = true := by simp [(Text.case_of_isDigit head).2.2.1]
    rw [List.cons_append, wordsOf, if_neg other, if_pos head, taken, dropped]

/-- The words of a text are words. -/
theorem isWord_of_mem_wordsOf (text : List Char) (small : ∀ c ∈ text, c.isUpper = false) :
    ∀ word ∈ wordsOf text, IsWord word := by
  fun_induction wordsOf text with
  | case1 => exact nofun
  | case2 c rest alpha ih =>
    have head : c.isLower = true := by
      rcases Bool.or_eq_true_iff.1 (show (c.isUpper || c.isLower) = true from alpha)
        with upper | lower
      · rw [small c (by simp)] at upper
        contradiction
      · exact lower
    have letters : IsLetters (c :: rest.takeWhile Char.isLower) := by
      refine ⟨by simp, List.forall_mem_cons.2 ⟨head, fun d listed => ?_⟩⟩
      exact List.mem_takeWhile_imp listed
    rw [IsWord.map_toLower (.inl letters)]
    refine List.forall_mem_cons.2 ⟨.inl letters, ih fun d listed => ?_⟩
    exact small d (List.mem_cons_of_mem _ ((List.dropWhile_suffix _).subset listed))
  | case3 c rest other digit ih =>
    have number : IsNumber (c :: rest.takeWhile Char.isDigit) := by
      refine ⟨by simp, List.forall_mem_cons.2 ⟨digit, fun d listed => ?_⟩⟩
      exact List.mem_takeWhile_imp listed
    refine List.forall_mem_cons.2 ⟨.inr number, ih fun d listed => ?_⟩
    exact small d (List.mem_cons_of_mem _ ((List.dropWhile_suffix _).subset listed))
  | case4 c rest other more ih =>
    exact ih fun d listed => small d (List.mem_cons_of_mem _ listed)

/-- Words that can be told apart: no two numbers are neighbours. -/
def Apart (words : List (List Char)) : Prop :=
  words.IsChain fun left right => ¬(IsNumber left ∧ IsNumber right)

instance : DecidablePred Apart :=
  fun words => inferInstanceAs
    (Decidable (words.IsChain fun left right => ¬(IsNumber left ∧ IsNumber right)))

/-- Spelled words that begin with letters are the words with a hyphen before each word of
letters, less the first hyphen. -/
theorem flatMap_hyphened_eq {words : List (List Char)} {first : List Char}
    (found : first ∈ words.head?) (letters : IsLetters first) :
    words.flatMap hyphened = '-' :: spelled words := by
  cases words with
  | nil => contradiction
  | cons word rest =>
    obtain rfl : word = first := by simpa using found
    rw [List.flatMap_cons, letters.hyphened_eq]
    rfl

end Words

end WitBridge.Ir
