import WitBridge.Proofs.Ir.Name

/-!
# Names read back from their renderings

Words run together come apart again where a mark stands in front of each word of letters, be it a
capital or a hyphen. Nothing stands between two numbers, so neighbours that are numbers are read
back as one. A name in title case or in camel case is read back as itself exactly if it has no such
neighbours.
-/
namespace WitBridge.Ir

section Words

/-- A word in front of others; a number runs on into a number. -/
def fuse (word : List Char) : List (List Char) → List (List Char)
  | [] => [word]
  | next :: rest =>
    if IsNumber word ∧ IsNumber next then (word ++ next) :: rest else word :: next :: rest

/-- The words with each run of numbers joined into one. -/
def fused (words : List (List Char)) : List (List Char) :=
  words.foldr fuse []

variable {word after : List Char} {words : List (List Char)}

/-- Letters are no number. -/
theorem IsLetters.not_isNumber (letters : IsLetters word) : ¬IsNumber word := by
  rintro ⟨inhabited, digits⟩
  obtain ⟨c, more, rfl⟩ := List.exists_cons_of_ne_nil inhabited
  have digit := digits c List.mem_cons_self
  rw [(Text.case_of_isLower (letters.2 c List.mem_cons_self)).2.1] at digit
  contradiction

/-- A word in front of others leaves a word. -/
theorem fuse_ne_nil (word : List Char) (words : List (List Char)) : fuse word words ≠ [] := by
  cases words with
  | nil => exact List.cons_ne_nil _ _
  | cons next rest =>
    rw [fuse]
    split <;> exact List.cons_ne_nil _ _

/-- A word that is no number does not run on. -/
theorem fuse_of_not_isNumber (other : ¬IsNumber word) : fuse word words = word :: words := by
  cases words with
  | nil => rfl
  | cons next rest => rw [fuse, if_neg fun both => other both.1]

/-- A word does not run on into a word that is no number. -/
theorem fuse_of_head (other : ∀ next ∈ words.head?, ¬IsNumber next) :
    fuse word words = word :: words := by
  cases words with
  | nil => rfl
  | cons next rest => rw [fuse, if_neg fun both => other next rfl both.2]

/-- Words are kept exactly if they can be told apart. -/
theorem fused_eq_iff : fused words = words ↔ Apart words := by
  induction words with
  | nil => exact ⟨fun _ => .nil, fun _ => rfl⟩
  | cons word rest ih =>
    change fuse word (fused rest) = word :: rest ↔ (word :: rest).IsChain _
    rw [List.isChain_cons]
    constructor
    · intro kept
      cases later : fused rest with
      | nil =>
        rw [later] at kept
        obtain rfl : [] = rest := (List.cons.inj kept).2
        exact ⟨nofun, .nil⟩
      | cons next more =>
        rw [later, fuse] at kept
        split at kept
        case isTrue both =>
          -- A number that has run on is longer than it was.
          have longer := List.append_right_eq_self.1 (List.cons.inj kept).1
          exact absurd longer both.2.1
        case isFalse apart =>
          obtain rfl : next :: more = rest := (List.cons.inj kept).2
          refine ⟨fun other found => ?_, ih.1 later⟩
          obtain rfl : next = other := by simpa using found
          exact apart
    · rintro ⟨apart, others⟩
      rw [ih.2 others]
      by_cases number : IsNumber word
      · exact fuse_of_head fun next found other => apart next found ⟨number, other⟩
      · exact fuse_of_not_isNumber number

/-- Whether a word may stand in front of a text: no letters run on into the text, and the text
begins with its first word if that is a number. -/
def Abuts (after : List Char) : Prop :=
  ∀ c ∈ after.head?, c.isLower = false ∧
    (c.isDigit = false → ∀ next ∈ (wordsOf after).head?, ¬IsNumber next)

/-- Digits at the front of a text are its first word. -/
theorem wordsOf_digit {c : Char} (digit : c.isDigit = true) (rest : List Char) :
    wordsOf (c :: rest) =
      (c :: rest.takeWhile Char.isDigit) :: wordsOf (rest.dropWhile Char.isDigit) := by
  have other : ¬c.isAlpha = true := by simp [(Text.case_of_isDigit digit).2.2.1]
  rw [wordsOf, if_neg other, if_pos digit]

/-- A number in front of digits runs on into them. -/
theorem IsNumber.wordsOf_append_digit {c : Char} {rest : List Char} (number : IsNumber word)
    (digit : c.isDigit = true) :
    wordsOf (word ++ c :: rest) = fuse word (wordsOf (c :: rest)) := by
  obtain ⟨d, more, rfl⟩ := List.exists_cons_of_ne_nil number.1
  obtain ⟨head, others⟩ := List.forall_mem_cons.1 number.2
  have next : IsNumber (c :: rest.takeWhile Char.isDigit) :=
    ⟨by simp, List.forall_mem_cons.2 ⟨digit, fun d => List.mem_takeWhile_imp⟩⟩
  rw [wordsOf_digit digit, fuse, if_pos ⟨number, next⟩, List.cons_append, wordsOf_digit head,
    List.takeWhile_append_of_pos others, List.dropWhile_append_of_pos others,
    List.takeWhile_cons_of_pos digit, List.dropWhile_cons_of_pos digit]
  rfl

/-- A word in front of a text is read in front of the words of the text. -/
theorem wordsOf_append (isWord : IsWord word) (abuts : Abuts after) :
    wordsOf (word ++ after) = fuse word (wordsOf after) := by
  rcases isWord with letters | number
  · rw [letters.wordsOf_append fun c found => (abuts c found).1,
      fuse_of_not_isNumber letters.not_isNumber]
  · cases after with
    | nil =>
      have alone := @IsNumber.wordsOf_append word [] number nofun
      rwa [wordsOf_nil] at alone ⊢
    | cons c rest =>
      by_cases digit : c.isDigit = true
      · exact number.wordsOf_append_digit digit
      · have other : c.isDigit = false := by simpa using digit
        have apart : ∀ d ∈ (c :: rest).head?, d.isDigit = false := by
          intro d found
          obtain rfl : c = d := by simpa using found
          exact other
        rw [number.wordsOf_append apart, fuse_of_head ((abuts c rfl).2 other)]

/-- Whether a spelling of single words marks the letters: a number is spelled as it is, and letters
are read back from a spelling that cannot be taken for a part of the word before. -/
structure Marks (mark : List Char → List Char) : Prop where
  number : ∀ {word}, IsNumber word → mark word = word
  letters : ∀ {word after}, IsLetters word → (∀ c ∈ after.head?, c.isLower = false) →
    wordsOf (mark word ++ after) = word :: wordsOf after
  head : ∀ {word}, IsLetters word →
    ∃ c rest, mark word = c :: rest ∧ c.isLower = false ∧ c.isDigit = false

/-- Marked words are read back as they are, save that numbers run on. -/
theorem Marks.wordsOf_flatMap {mark : List Char → List Char} (marks : Marks mark)
    (each : ∀ word ∈ words, IsWord word) :
    wordsOf (words.flatMap mark) = fused words ∧ Abuts (words.flatMap mark) := by
  induction words with
  | nil => exact ⟨wordsOf_nil, nofun⟩
  | cons word rest ih =>
    obtain ⟨isWord, others⟩ := List.forall_mem_cons.1 each
    obtain ⟨read, abuts⟩ := ih others
    rw [List.flatMap_cons]
    change _ = fuse word (fused rest) ∧ _
    rcases isWord with letters | number
    · have whole : wordsOf (mark word ++ rest.flatMap mark) = word :: fused rest := by
        rw [marks.letters letters fun c found => (abuts c found).1, read]
      refine ⟨whole.trans (fuse_of_not_isNumber letters.not_isNumber).symm, ?_⟩
      intro c found
      obtain ⟨d, more, shape, lower, digit⟩ := marks.head letters
      obtain rfl : d = c := by simpa [shape] using found
      refine ⟨lower, fun _ next first => ?_⟩
      rw [whole] at first
      obtain rfl : word = next := by simpa using first
      exact letters.not_isNumber
    · rw [marks.number number]
      refine ⟨(wordsOf_append (.inr number) abuts).trans (congrArg _ read), ?_⟩
      intro c found
      obtain ⟨d, more, rfl⟩ := List.exists_cons_of_ne_nil number.1
      obtain rfl : d = c := by simpa using found
      have digit := number.2 d List.mem_cons_self
      exact ⟨(Text.case_of_isDigit digit).2.1, fun other => by simp [digit] at other⟩

/-- Words of which all but the first are marked are read back as they are, save that numbers run
on. -/
theorem Marks.wordsOf_append_flatMap {mark : List Char → List Char} (marks : Marks mark)
    (isWord : IsWord word) (each : ∀ word ∈ words, IsWord word) :
    wordsOf (word ++ words.flatMap mark) = fused (word :: words) := by
  obtain ⟨read, abuts⟩ := marks.wordsOf_flatMap each
  rw [wordsOf_append isWord abuts, read]
  rfl

/-- A hyphen marks letters. -/
theorem marks_hyphened : Marks hyphened := by
  refine ⟨IsNumber.hyphened_eq, fun {word after} letters apart => ?_, fun {word} letters => ?_⟩
  · rw [letters.hyphened_eq, List.cons_append, wordsOf_hyphen, letters.wordsOf_append apart]
  · exact ⟨'-', word, letters.hyphened_eq, by decide, by decide⟩

/-- The first character of a word is made a capital, if it is a letter. -/
theorem capitalize_cons {c : Char} (part : c.isLower = true ∨ c.isDigit = true)
    (rest : List Char) : Text.capitalize (c :: rest) = c.toUpper :: rest := by
  rw [Text.capitalize, Text.upperChar_ascii (Text.ascii_of_isLower_or_isDigit part)]
  rfl

/-- A capital marks letters. -/
theorem marks_capitalize : Marks Text.capitalize := by
  refine ⟨fun {word} number => ?_, fun {word after} letters apart => ?_, fun {word} letters => ?_⟩
  · obtain ⟨c, rest, rfl⟩ := List.exists_cons_of_ne_nil number.1
    have digit := number.2 c List.mem_cons_self
    rw [capitalize_cons (.inr digit), (Text.case_of_isDigit digit).2.2.2.1]
  · obtain ⟨c, rest, rfl⟩ := List.exists_cons_of_ne_nil letters.1
    obtain ⟨head, others⟩ := List.forall_mem_cons.1 letters.2
    obtain ⟨taken, dropped⟩ := Text.takeWhile_append_of_head others apart
    obtain ⟨-, -, -, upper, back, -⟩ := Text.case_of_isLower head
    have alpha : c.toUpper.isAlpha = true := Bool.or_eq_true_iff.2 (.inl upper)
    have small := (List.cons.inj (IsWord.map_toLower (.inl letters))).2
    rw [capitalize_cons (.inl head), List.cons_append, wordsOf, if_pos alpha, taken, dropped,
      List.map_cons, back, small]
  · obtain ⟨c, rest, rfl⟩ := List.exists_cons_of_ne_nil letters.1
    have head := letters.2 c List.mem_cons_self
    have capital := Text.case_of_isUpper (Text.case_of_isLower head).2.2.2.1
    exact ⟨_, _, capitalize_cons (.inl head) rest, capital.1, capital.2.1⟩

/-- A word is of letters and digits. -/
theorem IsWord.isAlphanum (isWord : IsWord word) {c : Char} (member : c ∈ word) :
    c.isAlphanum = true := by
  rcases isWord.lower_or_digit member with lower | digit
  · exact Bool.or_eq_true_iff.2 (.inl (Text.case_of_isLower lower).2.2.1)
  · exact Bool.or_eq_true_iff.2 (.inr digit)

/-- A word with a capital is of letters and digits. -/
theorem isAlphanum_of_mem_capitalize (isWord : IsWord word) :
    ∀ c ∈ Text.capitalize word, c.isAlphanum = true := by
  cases word with
  | nil => exact nofun
  | cons c rest =>
    have part := isWord.lower_or_digit List.mem_cons_self
    rw [capitalize_cons part]
    refine List.forall_mem_cons.2 ⟨?_, fun d listed => isWord.isAlphanum (by simp [listed])⟩
    rcases part with lower | digit
    · have alpha : c.toUpper.isAlpha = true :=
        Bool.or_eq_true_iff.2 (.inl (Text.case_of_isLower lower).2.2.2.1)
      exact Bool.or_eq_true_iff.2 (.inl alpha)
    · rw [(Text.case_of_isDigit digit).2.2.2.1]
      exact isWord.isAlphanum List.mem_cons_self

/-- The words of a text are words, its capitals made small. -/
theorem isWord_of_mem_wordsOf_text (text : List Char) : ∀ word ∈ wordsOf text, IsWord word := by
  fun_induction wordsOf text with
  | case1 => exact fun word listed => absurd listed List.not_mem_nil
  | case2 c rest alpha ih =>
    have letters : IsLetters ((c :: rest.takeWhile Char.isLower).map Char.toLower) := by
      have head : c.toLower.isLower = true := by
        rcases Bool.or_eq_true_iff.1 (show (c.isUpper || c.isLower) = true from alpha)
          with upper | lower
        · exact (Text.case_of_isUpper upper).2.2
        · rwa [(Text.case_of_isLower lower).2.2.2.2.2.1]
      refine ⟨by simp, List.forall_mem_cons.2 ⟨head, List.forall_mem_map.2 fun d listed => ?_⟩⟩
      have lower := List.mem_takeWhile_imp listed
      rwa [(Text.case_of_isLower lower).2.2.2.2.2.1]
    exact List.forall_mem_cons.2 ⟨.inl letters, ih⟩
  | case3 c rest other digit ih =>
    have number : IsNumber (c :: rest.takeWhile Char.isDigit) :=
      ⟨by simp, List.forall_mem_cons.2 ⟨digit, fun d => List.mem_takeWhile_imp⟩⟩
    exact List.forall_mem_cons.2 ⟨.inr number, ih⟩
  | case4 c rest other more ih => exact ih

end Words

namespace Name

variable {name : Name}

/-- Whether a name is of words. -/
def OfWords (name : Name) : Prop :=
  ∀ word ∈ name.words, IsWord word.toList

/-- Whether no two neighbouring words of a name are numbers. -/
def IsApart (name : Name) : Prop :=
  Apart (name.words.map String.toList)

instance : DecidablePred IsApart := fun name =>
  inferInstanceAs (Decidable (Apart (name.words.map String.toList)))

/-- The name with each run of numbers joined into one. -/
def joined (name : Name) : Name :=
  ⟨(fused (name.words.map String.toList)).map String.ofList⟩

/-- A name is kept exactly if no two neighbours are numbers. -/
theorem joined_eq_iff : name.joined = name ↔ name.IsApart := by
  obtain ⟨words⟩ := name
  rw [IsApart, ← fused_eq_iff, joined, mk.injEq]
  constructor
  · intro same
    have listed := congrArg (List.map String.toList) same
    simpa [Function.comp_def] using listed
  · intro same
    simp [same, Function.comp_def]

/-- A name without words is joined from no words. -/
theorem words_joined_eq_nil : name.joined.words = [] ↔ name.words = [] := by
  obtain ⟨_ | ⟨first, rest⟩⟩ := name
  · exact ⟨fun _ => rfl, fun _ => rfl⟩
  · simp [joined, fused, fuse_ne_nil]

/-- The name that a text spells is of words. -/
theorem ofWords_ofText (text : String) : (ofText text).OfWords := by
  intro word listed
  obtain ⟨characters, inside, rfl⟩ := List.mem_map.1 listed
  rw [String.toList_ofList]
  exact isWord_of_mem_wordsOf_text _ characters inside

/-- A name in title case is read back with its runs of numbers joined. -/
theorem ofText_title (ofWords : name.OfWords) : ofText name.title = name.joined := by
  have each : ∀ word ∈ name.words.map String.toList, IsWord word := List.forall_mem_map.2 ofWords
  rw [ofText, title, toList_capitalized, (marks_capitalize.wordsOf_flatMap each).1, joined]

/-- A name in camel case is read back with its runs of numbers joined. -/
theorem ofText_camel (ofWords : name.OfWords) : ofText name.camel = name.joined := by
  obtain ⟨words⟩ := name
  cases words with
  | nil => exact congrArg (fun words => Name.mk (words.map String.ofList)) wordsOf_nil
  | cons first rest =>
    obtain ⟨head, others⟩ := List.forall_mem_cons.1 ofWords
    have each : ∀ word ∈ rest.map String.toList, IsWord word := List.forall_mem_map.2 others
    rw [ofText, camel, String.toList_append, toList_capitalized,
      marks_capitalize.wordsOf_append_flatMap head each, joined]
    rfl

/-- A name in kebab case is read back with its runs of numbers joined. -/
theorem ofText_kebab (ofWords : name.OfWords) : ofText name.kebab = name.joined := by
  rw [kebab_eq ofWords, ofText, String.toList_ofList, joined]
  obtain ⟨_ | ⟨first, rest⟩⟩ := name
  · rw [List.map_nil, spelled, wordsOf_nil]
    rfl
  · obtain ⟨head, others⟩ := List.forall_mem_cons.1 ofWords
    have each : ∀ word ∈ rest.map String.toList, IsWord word := List.forall_mem_map.2 others
    rw [List.map_cons, spelled, marks_hyphened.wordsOf_append_flatMap head each]

/-- A name with words has a text in title case. -/
theorem title_ne_empty (ofWords : name.OfWords) (inhabited : name.words ≠ []) :
    name.title.toList ≠ [] := by
  intro empty
  have read := ofText_title ofWords
  rw [ofText, empty, wordsOf_nil] at read
  exact inhabited (words_joined_eq_nil.1 (congrArg words read.symm))

/-- A name without words has an empty text in camel case. -/
theorem camel_eq_empty_iff (ofWords : name.OfWords) : name.camel.toList = [] ↔ name.words = [] := by
  constructor
  · intro empty
    have read := ofText_camel ofWords
    rw [ofText, empty, wordsOf_nil] at read
    exact words_joined_eq_nil.1 (congrArg words read.symm)
  · intro none
    rw [camel, none]
    rfl

/-- A name in title case is of letters and digits. -/
theorem isAlphanum_of_mem_title (ofWords : name.OfWords) :
    ∀ c ∈ name.title.toList, c.isAlphanum = true := by
  intro c listed
  rw [title, toList_capitalized] at listed
  obtain ⟨word, inside, member⟩ := List.mem_flatMap.1 listed
  obtain ⟨text, found, rfl⟩ := List.mem_map.1 inside
  exact isAlphanum_of_mem_capitalize (ofWords text found) c member

/-- A name in camel case is of letters and digits. -/
theorem isAlphanum_of_mem_camel (ofWords : name.OfWords) :
    ∀ c ∈ name.camel.toList, c.isAlphanum = true := by
  obtain ⟨_ | ⟨first, rest⟩⟩ := name
  · exact nofun
  · obtain ⟨head, others⟩ := List.forall_mem_cons.1 ofWords
    have behind : OfWords ⟨rest⟩ := others
    rw [camel, String.toList_append]
    exact List.forall_mem_append.2 ⟨fun c => head.isAlphanum, isAlphanum_of_mem_title behind⟩

end Name

end WitBridge.Ir
