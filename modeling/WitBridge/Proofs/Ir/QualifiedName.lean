import WitBridge.Ir.QualifiedName
import WitBridge.Proofs.Ir.Rendering

/-!
# References read back from their texts

A path and a qualified name are written with dots and colons between names that have neither, so
they are read back name by name, with the runs of numbers in a name joined. A qualified name without
a package, a module or a name of its own is not read back at all. Where no runs of numbers are,
references are told apart by their texts.
-/
namespace WitBridge

namespace Text

/-- What a text of letters and digits does not hold. -/
theorem dark_of_isAlphanum {c : Char} (part : c.isAlphanum = true) :
    isBlank c = false ∧ c ≠ ':' ∧ c ≠ '.' := by
  have table : ∀ n < 128, (Char.ofNat n).isAlphanum = true →
      isBlank (Char.ofNat n) = false ∧ Char.ofNat n ≠ ':' ∧ Char.ofNat n ≠ '.' := by decide
  have ascii : c.toNat < 128 := by
    rcases Bool.or_eq_true_iff.1 (show (c.isAlpha || c.isDigit) = true from part)
      with alpha | digit
    · exact (Bool.or_eq_true_iff.1 alpha).elim ascii_of_isUpper
        fun lower => ascii_of_isLower_or_isDigit (.inl lower)
    · exact ascii_of_isLower_or_isDigit (.inr digit)
  have found := table c.toNat ascii
  rw [Char.ofNat_toNat] at found
  exact found part

/-- A text without blanks loses nothing. -/
theorem trim_eq_self {text : List Char} (dark : ∀ c ∈ text, isBlank c = false) :
    trim text = text := by
  have kept {text : List Char} (dark : ∀ c ∈ text, isBlank c = false) :
      text.dropWhile isBlank = text := by
    cases text with
    | nil => rfl
    | cons c rest => rw [List.dropWhile_cons_of_neg (by simp [dark c List.mem_cons_self])]
  have back : ∀ c ∈ text.reverse, isBlank c = false :=
    fun c listed => dark c (List.mem_reverse.1 listed)
  rw [trim, kept dark, trimEnd, kept back, List.reverse_reverse]

/-- A text joined from pieces is of their characters and separators. -/
theorem mem_join {separator c : Char} {parts : List (List Char)}
    (listed : c ∈ join separator parts) : c = separator ∨ ∃ part ∈ parts, c ∈ part := by
  fun_induction join separator parts with
  | case1 => contradiction
  | case2 part => exact .inr ⟨part, List.mem_singleton_self part, listed⟩
  | case3 part rest _ ih =>
    rcases List.mem_append.1 listed with listed | listed
    · exact .inr ⟨part, List.mem_cons_self, listed⟩
    · rcases List.mem_cons.1 listed with same | listed
      · exact .inl same
      · exact (ih listed).imp_right fun ⟨other, inside, member⟩ =>
          ⟨other, List.mem_cons_of_mem part inside, member⟩

/-- Joining with one character is putting it between neighbours. -/
theorem join_eq_intercalate (separator : Char) (parts : List (List Char)) :
    join separator parts = [separator].intercalate parts := by
  fun_induction join separator parts with
  | case1 => rfl
  | case2 part => simp
  | case3 part rest more ih =>
    obtain ⟨second, rest, rfl⟩ := List.exists_cons_of_ne_nil more
    rw [ih, List.intercalate_cons_cons]
    simp

end Text

namespace Ir

namespace Path

variable {path : Path}

/-- Whether a path is of names of words, none of them empty. -/
def OfWords (path : Path) : Prop :=
  ∀ name ∈ path.names, name.OfWords ∧ name.words ≠ []

/-- The path with the runs of numbers in its names joined. -/
def joined (path : Path) : Path :=
  ⟨path.names.map Name.joined⟩

/-- The path that a text spells is of words. -/
theorem ofWords_ofText (text : String) : (ofText text).OfWords := by
  intro name listed
  obtain ⟨inside, some⟩ := List.mem_filter.1 listed
  obtain ⟨piece, -, rfl⟩ := List.mem_map.1 inside
  exact ⟨Name.ofWords_ofText _, by simpa [Name.isEmpty] using some⟩

/-- The text of a path is its names in title case with dots between them. -/
theorem toList_display (path : Path) :
    path.display.toList = Text.join '.' (path.names.map fun name => name.title.toList) := by
  rw [display, String.toList_intercalate, Text.join_eq_intercalate, List.map_map]
  rfl

/-- The text of a path has neither blanks nor colons. -/
theorem dark_display (ofWords : path.OfWords) :
    ∀ c ∈ path.display.toList, Text.isBlank c = false ∧ c ≠ ':' := by
  intro c listed
  rw [toList_display] at listed
  rcases Text.mem_join listed with rfl | ⟨part, inside, member⟩
  · decide
  · obtain ⟨name, found, rfl⟩ := List.mem_map.1 inside
    obtain ⟨blank, colon, -⟩ :=
      Text.dark_of_isAlphanum (Name.isAlphanum_of_mem_title (ofWords name found).1 c member)
    exact ⟨blank, colon⟩

/-- The text of a path is empty only if the path is. -/
theorem display_eq_empty_iff (ofWords : path.OfWords) :
    path.display.toList = [] ↔ path.names = [] := by
  rw [toList_display]
  obtain ⟨_ | ⟨first, _ | ⟨second, rest⟩⟩⟩ := path
  · exact ⟨fun _ => rfl, fun _ => rfl⟩
  · obtain ⟨words, some⟩ := ofWords first List.mem_cons_self
    simpa [Text.join] using first.title_ne_empty words some
  · simp [Text.join]

/-- A path is read back from its text with the runs of numbers in its names joined. -/
theorem ofText_display (ofWords : path.OfWords) : ofText path.display = path.joined := by
  have some : ∀ name ∈ path.names.map Name.joined, (!name.isEmpty) = true := by
    refine List.forall_mem_map.2 fun name listed => ?_
    have inhabited := Name.words_joined_eq_nil.not.2 (ofWords name listed).2
    simpa [Name.isEmpty] using inhabited
  rw [ofText, toList_display, joined]
  by_cases empty : path.names = []
  · -- The empty text has one piece, which is no name.
    rw [empty]
    simp [Text.join, Text.pieces, Name.ofText, wordsOf_nil, Name.isEmpty]
  · have absent : ∀ part ∈ path.names.map (fun name => name.title.toList), '.' ∉ part := by
      refine List.forall_mem_map.2 fun name listed dot => ?_
      have part := Name.isAlphanum_of_mem_title (ofWords name listed).1 '.' dot
      exact (Text.dark_of_isAlphanum part).2.2 rfl
    have read : ∀ name ∈ path.names,
        Name.ofText (String.ofList name.title.toList) = name.joined := by
      intro name listed
      rw [String.ofList_toList, Name.ofText_title (ofWords name listed).1]
    rw [Text.pieces_join (by simpa using empty) absent, List.map_map]
    change Path.mk (List.filter _ (path.names.map fun name =>
      Name.ofText (String.ofList name.title.toList))) = _
    rw [List.map_congr_left read, List.filter_eq_self.2 some]

/-- A path is kept exactly if no two neighbouring words of a name are numbers. -/
theorem joined_eq_iff : path.joined = path ↔ ∀ name ∈ path.names, name.IsApart := by
  obtain ⟨names⟩ := path
  have kept : names.map Name.joined = names.map id ↔ ∀ name ∈ names, name.joined = id name :=
    List.map_inj_left
  rw [joined, mk.injEq]
  simpa only [List.map_id, id, Name.joined_eq_iff] using kept

end Path

namespace QualifiedName

variable {name : QualifiedName}

/-- Whether a qualified name is of paths and a name of words. -/
structure OfWords (name : QualifiedName) : Prop where
  package : name.packagePath.OfWords
  module : name.modulePath.OfWords
  name : name.localName.OfWords

/-- The names in a qualified name. -/
def names (name : QualifiedName) : List Name :=
  name.packagePath.names ++ name.modulePath.names ++ [name.localName]

/-- Whether no two neighbouring words of a name in a qualified name are numbers. -/
def IsApart (name : QualifiedName) : Prop :=
  ∀ part ∈ name.names, part.IsApart

instance : DecidablePred IsApart := fun name =>
  inferInstanceAs (Decidable (∀ part ∈ name.names, part.IsApart))

/-- Whether a qualified name has a package, a module and a name of its own. -/
def IsFull (name : QualifiedName) : Prop :=
  name.packagePath.names ≠ [] ∧ name.modulePath.names ≠ [] ∧ name.localName.words ≠ []

instance : DecidablePred IsFull := fun name =>
  inferInstanceAs (Decidable (name.packagePath.names ≠ [] ∧ name.modulePath.names ≠ [] ∧
    name.localName.words ≠ []))

/-- The qualified name with the runs of numbers in its names joined. -/
def joined (name : QualifiedName) : QualifiedName :=
  ⟨name.packagePath.joined, name.modulePath.joined, name.localName.joined⟩

/-- A qualified name is kept exactly if no two neighbouring words of its names are numbers. -/
theorem joined_eq_iff : name.joined = name ↔ name.IsApart := by
  obtain ⟨package, module, name⟩ := name
  rw [joined, mk.injEq, Path.joined_eq_iff, Path.joined_eq_iff, Name.joined_eq_iff]
  simp only [IsApart, names, List.forall_mem_append, List.forall_mem_singleton, and_assoc]

/-- The qualified name that a text spells is of words. -/
theorem ofWords_of_ofText {text : String} (read : ofText text = .ok name) : name.OfWords := by
  unfold ofText at read
  split at read
  case h_1 =>
    split at read <;> cases read
    exact ⟨Path.ofWords_ofText _, Path.ofWords_ofText _, Name.ofWords_ofText _⟩
  case h_2 => contradiction

/-- The text of a qualified name is cut at its colons into the texts of its parts. -/
theorem pieces_display (ofWords : name.OfWords) :
    Text.pieces ':' name.display.toList = [name.packagePath.display.toList,
      name.modulePath.display.toList, name.localName.camel.toList] := by
  have package : ':' ∉ name.packagePath.display.toList :=
    fun listed => (Path.dark_display ofWords.package _ listed).2 rfl
  have module : ':' ∉ name.modulePath.display.toList :=
    fun listed => (Path.dark_display ofWords.module _ listed).2 rfl
  have own : ':' ∉ name.localName.camel.toList := fun listed =>
    (Text.dark_of_isAlphanum (Name.isAlphanum_of_mem_camel ofWords.name _ listed)).2.1 rfl
  have whole : name.display.toList = name.packagePath.display.toList ++
      ':' :: (name.modulePath.display.toList ++ ':' :: name.localName.camel.toList) := by
    simp [display]
  rw [whole, Text.pieces_append package, Text.pieces_append module, Text.pieces_of_not_mem own]

/-- A qualified name is read back from its text with the runs of numbers in its names joined, but
not if a part of it is missing. -/
theorem ofText_display (ofWords : name.OfWords) :
    ofText name.display =
      if name.IsFull then .ok name.joined else .error (.notQualified name.display) := by
  have package : Text.trim name.packagePath.display.toList = name.packagePath.display.toList :=
    Text.trim_eq_self fun c listed => (Path.dark_display ofWords.package c listed).1
  have module : Text.trim name.modulePath.display.toList = name.modulePath.display.toList :=
    Text.trim_eq_self fun c listed => (Path.dark_display ofWords.module c listed).1
  have own : Text.trim name.localName.camel.toList = name.localName.camel.toList :=
    Text.trim_eq_self fun c listed =>
      (Text.dark_of_isAlphanum (Name.isAlphanum_of_mem_camel ofWords.name c listed)).1
  have missing : ((name.packagePath.display.toList.isEmpty ||
      name.modulePath.display.toList.isEmpty || name.localName.camel.toList.isEmpty) = true) ↔
      ¬name.IsFull := by
    simp only [Bool.or_eq_true, List.isEmpty_iff, Path.display_eq_empty_iff ofWords.package,
      Path.display_eq_empty_iff ofWords.module, Name.camel_eq_empty_iff ofWords.name, IsFull]
    tauto
  rw [ofText, pieces_display ofWords]
  simp only [package, module, own, String.ofList_toList, Path.ofText_display ofWords.package,
    Path.ofText_display ofWords.module, Name.ofText_camel ofWords.name]
  by_cases full : name.IsFull
  · rw [if_neg fun empty => missing.1 empty full, if_pos full, joined]
  · rw [if_pos (missing.2 full), if_neg full]

/-- A qualified name is read back from its text exactly if no part of it is missing and no two
neighbouring words of its names are numbers. -/
theorem ofText_display_eq_iff (ofWords : name.OfWords) :
    ofText name.display = .ok name ↔ name.IsFull ∧ name.IsApart := by
  rw [ofText_display ofWords]
  split
  case isTrue full =>
    rw [and_iff_right full, ← joined_eq_iff]
    exact ⟨Except.ok.inj, congrArg Except.ok⟩
  case isFalse part => exact ⟨nofun, fun both => absurd both.1 part⟩

/-- Qualified names without neighbouring numbers are told apart by their texts. -/
theorem display_inj {other : QualifiedName} (ofWords : name.OfWords) (ofWords' : other.OfWords)
    (apart : name.IsApart) (apart' : other.IsApart) (same : name.display = other.display) :
    name = other := by
  have pieces := pieces_display ofWords
  rw [same, pieces_display ofWords', List.cons.injEq, List.cons.injEq, List.cons.injEq] at pieces
  obtain ⟨package, module, own, -⟩ := pieces
  have kept := joined_eq_iff.2 apart
  have kept' := joined_eq_iff.2 apart'
  rw [← kept, ← kept', joined, joined, ← Path.ofText_display ofWords.package,
    ← Path.ofText_display ofWords.module, ← Name.ofText_camel ofWords.name,
    ← Path.ofText_display ofWords'.package, ← Path.ofText_display ofWords'.module,
    ← Name.ofText_camel ofWords'.name, String.toList_inj.1 package, String.toList_inj.1 module,
    String.toList_inj.1 own]

end QualifiedName

namespace TypeReference

variable {reference other : TypeReference}

/-- Whether a reference is one that a text spells: a primitive kind has no colon, and a qualified
name is of words. -/
def IsSpelled : TypeReference → Prop
  | primitive kind => ':' ∉ kind.toList
  | qualified name => name.OfWords

/-- Whether no two neighbouring words of a name in a reference are numbers. -/
def IsApart : TypeReference → Prop
  | primitive _ => True
  | qualified name => name.IsApart

instance : DecidablePred IsApart
  | primitive _ => inferInstanceAs (Decidable True)
  | qualified name => inferInstanceAs (Decidable name.IsApart)

/-- The reference that a text spells is spelled. -/
theorem isSpelled_of_ofText {text : String} (read : ofText text = .ok reference) :
    reference.IsSpelled := by
  unfold ofText at read
  dsimp only at read
  split at read
  case isTrue => cases read
  case isFalse =>
    split at read
    case isTrue =>
      cases found : QualifiedName.ofText (String.ofList (Text.trim text.toList)) with
      | error fault =>
        rw [found] at read
        cases read
      | ok name =>
        rw [found] at read
        cases read
        exact QualifiedName.ofWords_of_ofText found
    case isFalse absent =>
      cases read
      rwa [IsSpelled, String.toList_ofList]

/-- The text of a qualified name has a colon. -/
theorem colon_mem_display (name : QualifiedName) : ':' ∈ (qualified name).display.toList := by
  simp [display, QualifiedName.display]

/-- References without neighbouring numbers are told apart by their texts. -/
theorem display_inj (spelled : reference.IsSpelled) (spelled' : other.IsSpelled)
    (apart : reference.IsApart) (apart' : other.IsApart)
    (same : reference.display = other.display) : reference = other := by
  cases reference with
  | primitive kind =>
    cases other with
    | primitive kind' => exact congrArg primitive same
    | qualified name =>
      have colon : ':' ∈ (primitive kind).display.toList := same ▸ colon_mem_display name
      exact absurd colon spelled
  | qualified name =>
    cases other with
    | primitive kind =>
      have colon : ':' ∈ (primitive kind).display.toList := same ▸ colon_mem_display name
      exact absurd colon spelled'
    | qualified name' =>
      exact congrArg qualified (QualifiedName.display_inj spelled spelled' apart apart' same)

end TypeReference

end Ir

end WitBridge
