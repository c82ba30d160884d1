import WitBridge.Json.Printer
import WitBridge.Json.Reader

/-!
# What is written as JSON is read back

A value is textual if it is made of texts, arrays and objects, as all encodings of the IR are. The
text of a textual value is read as the value, whatever stands after it. The reader is given as many
steps as the text has characters: an item takes a character off the text and a level takes its
bracket, so the steps never run out before the text does.
-/
namespace WitBridge.Json

/-- Whether a value is made of texts, arrays and objects. -/
inductive Textual : Value → Prop
  | text (text : String) : Textual (.text text)
  | array {items : List Value} (each : ∀ item ∈ items, Textual item) : Textual (.array items)
  | object {members : List (Option String × Value)}
      (named : ∀ member ∈ members, member.1.isSome = true)
      (each : ∀ member ∈ members, Textual member.2) : Textual (.object members)

/-- An object of textual values is textual. -/
theorem Textual.ofFields {fields : List (String × Value)}
    (each : ∀ field ∈ fields, Textual field.2) : Textual (.ofFields fields) := by
  refine .object ?_ ?_ <;>
  · intro member listed
    obtain ⟨field, inside, rfl⟩ := List.mem_map.1 listed
    first | rfl | exact each field inside

section Strings

/-- The part of a string that a written character is read as. -/
def fragmentOf (c : Char) : Fragment :=
  if c.toNat < 0x20 ∧ c ∉ ['\x08', '\t', '\n', '\x0c', '\r'] then .unit c.toNat else .char c

/-- The two digits of a control character spell its number. -/
theorem hexUnit?_control : ∀ code < 0x20,
    hexUnit? '0' '0' (hexChar (code / 16)) (hexChar (code % 16)) = some code := by
  decide

/-- An escape of one letter is read as the character that it stands for. -/
theorem readFragments_letter {e c : Char} (stands : escaped? e = some c) (rest : List Char) :
    readFragments ('\\' :: e :: rest) =
      (readFragments rest).map fun (more, after) => (.char c :: more, after) := by
  have letter : e ≠ 'u' := by rintro rfl; cases stands
  rw [readFragments.eq_4 _ _ fun _ _ _ _ _ same _ => letter same, stands]
  cases readFragments rest <;> rfl

/-- A number of four digits is read as a unit. -/
theorem readFragments_unit {a b c d : Char} {code : Nat} (stands : hexUnit? a b c d = some code)
    (rest : List Char) :
    readFragments ('\\' :: 'u' :: a :: b :: c :: d :: rest) =
      (readFragments rest).map fun (more, after) => (.unit code :: more, after) := by
  rw [readFragments, stands]
  cases readFragments rest <;> rfl

/-- Any other character that is no control is read as itself. -/
theorem readFragments_char {c : Char} (quote : c ≠ '"') (backslash : c ≠ '\\')
    (visible : ¬ c.toNat < 0x20) (rest : List Char) :
    readFragments (c :: rest) =
      (readFragments rest).map fun (more, after) => (.char c :: more, after) := by
  rw [readFragments.eq_5 _ _ quote (fun _ _ _ _ _ same _ => backslash same)
    (fun _ _ same _ => backslash same), if_neg visible]
  cases readFragments rest <;> rfl

/-- A written character is read as one part of a string. -/
theorem readFragments_escapeChar (c : Char) (rest : List Char) :
    readFragments (escapeChar c ++ rest) =
      (readFragments rest).map fun (more, after) => (fragmentOf c :: more, after) := by
  by_cases quote : c = '"'
  · subst quote
    exact readFragments_letter rfl rest
  by_cases backslash : c = '\\'
  · subst backslash
    exact readFragments_letter rfl rest
  by_cases short : c ∈ ['\x08', '\t', '\n', '\x0c', '\r']
  · simp only [List.mem_cons, List.not_mem_nil, or_false] at short
    obtain rfl | rfl | rfl | rfl | rfl := short <;> exact readFragments_letter rfl rest
  · by_cases control : c.toNat < 0x20
    · have written : escapeChar c = ['\\', 'u', '0', '0', hexChar (c.toNat / 16),
          hexChar (c.toNat % 16)] := by
        simp_all [escapeChar]
      rw [written, fragmentOf, if_pos ⟨control, short⟩]
      exact readFragments_unit (hexUnit?_control _ control) rest
    · have written : escapeChar c = [c] := by
        simp_all [escapeChar]
      rw [written, fragmentOf, if_neg (by simp [control])]
      exact readFragments_char quote backslash control rest

/-- A written text is read part by part up to its closing quote. -/
theorem readFragments_escaped (text rest : List Char) :
    readFragments (text.flatMap escapeChar ++ '"' :: rest) = some (text.map fragmentOf, rest) := by
  induction text with
  | nil => rfl
  | cons c text ih =>
    rw [List.flatMap_cons, List.append_assoc, readFragments_escapeChar, ih]
    rfl

/-- The number of a control character is no half of a pair. -/
theorem assemble_fragmentOf (c : Char) (rest : List Fragment) :
    assemble (fragmentOf c :: rest) = (c :: ·) <$> assemble rest := by
  unfold fragmentOf
  split
  · next control =>
    have high : isHighSurrogate c.toNat = false := by simp [isHighSurrogate]; omega
    have low : isLowSurrogate c.toNat = false := by simp [isLowSurrogate]; omega
    cases rest with
    | nil => simp [assemble, high, low]
    | cons next more => cases next <;> simp [assemble, high, low]
  · rw [assemble]

/-- The parts that a text is read as spell the text. -/
theorem assemble_map_fragmentOf (text : List Char) :
    assemble (text.map fragmentOf) = some text := by
  induction text with
  | nil => rfl
  | cons c text ih =>
    rw [List.map_cons, assemble_fragmentOf, ih]
    rfl

/-- A written text is read after its opening quote. -/
theorem readString_escaped (text : String) (rest : List Char) :
    readString (text.toList.flatMap escapeChar ++ '"' :: rest) = some (some text, rest) := by
  rw [readString, readFragments_escaped]
  simp [assemble_map_fragmentOf]

end Strings

section Blanks

/-- The break of a line is passed over. -/
theorem skipSpace_lineBreak (level : Nat) (text : List Char) :
    skipSpace (lineBreak level ++ text) = skipSpace text := by
  apply List.dropWhile_append_of_pos
  intro c listed
  rcases List.mem_cons.1 listed with rfl | blank
  · rfl
  · rw [List.eq_of_mem_replicate blank]
    rfl

/-- What is no blank is not passed over. -/
theorem skipSpace_cons {c : Char} (visible : isSpace c = false) (rest : List Char) :
    skipSpace (c :: rest) = c :: rest := by
  simp [skipSpace, visible]

/-- What stands behind the first character that is no blank is shorter than the text. -/
theorem length_lt_of_skipSpace {c : Char} {text body : List Char}
    (start : skipSpace text = c :: body) : body.length < text.length :=
  calc body.length
    _ < (c :: body).length := Nat.lt_succ_self _
    _ = (skipSpace text).length := by rw [start]
    _ ≤ text.length := (List.dropWhile_suffix _).length_le

end Blanks

/-- Items on lines of their own with commas between them, up to a closing character. -/
def writeLines {α : Type} (level : Nat) (close : Char) (write : α → List Char) (first : α)
    (rest : List α) : List Char :=
  lineBreak (level + 1) ++ (write first ++
    (rest.flatMap (fun item => ',' :: (lineBreak (level + 1) ++ write item)) ++
      (lineBreak level ++ [close])))

/-- A name and a value as they are written. -/
def writeMember (level : Nat) (member : Option String × Value) : List Char :=
  writeString (member.1.getD "").toList ++ ':' :: ' ' :: writeValue level member.2

/-- Items after the first, each after a comma. -/
theorem writeItems_eq_flatMap (level : Nat) (items : List Value) :
    writeItems level items =
      items.flatMap fun item => ',' :: (lineBreak level ++ writeValue level item) := by
  induction items with
  | nil => rfl
  | cons item rest ih => simp [writeItems, ih]

/-- Members after the first, each after a comma. -/
theorem writeMembers_eq_flatMap (level : Nat) (members : List (Option String × Value)) :
    writeMembers level members =
      members.flatMap fun member => ',' :: (lineBreak level ++ writeMember level member) := by
  induction members with
  | nil => rfl
  | cons member rest ih => simp [writeMembers, writeMember, ih]

/-- An array with items is its bracket and the lines of the items. -/
theorem writeValue_array (level : Nat) (first : Value) (rest : List Value) :
    writeValue level (.array (first :: rest)) =
      '[' :: writeLines level ']' (writeValue (level + 1)) first rest := by
  simp [writeValue, writeLines, writeItems_eq_flatMap]

/-- An object with members is its brace and the lines of the members. -/
theorem writeValue_object (level : Nat) (first : Option String × Value)
    (rest : List (Option String × Value)) :
    writeValue level (.object (first :: rest)) =
      '\x7b' :: writeLines level '\x7d' (writeMember (level + 1)) first rest := by
  simp [writeValue, writeLines, writeMembers_eq_flatMap, writeMember]

/-- The lines of items begin, after their break, with the first item. -/
theorem skipSpace_writeLines {α : Type} {write : α → List Char} {first : α}
    (visible : ∀ text, skipSpace (write first ++ text) = write first ++ text) (level : Nat)
    (close : Char) (rest : List α) (after : List Char) :
    ∃ more, skipSpace (writeLines level close write first rest ++ after) = write first ++ more := by
  rw [writeLines, List.append_assoc, skipSpace_lineBreak, List.append_assoc, visible]
  exact ⟨_, rfl⟩

/-- The characters that a textual value begins with. -/
theorem Textual.exists_head {value : Value} (textual : Textual value) (level : Nat) :
    ∃ c rest, writeValue level value = c :: rest ∧ c ∈ ['"', '[', '\x7b'] := by
  cases textual with
  | text text => exact ⟨_, _, rfl, by simp⟩
  | @array items each => cases items <;> exact ⟨_, _, rfl, by simp⟩
  | @object members named each => cases members <;> exact ⟨_, _, rfl, by simp⟩

/-- A textual value does not begin with a blank. -/
theorem Textual.skipSpace_writeValue {value : Value} (textual : Textual value) (level : Nat)
    (after : List Char) :
    skipSpace (writeValue level value ++ after) = writeValue level value ++ after := by
  obtain ⟨c, rest, written, head⟩ := textual.exists_head level
  rw [written, List.cons_append]
  refine skipSpace_cons ?_ _
  simp only [List.mem_cons, List.not_mem_nil, or_false] at head
  obtain rfl | rfl | rfl := head <;> rfl

/-- Items that are written on lines of their own are read up to the closing character, if each of
them is read where it stands in a text below some length. -/
theorem readItems_writeLines {α : Type} {item : List Char → Option (α × List Char)}
    {write : α → List Char} {bound : Nat} {close : Char} (closes : close ≠ ',')
    (bracket : isSpace close = false) {level fuel : Nat} {first : α} {rest : List α}
    {after : List Char}
    (visible : ∀ value ∈ first :: rest, ∀ text,
      skipSpace (write value ++ text) = write value ++ text)
    (each : ∀ value ∈ first :: rest, ∀ text after, text.length < bound →
      skipSpace text = write value ++ after → item text = some (value, after))
    (short : (writeLines level close write first rest ++ after).length < bound)
    (enough : (writeLines level close write first rest ++ after).length < fuel) :
    readItems item close fuel (writeLines level close write first rest ++ after) =
      some (first :: rest, after) := by
  induction rest generalizing first fuel with
  | nil =>
    obtain ⟨fuel, rfl⟩ := Nat.exists_eq_add_one_of_ne_zero (Nat.ne_zero_of_lt enough)
    have reads := each first List.mem_cons_self _ (lineBreak level ++ close :: after) short (by
      rw [writeLines, List.append_assoc, skipSpace_lineBreak, List.append_assoc,
        visible first List.mem_cons_self]
      simp)
    rw [readItems, reads]
    simp [skipSpace_lineBreak, skipSpace_cons bracket, closes]
  | cons second rest ih =>
    obtain ⟨fuel, rfl⟩ := Nat.exists_eq_add_one_of_ne_zero (Nat.ne_zero_of_lt enough)
    let remaining := writeLines level close write second rest ++ after
    have shape : writeLines level close write first (second :: rest) ++ after =
        lineBreak (level + 1) ++ (write first ++ ',' :: remaining) := by
      simp [writeLines, remaining]
    rw [shape] at short enough ⊢
    have shorter : remaining.length + 1 ≤
        (lineBreak (level + 1) ++ (write first ++ ',' :: remaining)).length := by
      simp only [List.length_append, List.length_cons]
      omega
    have reads := each first List.mem_cons_self _ (',' :: remaining) short
      (by rw [skipSpace_lineBreak, visible first List.mem_cons_self])
    have below : remaining.length < bound := by omega
    have within : remaining.length < fuel := by omega
    have more : readItems item close fuel remaining = some (second :: rest, after) :=
      ih (fun value listed => visible value (List.mem_cons_of_mem _ listed))
        (fun value listed => each value (List.mem_cons_of_mem _ listed)) below within
    rw [readItems, reads]
    simp [skipSpace_cons (show isSpace ',' = false by rfl), more]

/-- A member that is written is read, if its value is. -/
theorem readMember_writeMember {read : List Char → Option (Value × List Char)} {level : Nat}
    {name : String} {value : Value} (textual : Textual value) {text after : List Char}
    (start : skipSpace text = writeMember level (some name, value) ++ after)
    (reads : ∀ rest, rest.length < text.length →
      skipSpace rest = writeValue level value ++ after → read rest = some (value, after)) :
    readMember read text = some ((some name, value), after) := by
  have shape : skipSpace text = '"' :: (name.toList.flatMap escapeChar ++
      '"' :: ':' :: ' ' :: (writeValue level value ++ after)) := by
    rw [start]
    simp [writeMember, writeString]
  have shorter := length_lt_of_skipSpace shape
  simp only [List.length_append, List.length_cons] at shorter
  have found := reads (' ' :: (writeValue level value ++ after))
    (by simp only [List.length_append, List.length_cons]; omega)
    (textual.skipSpace_writeValue level after)
  rw [readMember, shape]
  simp [readString_escaped, skipSpace_cons (show isSpace ':' = false by rfl), found]

/-- An array that is not closed at once is read item by item. -/
theorem readValue_array {text body : List Char} (shape : skipSpace text = '[' :: body)
    (inhabited : (skipSpace body).head? ≠ some ']') (fuel : Nat) :
    readValue (fuel + 1) text =
      (readItems (readValue fuel) ']' fuel body).map fun (items, rest) => (.array items, rest) := by
  simp only [readValue, shape]
  split
  · next rest closed => simp [closed] at inhabited
  · cases readItems (readValue fuel) ']' fuel body <;> rfl

/-- An object that is not closed at once is read member by member. -/
theorem readValue_object {text body : List Char} (shape : skipSpace text = '\x7b' :: body)
    (inhabited : (skipSpace body).head? ≠ some '\x7d') (fuel : Nat) :
    readValue (fuel + 1) text =
      (readItems (readMember (readValue fuel)) '\x7d' fuel body).map fun (members, rest) =>
        (.object members, rest) := by
  simp only [readValue, shape]
  split
  · next rest closed => simp [closed] at inhabited
  · cases readItems (readMember (readValue fuel)) '\x7d' fuel body <;> rfl

/-- An array that is written is read, if its items are. -/
theorem readValue_writeValue_array {items : List Value} (textual : ∀ item ∈ items, Textual item)
    {level fuel : Nat} {text after : List Char}
    (each : ∀ item ∈ items, ∀ text after, text.length < fuel →
      skipSpace text = writeValue (level + 1) item ++ after →
      readValue fuel text = some (item, after))
    (short : text.length < fuel + 1)
    (start : skipSpace text = writeValue level (.array items) ++ after) :
    readValue (fuel + 1) text = some (.array items, after) := by
  cases items with
  | nil =>
    have shape : skipSpace text = '[' :: ']' :: after := start
    simp [readValue, shape, skipSpace_cons (show isSpace ']' = false by rfl)]
  | cons first rest =>
    have visible (value : Value) (listed : value ∈ first :: rest) :=
      (textual value listed).skipSpace_writeValue (level + 1)
    let lines := writeLines level ']' (writeValue (level + 1)) first rest
    rw [writeValue_array, List.cons_append] at start
    have within : (lines ++ after).length < fuel :=
      Nat.lt_of_lt_of_le (length_lt_of_skipSpace start) (Nat.le_of_lt_succ short)
    have inhabited : (skipSpace (lines ++ after)).head? ≠ some ']' := by
      obtain ⟨more, begins⟩ := skipSpace_writeLines (visible first List.mem_cons_self) level ']'
        rest after
      obtain ⟨c, tail, written, head⟩ := (textual first List.mem_cons_self).exists_head (level + 1)
      rw [begins, written]
      rintro same
      cases same
      simp at head
    rw [readValue_array start inhabited,
      readItems_writeLines (by decide) rfl visible each within within]
    rfl

/-- An object that is written is read, if its values are. -/
theorem readValue_writeValue_object {members : List (Option String × Value)}
    (named : ∀ member ∈ members, member.1.isSome = true)
    (textual : ∀ member ∈ members, Textual member.2)
    {level fuel : Nat} {text after : List Char}
    (each : ∀ member ∈ members, ∀ text after, text.length < fuel →
      skipSpace text = writeValue (level + 1) member.2 ++ after →
      readValue fuel text = some (member.2, after))
    (short : text.length < fuel + 1)
    (start : skipSpace text = writeValue level (.object members) ++ after) :
    readValue (fuel + 1) text = some (.object members, after) := by
  cases members with
  | nil =>
    have shape : skipSpace text = '\x7b' :: '\x7d' :: after := start
    simp [readValue, shape, skipSpace_cons (show isSpace '\x7d' = false by rfl)]
  | cons first rest =>
    have visible (member : Option String × Value) (text : List Char) :
        skipSpace (writeMember (level + 1) member ++ text) =
          writeMember (level + 1) member ++ text :=
      skipSpace_cons rfl _
    let lines := writeLines level '\x7d' (writeMember (level + 1)) first rest
    rw [writeValue_object, List.cons_append] at start
    have within : (lines ++ after).length < fuel :=
      Nat.lt_of_lt_of_le (length_lt_of_skipSpace start) (Nat.le_of_lt_succ short)
    have inhabited : (skipSpace (lines ++ after)).head? ≠ some '\x7d' := by
      obtain ⟨more, begins⟩ := skipSpace_writeLines (visible first) level '\x7d' rest after
      rw [begins]
      rintro ⟨⟩
    rw [readValue_object start inhabited, readItems_writeLines (by decide) rfl
      (fun member _ => visible member) ?_ within within]
    · rfl
    · rintro ⟨name, value⟩ listed text after below begins
      obtain ⟨name, rfl⟩ := Option.isSome_iff_exists.1 (named _ listed)
      exact readMember_writeMember (textual _ listed) begins fun rest shorter starts =>
        each _ listed rest after (Nat.lt_trans shorter below) starts

/-- The text of a textual value is read as the value, whatever stands after it and whatever blanks
stand before it, in as many steps as there are characters. -/
theorem readValue_writeValue {value : Value} (textual : Textual value) (level : Nat) {fuel : Nat}
    {text after : List Char} (short : text.length < fuel)
    (start : skipSpace text = writeValue level value ++ after) :
    readValue fuel text = some (value, after) := by
  obtain ⟨fuel, rfl⟩ := Nat.exists_eq_add_one_of_ne_zero (Nat.ne_zero_of_lt short)
  induction textual generalizing level fuel text after with
  | text found =>
    have shape : skipSpace text = '"' :: (found.toList.flatMap escapeChar ++ '"' :: after) := by
      rw [start]
      simp [writeValue, writeString, Value.text]
    simp [readValue, shape, readString_escaped, Value.text]
  | @array items textual ih =>
    refine readValue_writeValue_array textual (fun item listed text after below starts => ?_)
      short start
    obtain ⟨fuel, rfl⟩ := Nat.exists_eq_add_one_of_ne_zero (Nat.ne_zero_of_lt below)
    exact ih item listed (level + 1) starts fuel below
  | @object members named textual ih =>
    refine readValue_writeValue_object named textual
      (fun member listed text after below starts => ?_) short start
    obtain ⟨fuel, rfl⟩ := Nat.exists_eq_add_one_of_ne_zero (Nat.ne_zero_of_lt below)
    exact ih member listed (level + 1) starts fuel below

/-- Every textual value is read back from its text. -/
theorem parse_render {value : Value} (textual : Textual value) :
    parse (render value) = some value := by
  have visible := textual.skipSpace_writeValue 0 []
  rw [List.append_nil] at visible
  have start : skipSpace (writeValue 0 value) = writeValue 0 value ++ [] := by
    rw [visible, List.append_nil]
  have read : readValue ((writeValue 0 value).length + 1) (writeValue 0 value) =
      some (value, []) := readValue_writeValue textual 0 (Nat.lt_succ_self _) start
  unfold parse render
  rw [String.toList_ofList]
  simp only [read]
  rfl

end WitBridge.Json
