/-!
# Pieces of a text

A text is cut at every occurrence of a separator, and pieces are joined again with the
separator between them. Cutting always gives at least one piece, none of which holds the
separator, and joining the pieces gives the text back.
-/
namespace WitBridge.Text

/-- Put a character in front of the first piece. -/
def consFirst (c : Char) : List (List Char) → List (List Char)
  | [] => [[c]]
  | piece :: rest => (c :: piece) :: rest

/-- The pieces of a text between the separators. -/
def pieces (separator : Char) : List Char → List (List Char)
  | [] => [[]]
  | c :: rest =>
    if c = separator then [] :: pieces separator rest else consFirst c (pieces separator rest)

/-- Pieces with the separator between neighbours. -/
def join (separator : Char) : List (List Char) → List Char
  | [] => []
  | [piece] => piece
  | piece :: rest => piece ++ separator :: join separator rest

/-- There is always a piece. -/
theorem pieces_ne_nil (separator : Char) (text : List Char) : pieces separator text ≠ [] := by
  cases text with
  | nil => simp [pieces]
  | cons c rest =>
    unfold pieces
    split
    · simp
    · cases pieces separator rest <;> simp [consFirst]

/-- A character in front of the first piece is in front of the joined text. -/
theorem join_consFirst (separator c : Char) (parts : List (List Char)) :
    join separator (consFirst c parts) = c :: join separator parts := by
  match parts with
  | [] => rfl
  | [_] => rfl
  | _ :: _ :: _ => rfl

/-- Joining the pieces of a text gives the text back. -/
theorem join_pieces (separator : Char) (text : List Char) :
    join separator (pieces separator text) = text := by
  induction text with
  | nil => rfl
  | cons c rest ih =>
    unfold pieces
    split
    · next same =>
      subst same
      cases parts : pieces c rest with
      | nil => exact absurd parts (pieces_ne_nil c rest)
      | cons piece more => simp [join, ← parts, ih]
    · rw [join_consFirst, ih]

/-- A text without the separator is its own one piece. -/
theorem pieces_of_not_mem {separator : Char} {text : List Char} (absent : separator ∉ text) :
    pieces separator text = [text] := by
  induction text with
  | nil => rfl
  | cons c rest ih =>
    simp only [List.mem_cons, not_or] at absent
    simp [pieces, Ne.symm absent.1, ih absent.2, consFirst]

/-- A piece, the separator and more text are cut into that piece and the pieces of the rest. -/
theorem pieces_append {separator : Char} {piece : List Char} (absent : separator ∉ piece)
    (rest : List Char) :
    pieces separator (piece ++ separator :: rest) = piece :: pieces separator rest := by
  induction piece with
  | nil => simp [pieces]
  | cons c more ih =>
    simp only [List.mem_cons, not_or] at absent
    simp [pieces, Ne.symm absent.1, ih absent.2, consFirst]

/-- Pieces without the separator are read back from their joined text. -/
theorem pieces_join {separator : Char} {parts : List (List Char)} (inhabited : parts ≠ [])
    (absent : ∀ piece ∈ parts, separator ∉ piece) :
    pieces separator (join separator parts) = parts := by
  induction parts with
  | nil => exact absurd rfl inhabited
  | cons piece more ih =>
    cases more with
    | nil => exact pieces_of_not_mem (absent piece (by simp))
    | cons next rest =>
      have tail := ih (by simp) fun p member => absent p (List.mem_cons_of_mem _ member)
      simp only [join]
      rw [pieces_append (absent piece (by simp)), tail]

end WitBridge.Text
