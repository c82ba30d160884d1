import WitBridge.Proofs.Token.Tidy

/-!
# Text between tokens

What a stretch of trivia looks like, said without the reader of trivia. A block comment is told by
its delimiters, which are read from the left without overlap: an opening goes one level in, a
closing one level out, and the comment ends where its level is back at zero. A stretch between two
tokens is made of blanks, line comments and block comments; only at the end of the input a comment
may be left open.

The reader takes a stretch apart just so: a balanced comment is split off whatever follows it, and
what it splits off is balanced unless the text ends.
-/
namespace WitBridge.Token

/-- The change of level at each delimiter or other character, read from the left without
overlap. -/
def levels : List Char → List Int
  | [] => []
  | '/' :: '*' :: rest => 1 :: levels rest
  | '*' :: '/' :: rest => -1 :: levels rest
  | _ :: rest => 0 :: levels rest

/-- All changes of level taken together. -/
def net (changes : List Int) : Int :=
  changes.foldr (· + ·) 0

theorem net_nil : net [] = 0 := rfl

theorem net_cons (step : Int) (changes : List Int) : net (step :: changes) = step + net changes :=
  rfl

/-- Whether a text that begins inside some open comments closes the last of them at its end, and
not before. -/
structure Closes (depth : Nat) (text : List Char) : Prop where
  /-- The level at the end is zero. -/
  total : depth + net (levels text) = 0
  /-- The level is positive before. -/
  inside : ∀ n < (levels text).length, 0 < depth + net ((levels text).take n)

/-- Whether a text that begins inside some open comments closes not all of them. -/
def StaysOpen (depth : Nat) (text : List Char) : Prop :=
  ∀ n ≤ (levels text).length, 0 < depth + net ((levels text).take n)

/-- Whether a text is a block comment, with its opening and its closing. -/
def IsBlock (text : List Char) : Prop :=
  ∃ body, text = '/' :: '*' :: body ∧ Closes 1 body

/-- Whether a text is a block comment that is never closed. -/
def IsOpenBlock (text : List Char) : Prop :=
  ∃ body, text = '/' :: '*' :: body ∧ StaysOpen 1 body

/-- A stretch of blanks and comments, in which a test allows line comments by the text after their
two slashes. Only in a stretch that is the last of a text a comment may be left open. -/
inductive Gap (allows : List Char → Prop) (isLast : Prop) : List Char → Prop
  | nil : Gap allows isLast []
  | blank {c : Char} {rest : List Char} (separates : Trivia.isSeparator c = true)
      (more : Gap allows isLast rest) : Gap allows isLast (c :: rest)
  /-- A line comment goes on to a newline, or to the end of the text. -/
  | line {body rest : List Char} (single : '\n' ∉ body) (allowed : allows body)
      (ends : rest.head? = some '\n' ∨ rest = [] ∧ isLast) (more : Gap allows isLast rest) :
      Gap allows isLast ('/' :: '/' :: (body ++ rest))
  | block {comment rest : List Char} (isBlock : IsBlock comment) (more : Gap allows isLast rest) :
      Gap allows isLast (comment ++ rest)
  | openBlock {comment : List Char} (last : isLast) (isOpen : IsOpenBlock comment) :
      Gap allows isLast comment

/-- A text that goes one level in. -/
theorem levels_open (rest : List Char) : levels ('/' :: '*' :: rest) = 1 :: levels rest := rfl

/-- A text that goes one level out. -/
theorem levels_close (rest : List Char) : levels ('*' :: '/' :: rest) = -1 :: levels rest := rfl

/-- A change of level in front: what is closed after it is closed by the whole. -/
theorem Closes.cons {depth inner : Nat} {step : Int} {text rest : List Char}
    (shape : levels text = step :: levels rest) (level : depth + step = inner) (open' : 0 < depth)
    (closes : Closes inner rest) : Closes depth text := by
  obtain ⟨total, inside⟩ := closes
  refine ⟨by rw [shape, net_cons]; omega, fun n bound => ?_⟩
  rw [shape] at bound ⊢
  cases n with
  | zero => simpa [net_nil] using open'
  | succ n =>
    have := inside n (by simpa using bound)
    rw [List.take_succ_cons, net_cons]
    omega

/-- A change of level in front: the rest closes what is open after it. -/
theorem Closes.tail {depth inner : Nat} {step : Int} {text rest : List Char}
    (shape : levels text = step :: levels rest) (level : depth + step = inner)
    (closes : Closes depth text) : Closes inner rest := by
  obtain ⟨total, inside⟩ := closes
  rw [shape] at total inside
  refine ⟨by rw [net_cons] at total; omega, fun n bound => ?_⟩
  have := inside (n + 1) (by simpa using bound)
  rw [List.take_succ_cons, net_cons] at this
  omega

/-- A text with characters begins inside an open comment. -/
theorem Closes.exists_outer {depth : Nat} {step : Int} {text rest : List Char}
    (shape : levels text = step :: levels rest) (closes : Closes depth text) :
    ∃ outer, depth = outer + 1 := by
  have first := closes.inside 0 (by simp [shape])
  exact Nat.exists_eq_add_one.2 (by simpa [net_nil] using first)

/-- Nothing is closed by a text without characters. -/
theorem Closes.nil_iff {depth : Nat} : Closes depth [] ↔ depth = 0 := by
  constructor
  · rintro ⟨total, -⟩
    simpa [levels, net_nil] using total
  · rintro rfl
    exact ⟨by simp [levels, net_nil], by simp [levels]⟩

/-- A change of level in front: what stays open after it stays open in the whole. -/
theorem StaysOpen.cons {depth inner : Nat} {step : Int} {text rest : List Char}
    (shape : levels text = step :: levels rest) (level : depth + step = inner) (open' : 0 < depth)
    (stays : StaysOpen inner rest) : StaysOpen depth text := by
  intro n bound
  rw [shape] at bound ⊢
  cases n with
  | zero => simpa [net_nil] using open'
  | succ n =>
    have := stays n (by simpa using bound)
    rw [List.take_succ_cons, net_cons]
    omega

/-- A change of level in front: what stays open in the whole stays open after it. -/
theorem StaysOpen.tail {depth inner : Nat} {step : Int} {text rest : List Char}
    (shape : levels text = step :: levels rest) (level : depth + step = inner)
    (stays : StaysOpen depth text) : StaysOpen inner rest := by
  intro n bound
  have := stays (n + 1) (by simpa [shape] using bound)
  rw [shape, List.take_succ_cons, net_cons] at this
  omega

/-- A text that stays open begins inside an open comment. -/
theorem StaysOpen.exists_outer {depth : Nat} {text : List Char} (stays : StaysOpen depth text) :
    ∃ outer, depth = outer + 1 := by
  have first := stays 0 (Nat.zero_le _)
  exact Nat.exists_eq_add_one.2 (by simpa [net_nil] using first)

namespace Trivia

/-- A balanced text is split off whatever follows it. -/
theorem splitBlock_append_of_closes {depth : Nat} {body : List Char} (rest : List Char)
    (closes : Closes depth body) : splitBlock depth (body ++ rest) = (body, rest) := by
  fun_induction levels body generalizing depth with
  | case1 =>
    obtain rfl := Closes.nil_iff.1 closes
    simp [splitBlock]
  | case2 more ih =>
    obtain ⟨outer, rfl⟩ := closes.exists_outer (levels_open more)
    have inner : Closes (outer + 2) more := closes.tail (levels_open more) (by omega)
    simp only [List.cons_append, splitBlock, ih inner]
  | case3 more ih =>
    obtain ⟨outer, rfl⟩ := closes.exists_outer (levels_close more)
    have inner : Closes outer more := closes.tail (levels_close more) (by omega)
    simp only [List.cons_append, splitBlock, ih inner]
  | case4 c more opening closing ih =>
    have shape : levels (c :: more) = 0 :: levels more := by
      rw [levels]
      · exact opening
      · exact closing
    obtain ⟨outer, rfl⟩ := closes.exists_outer shape
    have inner : Closes (outer + 1) more := closes.tail shape (by omega)
    -- The character is no delimiter together with the next one, which belongs to the text too.
    have inhabited : more ≠ [] := by
      rintro rfl
      exact absurd (Closes.nil_iff.1 inner) (by omega)
    obtain ⟨d, tail, rfl⟩ := List.exists_cons_of_ne_nil inhabited
    rw [List.cons_append, splitBlock, ih inner]
    · rintro after rfl shape
      cases shape
      exact opening _ rfl rfl
    · rintro after rfl shape
      cases shape
      exact closing _ rfl rfl

/-- A comment that stays open takes the whole text. -/
theorem splitBlock_of_staysOpen {depth : Nat} {body : List Char} (stays : StaysOpen depth body) :
    splitBlock depth body = (body, []) := by
  fun_induction levels body generalizing depth with
  | case1 =>
    obtain ⟨outer, rfl⟩ := stays.exists_outer
    simp [splitBlock]
  | case2 more ih =>
    obtain ⟨outer, rfl⟩ := stays.exists_outer
    have inner : StaysOpen (outer + 2) more := stays.tail (levels_open more) (by omega)
    simp only [splitBlock, ih inner]
  | case3 more ih =>
    obtain ⟨outer, rfl⟩ := stays.exists_outer
    have inner : StaysOpen outer more := stays.tail (levels_close more) (by omega)
    simp only [splitBlock, ih inner]
  | case4 c more opening closing ih =>
    have shape : levels (c :: more) = 0 :: levels more := by
      rw [levels]
      · exact opening
      · exact closing
    obtain ⟨outer, rfl⟩ := stays.exists_outer
    have inner : StaysOpen (outer + 1) more := stays.tail shape (by omega)
    rw [splitBlock, ih inner]
    · exact opening
    · exact closing

/-- What is split off is balanced, unless the text ends inside the comment. -/
theorem closes_splitBlock (depth : Nat) (text : List Char) :
    Closes depth (splitBlock depth text).1 ∨
      (splitBlock depth text).2 = [] ∧ StaysOpen depth (splitBlock depth text).1 := by
  fun_induction splitBlock depth text with
  | case1 => exact .inl (Closes.nil_iff.2 rfl)
  | case2 => exact .inr ⟨rfl, by intro n bound; simp [levels, net_nil]⟩
  | case3 depth more body after split ih =>
    rw [split] at ih
    exact ih.imp (.cons (levels_open body) (by omega) (by omega))
      (.imp id (.cons (levels_open body) (by omega) (by omega)))
  | case4 depth more body after split ih =>
    rw [split] at ih
    exact ih.imp (.cons (levels_close body) (by omega) (by omega))
      (.imp id (.cons (levels_close body) (by omega) (by omega)))
  | case5 depth c more opening closing body after split ih =>
    have whole := splitBlock_append (depth + 1) more
    rw [split] at ih whole
    have shape : levels (c :: body) = 0 :: levels body := by
      rw [levels]
      · rintro rest rfl rfl
        exact opening _ rfl whole.symm
      · rintro rest rfl rfl
        exact closing _ rfl whole.symm
    exact ih.imp (.cons shape (by omega) (by omega)) (.imp id (.cons shape (by omega) (by omega)))

/-- Behind a line comment trivia goes on with a newline, or the text ends: the reader would go on
with a newline that is left. -/
theorem newline_or_eq_nil {tail gap after : List Char}
    (whole : gap ++ after = tail.dropWhile (· ≠ '\n')) (ended : next? after = none) :
    gap.head? = some '\n' ∨ gap = [] ∧ after = [] := by
  have newline := List.head?_dropWhile_not (· ≠ '\n') tail
  rw [← whole] at newline
  cases gap with
  | cons c more => exact .inl (by simpa using newline)
  | nil =>
    refine .inr ⟨rfl, ?_⟩
    cases after with
    | nil => rfl
    | cons c more =>
      obtain rfl : c = '\n' := by simpa using newline
      contradiction

/-- The trivia at the front of a text is a stretch of blanks and comments, and only where nothing
follows it a comment may be left open. -/
theorem gap_span (text : List Char) :
    Gap (fun _ => True) ((span text).2 = []) ((span text).1.flatMap chars) := by
  fun_induction span text with
  | case1 => exact .nil
  | case2 text item rest found items after split ih =>
    have whole := chars_append_span rest
    have ended := next?_span rest
    rw [split] at ih whole ended
    rw [List.flatMap_cons]
    have single := single_of_next? found
    revert found single
    fun_cases next? text
    case case1 => simp
    case case2 tail =>
      rintro ⟨⟩ single
      exact .line (single _ rfl) trivial (newline_or_eq_nil whole ended) ih
    case case3 tail body rest closed =>
      rintro ⟨⟩ -
      have parts := closes_splitBlock 1 tail
      rw [closed] at parts
      rcases parts with balanced | ⟨rfl, stays⟩
      · exact .block ⟨body, rfl, balanced⟩ ih
      · obtain ⟨nothing, rfl⟩ := List.append_eq_nil_iff.1 whole
        rw [nothing, List.append_nil]
        exact .openBlock rfl ⟨body, rfl, stays⟩
    case case4 c tail _ _ separates =>
      rintro ⟨⟩ -
      exact .blank separates ih
    case case5 => simp

end Trivia

end WitBridge.Token
