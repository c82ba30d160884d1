import Mathlib.Data.List.Induction
import Mathlib.Data.String.Basic
import WitBridge.Position

/-!
# Parts of a text by their bytes

A place in a text is given by the number of bytes before it. The place after a run of characters
at the front of a text lies between two characters; its line counts the newlines of the run, and
its column the characters of the run after the last of them.
-/
namespace WitBridge

open String (utf8Len)

namespace Text

/-- The part of a text between two offsets in bytes. -/
def slice (text : String) (first last : Nat) : String :=
  String.Pos.Raw.extract text ⟨first⟩ ⟨last⟩

/-- A run of characters is the part between the offsets of its ends. -/
theorem slice_of_toList {text : String} {before inside after : List Char}
    (whole : text.toList = before ++ inside ++ after) :
    slice text (utf8Len before) (utf8Len (before ++ inside)) = String.ofList inside := by
  rw [String.utf8Len_append, slice, ← String.ofList_toList (s := text), whole]
  exact String.extract_of_valid before inside after

/-- A run at the front of a text is the part up to the offset of its end. -/
theorem slice_front {text : String} {before after : List Char}
    (whole : text.toList = before ++ after) :
    slice text 0 (utf8Len before) = String.ofList before := by
  have shape : text.toList = [] ++ before ++ after := whole
  exact slice_of_toList shape

/-- A run at the end of a text is the part from the offset of its front. -/
theorem slice_back {text : String} {before after : List Char}
    (whole : text.toList = before ++ after) :
    slice text (utf8Len before) text.utf8ByteSize = String.ofList after := by
  have shape : text.toList = before ++ after ++ [] := by rw [List.append_nil, whole]
  have part := slice_of_toList shape
  rwa [← whole, String.utf8Len_toList] at part

/-- A run with characters has bytes. -/
theorem utf8Len_lt_append (before : List Char) {inside : List Char} (inhabited : inside ≠ []) :
    utf8Len before < utf8Len (before ++ inside) := by
  have bytes : utf8Len inside ≠ 0 := mt String.utf8Len_eq_zero.1 inhabited
  rw [String.utf8Len_append]
  omega

end Text

namespace Position

/-- What a place in a text says: it lies between two characters, and its line and column are
those of the text before it. -/
structure IsAt (source : String) (place : Position) : Prop where
  /-- The offset is not inside a character. -/
  boundary : String.Pos.Raw.IsValid source ⟨place.offset⟩
  /-- The line is one more than the number of newlines before. -/
  line : place.line = 1 + (Text.slice source 0 place.offset).toList.count '\n'
  /-- The column is one more than the number of characters since the last newline. -/
  column : place.column =
    1 + ((Text.slice source 0 place.offset).toList.reverse.takeWhile (· ≠ '\n')).length

/-- The place after a run of characters at the front of a text. -/
theorem advanceOver_start (text : List Char) :
    start.advanceOver text =
      ⟨utf8Len text, 1 + text.count '\n', 1 + (text.reverse.takeWhile (· ≠ '\n')).length⟩ := by
  induction text using List.reverseRecOn with
  | nil => rfl
  | append_singleton text c ih =>
    rw [advanceOver_append, ih, advanceOver_cons, advanceOver_nil, advance]
    by_cases newline : c = '\n'
    · subst newline
      simp [show '\n'.utf8Size = 1 from rfl, Nat.add_assoc]
    · simp [newline, Nat.add_comm]

/-- The offset after a run of characters counts its bytes. -/
theorem offset_advanceOver_start (text : List Char) :
    (start.advanceOver text).offset = utf8Len text := by
  rw [advanceOver_start]

/-- The place after a run of characters at the front of a text is a place in the text. -/
theorem isAt_advanceOver {source : String} {before after : List Char}
    (whole : source.toList = before ++ after) : (start.advanceOver before).IsAt source := by
  have front : Text.slice source 0 (start.advanceOver before).offset = String.ofList before := by
    rw [offset_advanceOver_start, Text.slice_front whole]
  refine ⟨?_, ?_, ?_⟩
  · rw [offset_advanceOver_start, String.Pos.Raw.isValid_iff_exists_append]
    refine ⟨String.ofList before, String.ofList after, ?_, by simp⟩
    rw [← String.ofList_append, ← whole, String.ofList_toList]
  · rw [front, String.toList_ofList, advanceOver_start]
  · rw [front, String.toList_ofList, advanceOver_start]

end Position

end WitBridge
