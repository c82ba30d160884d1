import Mathlib.Data.List.SplitBy
import WitBridge.Proofs.Ir.Rendering

/-!
# All renderings of a name are read back alike

A name is written in camel case, in title case and in kebab case. A hyphen marks letters as a
capital does, so the three are read back as one and the same name: the name with each run of
numbers, as long as it goes, joined into one number.
-/
namespace WitBridge.Ir

/-- Whether two neighbouring words run on into one another: both are numbers. -/
def runsOn (left right : List Char) : Bool :=
  decide (IsNumber left ∧ IsNumber right)

variable {word next : List Char} {words rest : List (List Char)}

theorem runsOn_iff : runsOn word next = true ↔ IsNumber word ∧ IsNumber next :=
  decide_eq_true_iff

/-- A row of words that run on is a number if its first word is one. -/
theorem isNumber_flatten_iff (chain : (word :: words).IsChain fun left right => runsOn left right) :
    IsNumber (word :: words).flatten ↔ IsNumber word := by
  induction words generalizing word with
  | nil => simp
  | cons second more ih =>
    obtain ⟨runs, tail⟩ := List.isChain_cons_cons.1 chain
    obtain ⟨first, number⟩ := runsOn_iff.1 runs
    have joined := (ih tail).2 number
    refine ⟨fun _ => first, fun _ => ⟨by simp [first.1], ?_⟩⟩
    rw [List.flatten_cons]
    exact List.forall_mem_append.2 ⟨first.2, joined.2⟩

/-- A word in front of others joins the first run if it runs on into its first word, and else is a
run of its own. -/
theorem splitBy_cons_cons {first : List (List Char)} {runs : List (List (List Char))}
    (split : (next :: rest).splitBy runsOn = (next :: first) :: runs) :
    (word :: next :: rest).splitBy runsOn =
      if runsOn word next then (word :: next :: first) :: runs
      else [word] :: (next :: first) :: runs := by
  obtain ⟨whole, inhabited, chains, apart⟩ := List.splitBy_eq_iff.1 split
  by_cases runs' : runsOn word next = true
  · rw [if_pos runs', List.splitBy_eq_iff]
    refine ⟨by rw [whole]; rfl, by simpa using inhabited, ?_, ?_⟩
    · refine List.forall_mem_cons.2 ⟨?_, fun run listed => chains run (by simp [listed])⟩
      exact List.isChain_cons_cons.2 ⟨runs', chains _ List.mem_cons_self⟩
    · rw [List.isChain_cons] at apart ⊢
      exact ⟨fun run found => by simpa using apart.1 run found, apart.2⟩
  · have alone : ∀ left ∈ [word].getLast?, runsOn left next = false := by simpa using runs'
    rw [if_neg runs', ← split]
    exact List.splitBy_append_cons rest alone

/-- The first run begins with the first word. -/
theorem exists_splitBy_cons (word : List Char) (words : List (List Char)) :
    ∃ first runs, (word :: words).splitBy runsOn = (word :: first) :: runs := by
  have nonempty : (word :: words).splitBy runsOn ≠ [] := by simp
  have inhabited := List.nil_notMem_splitBy runsOn (word :: words)
  have whole := List.flatten_splitBy runsOn (word :: words)
  obtain ⟨run, runs, shape⟩ := List.exists_cons_of_ne_nil nonempty
  rw [shape] at inhabited whole
  obtain ⟨head, first, rfl⟩ := List.exists_cons_of_ne_nil fun none : run = [] => by
    simp [none] at inhabited
  obtain rfl : head = word := by simpa using congrArg List.head? whole
  exact ⟨first, runs, shape⟩

/-- Words are joined run by run. -/
theorem fused_eq_map_flatten (words : List (List Char)) :
    fused words = (words.splitBy runsOn).map List.flatten := by
  induction words with
  | nil => rfl
  | cons word rest ih =>
    cases rest with
    | nil =>
      rw [List.splitBy_of_isChain (List.cons_ne_nil word []) (.singleton word)]
      simp [fused, fuse]
    | cons next rest =>
      obtain ⟨first, runs, split⟩ := exists_splitBy_cons next rest
      have chain := List.isChain_of_mem_splitBy (split ▸ List.mem_cons_self)
      have number := isNumber_flatten_iff chain
      rw [split] at ih
      change fuse word (fused (next :: rest)) = _
      rw [ih, splitBy_cons_cons split, List.map_cons, fuse]
      by_cases both : IsNumber word ∧ IsNumber next
      · rw [if_pos ⟨both.1, number.2 both.2⟩, if_pos (runsOn_iff.2 both)]
        rfl
      · rw [if_neg (mt (And.imp_right number.1) both), if_neg (mt runsOn_iff.1 both)]
        simp

namespace Name

/-- The name that a text spells is read back from each of its renderings with its runs of numbers
joined: of its words, each longest row of neighbouring numbers becomes one word. So each rendering
is read back as the name itself exactly if no two of its neighbouring words are numbers. -/
theorem ofText_renderings (text : String) :
    (ofText (ofText text).camel = (ofText text).joined ∧
      ofText (ofText text).title = (ofText text).joined ∧
      ofText (ofText text).kebab = (ofText text).joined) ∧
    (ofText text).joined.words.map String.toList =
      (((ofText text).words.map String.toList).splitBy runsOn).map List.flatten ∧
    (ofText (ofText text).camel = ofText text ↔ (ofText text).IsApart) ∧
    (ofText (ofText text).title = ofText text ↔ (ofText text).IsApart) ∧
    (ofText (ofText text).kebab = ofText text ↔ (ofText text).IsApart) := by
  have ofWords := ofWords_ofText text
  have camel := ofText_camel ofWords
  have title := ofText_title ofWords
  have kebab := ofText_kebab ofWords
  have runs : (ofText text).joined.words.map String.toList =
      (((ofText text).words.map String.toList).splitBy runsOn).map List.flatten := by
    rw [← fused_eq_map_flatten, joined, List.map_map]
    simp [Function.comp_def]
  refine ⟨⟨camel, title, kebab⟩, runs, ?_, ?_, ?_⟩
  · rw [camel]
    exact joined_eq_iff
  · rw [title]
    exact joined_eq_iff
  · rw [kebab]
    exact joined_eq_iff

/-- Neighbouring numbers become one. -/
example : (ofText "utf-8-16").joined = ofText "utf816" := by decide +kernel

end Name

end WitBridge.Ir
