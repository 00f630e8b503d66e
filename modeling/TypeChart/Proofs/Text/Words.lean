/-
**Texts cut at a character.**

A line puts several texts one after the other, with a character between them. Where that character
does not stand in the first text, the first cut in the line is the end of this text, and so the line
tells it and what follows it: `append_cut_inj`. A text without a space is a word.

A list of texts is written with a separator between any two of them. If the separator begins with a
character that stands in none of the texts, then the whole tells them all: `intercalate_cut_inj`. It
does not tell no text at all from a single one that is empty.
-/

import Mathlib.Data.List.Basic

namespace TypeChart

/-- No space stands in a text. -/
def IsWord (text : String) : Prop :=
  ' ' ∉ text.toList

instance (text : String) : Decidable (IsWord text) :=
  inferInstanceAs (Decidable (' ' ∉ text.toList))

theorem takeWhile_append_cut {α : Type} [DecidableEq α] {cut : α} {front : List α}
    (uncut : cut ∉ front) (back : List α) :
    (front ++ cut :: back).takeWhile (· ≠ cut) = front := by
  have before : ∀ item ∈ front, decide (item ≠ cut) = true := by
    intro item member
    exact decide_eq_true fun same => uncut (same ▸ member)
  rw [List.takeWhile_append_of_pos before, List.takeWhile_cons_of_neg (by simp), List.append_nil]

/-- **What stands before the first cut** is told by the whole, and so is what stands after it. -/
theorem append_cut_inj {cut : Char} {first second rest more : String}
    (firstUncut : cut ∉ first.toList) (secondUncut : cut ∉ second.toList) :
    first ++ (String.singleton cut ++ rest) = second ++ (String.singleton cut ++ more) ↔
      first = second ∧ rest = more := by
  constructor
  · intro same
    have chars := congrArg String.toList same
    simp only [String.toList_append, String.toList_singleton, List.singleton_append] at chars
    have fronts := congrArg (List.takeWhile (· ≠ cut)) chars
    rw [takeWhile_append_cut firstUncut, takeWhile_append_cut secondUncut, String.toList_inj]
      at fronts
    subst fronts
    have backs := (String.append_right_inj _).mp ((String.append_right_inj _).mp same)
    exact ⟨rfl, backs⟩
  · rintro ⟨rfl, rfl⟩
    rfl

/-! ### Lists of texts -/

/-- In a whole of texts, all but the first have the separator before them. -/
theorem intercalate_cons_eq_join (separator first : String) (others : List String) :
    separator.intercalate (first :: others) =
      first ++ String.join (others.map (separator ++ ·)) := by
  induction others generalizing first with
  | nil => simp
  | cons next later ih =>
    rw [String.intercalate_cons_cons, ih next, List.map_cons, String.join_cons,
      String.append_assoc, String.append_assoc]

variable {cut : Char} {more : String}

/-- The whole of two texts or more is no text without the cut. -/
theorem intercalate_ne_of_uncut {text : String} (uncut : cut ∉ text.toList)
    (first second : String) (others : List String) :
    (String.singleton cut ++ more).intercalate (first :: second :: others) ≠ text := by
  rintro rfl
  apply uncut
  rw [String.intercalate_cons_cons]
  simp [String.toList_append]

/-- **The whole of texts without the cut tells them**, where there is a text. -/
theorem intercalate_cut_inj {first second : List String}
    (firstUncut : ∀ text ∈ first, cut ∉ text.toList)
    (secondUncut : ∀ text ∈ second, cut ∉ text.toList) (firstNonempty : first ≠ [])
    (secondNonempty : second ≠ []) :
    (String.singleton cut ++ more).intercalate first =
        (String.singleton cut ++ more).intercalate second ↔
      first = second := by
  induction first generalizing second with
  | nil => exact absurd rfl firstNonempty
  | cons text rest ih =>
    obtain ⟨other, others, rfl⟩ := List.exists_cons_of_ne_nil secondNonempty
    obtain ⟨textUncut, restUncut⟩ := List.forall_mem_cons.mp firstUncut
    obtain ⟨otherUncut, othersUncut⟩ := List.forall_mem_cons.mp secondUncut
    match rest, others with
    | [], [] =>
      rw [String.intercalate_singleton, String.intercalate_singleton, List.cons.injEq,
        and_iff_left rfl]
    | [], next :: later =>
      rw [String.intercalate_singleton]
      exact iff_of_false (intercalate_ne_of_uncut textUncut other next later).symm (by simp)
    | next :: later, [] =>
      rw [String.intercalate_singleton]
      exact iff_of_false (intercalate_ne_of_uncut otherUncut text next later) (by simp)
    | next :: later, another :: further =>
      have tails := ih restUncut othersUncut (List.cons_ne_nil _ _) (List.cons_ne_nil _ _)
      simp only [String.intercalate_cons_cons, String.append_assoc]
      rw [append_cut_inj textUncut otherUncut, String.append_right_inj, tails,
        List.cons.injEq text]

/-- Where the first text is not empty, neither is the whole. -/
theorem intercalate_ne_empty {separator text : String} (nonempty : text ≠ "")
    (others : List String) : separator.intercalate (text :: others) ≠ "" := by
  cases others with
  | nil => rwa [String.intercalate_singleton]
  | cons next later =>
    rw [String.intercalate_cons_cons, String.append_assoc]
    exact fun isEmpty => nonempty (String.append_eq_empty_iff.mp isEmpty).1

/-- Where no text is empty, the whole tells also whether there is one. -/
theorem intercalate_cut_inj_of_nonempty {first second : List String}
    (firstUncut : ∀ text ∈ first, cut ∉ text.toList)
    (secondUncut : ∀ text ∈ second, cut ∉ text.toList) (firstNonempty : "" ∉ first)
    (secondNonempty : "" ∉ second) :
    (String.singleton cut ++ more).intercalate first =
        (String.singleton cut ++ more).intercalate second ↔
      first = second := by
  match first, second with
  | [], [] => exact iff_of_true rfl rfl
  | [], text :: others =>
    have nonempty : text ≠ "" := fun isEmpty => secondNonempty (isEmpty ▸ List.mem_cons_self)
    rw [String.intercalate_nil]
    exact iff_of_false (intercalate_ne_empty nonempty others).symm (by simp)
  | text :: others, [] =>
    have nonempty : text ≠ "" := fun isEmpty => firstNonempty (isEmpty ▸ List.mem_cons_self)
    rw [String.intercalate_nil]
    exact iff_of_false (intercalate_ne_empty nonempty others) (by simp)
  | text :: others, other :: rest =>
    exact intercalate_cut_inj firstUncut secondUncut (List.cons_ne_nil _ _) (List.cons_ne_nil _ _)

end TypeChart
