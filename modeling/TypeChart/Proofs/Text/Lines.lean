/-
**Texts and their lines.**

A document is made as a list of lines, and `unlines` writes each of them with a line feed at its
end. The way back is to cut the text at its line feeds, which recovers the lines if no line feed
stands inside one of them (`IsOneLine`); the empty rest after the last line feed is one piece more.

* `unlines_append`, `unlines_flatMap`: the text of a list of lines, part by part.
* `pieces_unlines`: the pieces of a text are its lines.
* `unindented_indented`: a line without the spaces before it does not show its depth.
-/

import TypeChart.Mermaid.Document

namespace TypeChart

/-! ### Writing lines -/

theorem unlines_append (front back : List String) :
    unlines (front ++ back) = unlines front ++ unlines back := by
  unfold unlines
  rw [List.map_append, String.join_append]

theorem unlines_flatMap {α : Type} (block : α → List String) (items : List α) :
    unlines (items.flatMap block) = String.join (items.map fun item => unlines (block item)) := by
  induction items with
  | nil => rfl
  | cons item rest ih =>
    rw [List.flatMap_cons, unlines_append, ih, List.map_cons, String.join_cons]

/-- A line feed after each line is one between any two of the lines and an empty one. -/
theorem unlines_eq_intercalate (lines : List String) :
    unlines lines = "\n".intercalate (lines ++ [""]) := by
  induction lines with
  | nil => rfl
  | cons line rest ih =>
    have notLast : rest ++ [""] ≠ [] := List.append_ne_nil_of_right_ne_nil rest (by simp)
    rw [List.cons_append, String.intercalate_cons_of_ne_nil notLast, ← ih, unlines, List.map_cons,
      String.join_cons, unlines]

/-! ### Reading lines -/

/-- No line feed stands in a text. -/
def IsOneLine (text : String) : Prop :=
  '\n' ∉ text.toList

instance (text : String) : Decidable (IsOneLine text) :=
  inferInstanceAs (Decidable ('\n' ∉ text.toList))

@[simp]
theorem isOneLine_append {front back : String} :
    IsOneLine (front ++ back) ↔ IsOneLine front ∧ IsOneLine back := by
  unfold IsOneLine
  rw [String.toList_append, List.mem_append, not_or]

theorem isOneLine_join {texts : List String} (each : ∀ text ∈ texts, IsOneLine text) :
    IsOneLine (String.join texts) := by
  unfold IsOneLine
  rw [String.toList_join]
  intro member
  obtain ⟨text, listed, inside⟩ := List.mem_flatMap.mp member
  exact each text listed inside

theorem isOneLine_intercalate {separator : String} {texts : List String}
    (between : IsOneLine separator) (each : ∀ text ∈ texts, IsOneLine text) :
    IsOneLine (separator.intercalate texts) := by
  induction texts with
  | nil =>
    rw [String.intercalate_nil]
    decide
  | cons text rest ih =>
    have here := each text List.mem_cons_self
    have later := ih fun other member => each other (List.mem_cons_of_mem _ member)
    by_cases last : rest = []
    · rw [last, String.intercalate_singleton]
      exact here
    · rw [String.intercalate_cons_of_ne_nil last]
      exact isOneLine_append.mpr ⟨isOneLine_append.mpr ⟨here, between⟩, later⟩

/-- The pieces of a text between its line feeds. -/
def pieces (text : String) : List String :=
  (text.split '\n').toList.map (·.copy)

/-- **The pieces of a text of lines are the lines**, and the empty rest after the last of them. -/
theorem pieces_unlines {lines : List String} (oneLine : ∀ line ∈ lines, IsOneLine line) :
    pieces (unlines lines) = lines ++ [""] := by
  have each : ∀ piece ∈ lines ++ [""], '\n' ∉ piece.toList := by
    intro piece member
    rcases List.mem_append.mp member with line | rest
    · exact oneLine piece line
    · rw [List.mem_singleton.mp rest]
      decide
  rw [pieces, unlines_eq_intercalate]
  exact (String.toList_split_intercalate each).trans (if_neg (by simp))

/-! ### Depth -/

/-- A line without the spaces before it. -/
def unindented (line : String) : String :=
  String.ofList (line.toList.dropWhile (· == ' '))

theorem isOneLine_indented {depth : Nat} {line : String} (oneLine : IsOneLine line) :
    IsOneLine (indented depth line) := by
  refine isOneLine_append.mpr ⟨isOneLine_join fun text member => ?_, oneLine⟩
  rw [List.eq_of_mem_replicate member]
  decide

@[simp]
theorem unindented_indented (depth : Nat) (line : String) :
    unindented (indented depth line) = unindented line := by
  have spaces : ∀ c ∈ (String.join (List.replicate depth "    ")).toList, (c == ' ') = true := by
    intro c member
    rw [String.toList_join] at member
    obtain ⟨text, repeated, inside⟩ := List.mem_flatMap.mp member
    rw [List.eq_of_mem_replicate repeated] at inside
    simpa using inside
  unfold unindented indented
  rw [String.toList_append, List.dropWhile_append_of_pos spaces]

end TypeChart
