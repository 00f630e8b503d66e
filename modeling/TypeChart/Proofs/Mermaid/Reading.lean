/-
**Reading a body back.**

What a line says stands between a fixed beginning and a fixed end (`between?`), whatever it says. A
body is read off the lines that begin with it (`readBody?`): the first of them has the name, and the
members go on to the first line that is the closing brace of that depth. A member stands one step
further in, so no text of a member can make this line.

* `between?_eq_some_iff`: what is read between two texts is what was written there.
* `dedented_indented`: a line moved in and out again.
* `indented_succ_ne`: a line one step further in is no line without a space before it.
* `readBody?_append`: a body is read back, whatever follows it.
-/

import Mathlib.Data.List.Basic
import TypeChart.Proofs.Text.Lines

namespace TypeChart

/-! ### Parts of a line -/

/-- The text between a beginning and an end of a line, if the line has both. -/
def between? (opens closes line : String) : Option String :=
  let inner := String.ofList
    ((line.toList.drop opens.length).take (line.length - (opens.length + closes.length)))
  if opens ++ inner ++ closes = line then some inner else none

@[simp]
theorem between?_append (opens inner closes : String) :
    between? opens closes (opens ++ inner ++ closes) = some inner := by
  have cut : ((opens ++ inner ++ closes).toList.drop opens.length).take
      ((opens ++ inner ++ closes).length - (opens.length + closes.length)) = inner.toList := by
    have size : (opens ++ inner ++ closes).length - (opens.length + closes.length) =
        inner.toList.length := by
      rw [String.length_append, String.length_append, String.length_toList]
      omega
    rw [size, String.toList_append, String.toList_append, List.append_assoc, ← String.length_toList,
      List.drop_left, List.take_left]
  unfold between?
  rw [cut, String.ofList_toList, if_pos rfl]

@[simp]
theorem between?_append_right (opens inner : String) :
    between? opens "" (opens ++ inner) = some inner := by
  simpa only [String.append_empty] using between?_append opens inner ""

/-- What is read between two texts is what was written there. -/
theorem between?_eq_some_iff {opens closes line inner : String} :
    between? opens closes line = some inner ↔ line = opens ++ inner ++ closes := by
  constructor
  · intro found
    dsimp only [between?] at found
    split at found
    · rename_i same
      rw [← same, Option.some.inj found]
    · cases found
  · rintro rfl
    exact between?_append opens inner closes

/-! ### Depth -/

theorem length_indentation (depth : Nat) :
    (String.join (List.replicate depth "    ")).toList.length = 4 * depth := by
  induction depth with
  | zero => rfl
  | succ depth ih =>
    rw [List.replicate_succ, String.join_cons, String.toList_append, List.length_append, ih]
    show 4 + 4 * depth = 4 * (depth + 1)
    omega

/-- A line moved out by so many steps of depth. -/
def dedented (depth : Nat) (line : String) : String :=
  String.ofList (line.toList.drop (4 * depth))

@[simp]
theorem dedented_indented (depth : Nat) (line : String) :
    dedented depth (indented depth line) = line := by
  unfold dedented indented
  rw [String.toList_append, ← length_indentation depth, List.drop_left, String.ofList_toList]

theorem map_dedented_indented (depth : Nat) (lines : List String) :
    (lines.map (indented depth)).map (dedented depth) = lines := by
  rw [List.map_map]
  exact List.map_id'' (dedented_indented depth) lines

theorem indented_inj {depth : Nat} {first second : String} :
    indented depth first = indented depth second ↔ first = second :=
  String.append_right_inj _

theorem indented_append (depth : Nat) (front back : String) :
    indented depth (front ++ back) = indented depth front ++ back :=
  String.append_assoc.symm

theorem indented_succ (depth : Nat) (line : String) :
    indented (depth + 1) line = indented depth ("    " ++ line) := by
  unfold indented
  rw [List.replicate_succ', String.join_append, String.append_assoc]
  rfl

/-- A line one step further in differs from every line that begins with no space. -/
theorem indented_succ_ne {depth : Nat} {line other : String}
    (first : other.toList.head? ≠ some ' ') : indented (depth + 1) line ≠ indented depth other := by
  intro same
  rw [indented_succ, indented_inj] at same
  apply first
  rw [← same, String.toList_append]
  rfl

/-- A line moved in differs from every line that begins with no space. -/
theorem indented_ne {depth : Nat} {line other : String} (first : other.toList.head? ≠ some ' ') :
    indented (depth + 1) line ≠ other := by
  rintro rfl
  apply first
  unfold indented
  rw [List.replicate_succ, String.join_cons, String.append_assoc, String.toList_append]
  rfl

/-! ### Bodies -/

/-- The first line of the body of a name. -/
def bodyHead (depth : Nat) (name : String) : String :=
  indented depth ("class " ++ name ++ " \x7b")

/-- The last line of every body. -/
def bodyEnd (depth : Nat) : String :=
  indented depth "\x7d"

/-- The name in the first line of a body, if a line is one. -/
def readHead? (depth : Nat) (line : String) : Option String :=
  between? (indented depth "class ") " \x7b" line

theorem readHead?_eq_some_iff {depth : Nat} {line name : String} :
    readHead? depth line = some name ↔ line = bodyHead depth name := by
  unfold readHead? bodyHead
  rw [between?_eq_some_iff, indented_append, indented_append]

/-- The body at the beginning of lines: its name, its member lines, and the lines after it. -/
def readBody? (depth : Nat) : List String → Option (String × List String × List String)
  | [] => none
  | head :: rest =>
    match readHead? depth head, rest.dropWhile (· ≠ bodyEnd depth) with
    | some name, _ :: after =>
      some (name, (rest.takeWhile (· ≠ bodyEnd depth)).map (dedented (depth + 1)), after)
    | _, _ => none

/-- A body takes at least one line. -/
theorem length_of_readBody? {depth : Nat} {lines : List String} {name : String}
    {members after : List String} (found : readBody? depth lines = some (name, members, after)) :
    after.length < lines.length := by
  cases lines with
  | nil => cases found
  | cons head rest =>
    have inside := (List.dropWhile_sublist (· ≠ bodyEnd depth) (l := rest)).length_le
    rw [readBody?] at found
    split at found
    · rename_i ends
      obtain ⟨_, _, rfl⟩ : _ ∧ _ ∧ _ = after := by
        simpa only [Option.some.injEq, Prod.mk.injEq] using found
      rw [ends, List.length_cons] at inside
      rw [List.length_cons]
      omega
    · cases found

/-- No text of a member makes the line that ends a body. -/
theorem indented_member_ne_bodyEnd (depth : Nat) (line : String) :
    indented (depth + 1) line ≠ bodyEnd depth :=
  indented_succ_ne (by decide)

/-- **A body is read back**, whatever its texts are and whatever lines follow it. -/
theorem readBody?_append (depth : Nat) (classifier : Classifier) (rest : List String) :
    readBody? depth (classifier.body depth ++ rest) =
      some (classifier.name, classifier.memberLines, rest) := by
  have lines : classifier.body depth ++ rest =
      bodyHead depth classifier.name ::
        (classifier.memberLines.map (indented (depth + 1)) ++ bodyEnd depth :: rest) := by
    unfold Classifier.body
    rw [List.append_assoc, List.append_assoc]
    rfl
  have inside : ∀ line ∈ classifier.memberLines.map (indented (depth + 1)),
      decide (line ≠ bodyEnd depth) = true := by
    intro line member
    obtain ⟨text, _, rfl⟩ := List.mem_map.mp member
    exact decide_eq_true (indented_member_ne_bodyEnd depth text)
  have head : readHead? depth (bodyHead depth classifier.name) = some classifier.name :=
    readHead?_eq_some_iff.mpr rfl
  have members : (classifier.memberLines.map (indented (depth + 1)) ++
      bodyEnd depth :: rest).takeWhile (· ≠ bodyEnd depth) =
        classifier.memberLines.map (indented (depth + 1)) := by
    rw [List.takeWhile_append_of_pos inside, List.takeWhile_cons_of_neg (by simp), List.append_nil]
  have after : (classifier.memberLines.map (indented (depth + 1)) ++
      bodyEnd depth :: rest).dropWhile (· ≠ bodyEnd depth) = bodyEnd depth :: rest := by
    rw [List.dropWhile_append_of_pos inside, List.dropWhile_cons_of_neg (by simp)]
  rw [lines, readBody?]
  simp only [head, after, members, map_dedented_indented]

end TypeChart
