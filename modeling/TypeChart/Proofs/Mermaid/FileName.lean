/-
**Names of files.**

The file of a document is named after the project, with a word for each option that is on, an
underscore before each word, and an ending. No word has an underscore in it. So in the name of a
project without underscores, which may hold dots and endings of its own, the first underscore is the
end of the project, and the name tells the project and all options.

* `Options.fileName_eq`: the name as texts joined by underscores.
* `Options.words_injective`: the words tell the options.
* `Options.mem_fileName_iff`: what the project alone can bring into the name.
* `Options.fileName_eq_iff`: the name tells project and options.
-/

import TypeChart.Mermaid.Document
import TypeChart.Proofs.Text.Words

namespace TypeChart

namespace Options

variable {options : Options}

/-! ### Marks -/

/-- The options that are on can be told from their marks. -/
theorem marks_injective : Function.Injective marks := by
  intro first second same
  have each (mark : String) : mark ∈ first.marks ↔ mark ∈ second.marks := by rw [same]
  have classes : first.hideClasses = second.hideClasses :=
    Bool.eq_iff_iff.mpr (by simpa [mem_marks_iff] using each "_NoClasses")
  have interfaces : first.hideInterfaces = second.hideInterfaces :=
    Bool.eq_iff_iff.mpr (by simpa [mem_marks_iff] using each "_NoInterfaces")
  have enums : first.hideEnums = second.hideEnums :=
    Bool.eq_iff_iff.mpr (by simpa [mem_marks_iff] using each "_NoEnums")
  have ancestors : first.allAncestors = second.allAncestors :=
    Bool.eq_iff_iff.mpr (by simpa [mem_marks_iff] using each "_NestedInheritance")
  have namespaces : first.byNamespace = second.byNamespace :=
    Bool.eq_iff_iff.mpr (by simpa [mem_marks_iff] using each "_WithNamespaces")
  cases first
  cases second
  rw [mk.injEq]
  exact ⟨classes, interfaces, enums, ancestors, namespaces⟩

/-- What is added to the name of a project, at most. -/
def additions : List String :=
  ["_NoClasses", "_NoInterfaces", "_NoEnums", "_NestedInheritance", "_WithNamespaces", ".md"]

theorem mem_additions_of_mem_marks {mark : String} (member : mark ∈ options.marks) :
    mark ∈ additions := by
  obtain ⟨_, rfl⟩ | ⟨_, rfl⟩ | ⟨_, rfl⟩ | ⟨_, rfl⟩ | ⟨_, rfl⟩ := mem_marks_iff.mp member <;> decide

/-- A character that stands in no addition comes into the name of a file by the project alone. -/
theorem mem_fileName_iff {c : Char} (foreign : ∀ text ∈ additions, c ∉ text.toList)
    (options : Options) (project : String) :
    c ∈ (options.fileName project).toList ↔ c ∈ project.toList := by
  have marks : c ∉ (String.join options.marks).toList := by
    rw [String.toList_join, List.mem_flatMap]
    rintro ⟨mark, member, inside⟩
    exact foreign mark (mem_additions_of_mem_marks member) inside
  have ending : c ∉ ".md".toList := foreign ".md" (by decide)
  rw [fileName, String.toList_append, String.toList_append, List.mem_append, List.mem_append,
    or_iff_left ending, or_iff_left marks]

/-! ### Words -/

/-- The marks without the underscore before each of them. -/
def words (options : Options) : List String :=
  options.marks.map fun mark => String.ofList (mark.toList.drop 1)

/-- A mark is an underscore and a word without one. -/
theorem mark_eq {mark : String} (member : mark ∈ options.marks) :
    "_" ++ String.ofList (mark.toList.drop 1) = mark ∧ '_' ∉ mark.toList.drop 1 := by
  obtain ⟨_, rfl⟩ | ⟨_, rfl⟩ | ⟨_, rfl⟩ | ⟨_, rfl⟩ | ⟨_, rfl⟩ := mem_marks_iff.mp member <;> decide

theorem map_words (options : Options) : options.words.map ("_" ++ ·) = options.marks := by
  have each : options.words.map ("_" ++ ·) = options.marks.map id := by
    rw [words, List.map_map]
    exact List.map_congr_left fun _ member => (mark_eq member).1
  rw [each, List.map_id]

/-- The options that are on can be told from their words. -/
theorem words_injective : Function.Injective words := by
  intro first second same
  apply marks_injective
  rw [← first.map_words, same, second.map_words]

theorem underscore_notMem_of_mem_words {word : String} (member : word ∈ options.words) :
    '_' ∉ word.toList := by
  obtain ⟨mark, isMark, rfl⟩ := List.mem_map.mp member
  rw [String.toList_ofList]
  exact (mark_eq isMark).2

/-! ### Names -/

/-- A name is made of the project and the words, with an underscore between any two. -/
theorem fileName_eq (options : Options) (project : String) :
    options.fileName project = "_".intercalate (project :: options.words) ++ ".md" := by
  rw [intercalate_cons_eq_join, map_words, fileName]

/-- **The name of a file tells the project and the options**, if there is no underscore in the
project. -/
theorem fileName_eq_iff {first second : Options} {project other : String}
    (uncut : '_' ∉ project.toList) (otherUncut : '_' ∉ other.toList) :
    first.fileName project = second.fileName other ↔ project = other ∧ first = second := by
  have underscore : "_" = String.singleton '_' ++ "" := by decide
  have texts {options : Options} {project : String} (uncut : '_' ∉ project.toList) :
      ∀ text ∈ project :: options.words, '_' ∉ text.toList :=
    List.forall_mem_cons.mpr ⟨uncut, fun _ => underscore_notMem_of_mem_words⟩
  rw [fileName_eq, fileName_eq, String.append_left_inj, underscore,
    intercalate_cut_inj (texts uncut) (texts otherUncut) (List.cons_ne_nil _ _)
      (List.cons_ne_nil _ _), List.cons.injEq, words_injective.eq_iff]

-- with an underscore, a project may be taken for another with more options
example :
    ({} : Options).fileName "Zoo_NoEnums" = ({ hideEnums := true } : Options).fileName "Zoo" := by
  decide

end Options

end TypeChart
