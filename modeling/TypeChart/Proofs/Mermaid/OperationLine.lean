/-
**Lines of operations.**

The line of an operation shows the signature of a method: the sign of its visibility, whether it is
asynchronous, the result, the name, and of each parameter the type and the name. The texts stand
there as they are, and the word `async` may be there or not, whatever the result is called. Where no
text holds a space, a comma or an opening parenthesis, the line is read back from the left: up to
the parenthesis there are three words or four, and after it one pair of words for each parameter.
So overloads have different lines as soon as they differ in something that a line shows.

* `MethodDecl.signature`: what the line of a method shows.
* `Operation.head_eq_iff`: what stands before the parameters.
* `ParameterDecl.intercalate_line_eq_iff`: the parameters.
* `MethodDecl.line_operation_eq_iff`: the line of a method tells its signature.
* `TypeDecl.operationLines_tell_signatures`: the same for the methods that declarations show.
-/

import TypeChart.Mermaid.Line
import TypeChart.Proofs.Declarations
import TypeChart.Proofs.Text.Words

namespace TypeChart

/-! ### Signatures -/

/-- What the line of an operation shows. -/
structure Signature where
  sign : String
  isAsync : Bool
  result : String
  name : String
  /-- Each parameter as the text of its type and its name. -/
  parameters : List (String × String)
  deriving DecidableEq, Repr

/-- The text of a parameter's type, and its name. -/
def ParameterDecl.parts (parameter : ParameterDecl) : String × String :=
  (parameter.type.plain, parameter.name)

/-- What the line of a method shows of it. -/
def MethodDecl.signature (method : MethodDecl) : Signature where
  sign := method.access.visibility.sign
  isAsync := method.isAsync
  result := method.result.plain
  name := method.name
  parameters := method.parameters.map ParameterDecl.parts

/-- Nothing that cuts the line of an operation stands in a text. -/
def IsAtom (text : String) : Prop :=
  IsWord text ∧ '(' ∉ text.toList ∧ ',' ∉ text.toList

instance (text : String) : Decidable (IsAtom text) :=
  inferInstanceAs (Decidable (_ ∧ _))

/-- The names in a method, and the texts of the types in it, are atoms. -/
def MethodDecl.JoinsAtoms (method : MethodDecl) : Prop :=
  IsAtom method.name ∧ IsAtom method.result.plain ∧
    ∀ parameter ∈ method.parameters, IsAtom parameter.type.plain ∧ IsAtom parameter.name

instance (method : MethodDecl) : Decidable method.JoinsAtoms :=
  inferInstanceAs (Decidable (_ ∧ _ ∧ _))

/-! ### Parameters -/

namespace ParameterDecl

theorem line_eq (parameter : ParameterDecl) :
    parameter.line = parameter.type.plain ++ (String.singleton ' ' ++ parameter.name) := by
  rw [line, String.append_assoc]
  rfl

theorem line_ne_empty (parameter : ParameterDecl) : parameter.line ≠ "" := by
  intro isEmpty
  rw [line_eq, String.append_eq_empty_iff, String.append_eq_empty_iff] at isEmpty
  exact absurd isEmpty.2.1 (by decide)

theorem comma_notMem_line {parameter : ParameterDecl} (type : IsAtom parameter.type.plain)
    (name : IsAtom parameter.name) : ',' ∉ parameter.line.toList := by
  rw [line, String.toList_append, String.toList_append, List.mem_append, List.mem_append]
  rintro ((inType | between) | inName)
  · exact type.2.2 inType
  · exact absurd between (by decide)
  · exact name.2.2 inName

theorem line_eq_iff {first second : ParameterDecl} (firstType : IsWord first.type.plain)
    (secondType : IsWord second.type.plain) :
    first.line = second.line ↔ first.parts = second.parts := by
  rw [line_eq, line_eq, append_cut_inj firstType secondType, parts, parts, Prod.mk.injEq]

theorem map_line_eq_iff {first second : List ParameterDecl}
    (firstTypes : ∀ parameter ∈ first, IsWord parameter.type.plain)
    (secondTypes : ∀ parameter ∈ second, IsWord parameter.type.plain) :
    first.map line = second.map line ↔ first.map parts = second.map parts := by
  induction first generalizing second with
  | nil => simp [eq_comm]
  | cons parameter rest ih =>
    cases second with
    | nil => simp
    | cons other others =>
      obtain ⟨here, later⟩ := List.forall_mem_cons.mp firstTypes
      obtain ⟨otherHere, otherLater⟩ := List.forall_mem_cons.mp secondTypes
      simp only [List.map_cons, List.cons.injEq, line_eq_iff here otherHere, ih later otherLater]

/-- **The parameters between the parentheses** are told by their text, their number included. -/
theorem intercalate_line_eq_iff {first second : List ParameterDecl}
    (firstAtoms : ∀ parameter ∈ first, IsAtom parameter.type.plain ∧ IsAtom parameter.name)
    (secondAtoms : ∀ parameter ∈ second, IsAtom parameter.type.plain ∧ IsAtom parameter.name) :
    ", ".intercalate (first.map line) = ", ".intercalate (second.map line) ↔
      first.map parts = second.map parts := by
  have comma : ", " = String.singleton ',' ++ " " := by decide
  have uncut {parameters : List ParameterDecl}
      (atoms : ∀ parameter ∈ parameters, IsAtom parameter.type.plain ∧ IsAtom parameter.name) :
      ∀ text ∈ parameters.map line, ',' ∉ text.toList := by
    refine List.forall_mem_map.mpr fun parameter member => ?_
    exact comma_notMem_line (atoms parameter member).1 (atoms parameter member).2
  have nonempty (parameters : List ParameterDecl) : "" ∉ parameters.map line := by
    intro member
    obtain ⟨parameter, _, isEmpty⟩ := List.mem_map.mp member
    exact parameter.line_ne_empty isEmpty
  rw [comma, intercalate_cut_inj_of_nonempty (uncut firstAtoms) (uncut secondAtoms)
    (nonempty first) (nonempty second)]
  exact map_line_eq_iff (fun parameter member => (firstAtoms parameter member).1.1)
    (fun parameter member => (secondAtoms parameter member).1.1)

end ParameterDecl

/-! ### What stands before the parameters -/

theorem Visibility.isWord_sign (visibility : Visibility) : IsWord visibility.sign := by
  cases visibility <;> decide

theorem Visibility.parenthesis_notMem_sign (visibility : Visibility) :
    '(' ∉ visibility.sign.toList := by
  cases visibility <;> decide

namespace Operation

/-- Result and name, between which there is a space. -/
def designation (operation : Operation) : String :=
  operation.result ++ (String.singleton ' ' ++ operation.name)

/-- The line up to the parenthesis, after the sign. -/
def wording (operation : Operation) : String :=
  if operation.isAsync then "async" ++ (String.singleton ' ' ++ operation.designation)
  else operation.designation

/-- The line up to the parenthesis. -/
def head (operation : Operation) : String :=
  operation.visibility.sign ++ (String.singleton ' ' ++ operation.wording)

theorem line_eq (operation : Operation) :
    operation.line = operation.head ++
      (String.singleton '(' ++ (", ".intercalate operation.parameters ++ ")")) := by
  have async : "async " = "async" ++ String.singleton ' ' := by decide
  have parenthesis : "(" = String.singleton '(' := by decide
  have space : " " = String.singleton ' ' := by decide
  rw [line, head, wording, designation, async, parenthesis, space]
  cases operation.isAsync <;> simp only [if_true, if_false, Bool.false_eq_true,
    String.append_assoc, String.empty_append]

theorem not_isWord_designation (operation : Operation) : ¬ IsWord operation.designation := by
  rw [IsWord, not_not, designation, String.toList_append, String.toList_append]
  simp

theorem parenthesis_notMem_head {operation : Operation} (result : IsAtom operation.result)
    (name : IsAtom operation.name) : '(' ∉ operation.head.toList := by
  have designation : '(' ∉ operation.designation.toList := by
    simp [Operation.designation, String.toList_append, result.2.1, name.2.1]
  have wording : '(' ∉ operation.wording.toList := by
    unfold Operation.wording
    split
    · simp [String.toList_append, designation]
    · exact designation
  simp [head, String.toList_append, operation.visibility.parenthesis_notMem_sign, wording]

variable {first second : Operation}

theorem designation_eq_iff (firstResult : IsWord first.result)
    (secondResult : IsWord second.result) :
    first.designation = second.designation ↔
      first.result = second.result ∧ first.name = second.name := by
  rw [designation, designation, append_cut_inj firstResult secondResult]

/-- What is asynchronous has a word more, and so it is not taken for what results in `async`. -/
theorem wording_ne (isAsync : first.isAsync = true) (isSync : second.isAsync = false)
    (secondResult : IsWord second.result) (secondName : IsWord second.name) :
    first.wording ≠ second.wording := by
  rw [wording, wording, isAsync, isSync, if_pos rfl, if_neg Bool.false_ne_true]
  nth_rewrite 2 [designation]
  intro same
  obtain ⟨_, isName⟩ := (append_cut_inj (by decide) secondResult).mp same
  exact first.not_isWord_designation (isName ▸ secondName)

theorem wording_eq_iff (firstResult : IsWord first.result) (secondResult : IsWord second.result)
    (firstName : IsWord first.name) (secondName : IsWord second.name) :
    first.wording = second.wording ↔
      first.isAsync = second.isAsync ∧ first.result = second.result ∧ first.name = second.name := by
  rw [← designation_eq_iff firstResult secondResult]
  cases firstAsync : first.isAsync with
  | true =>
    cases secondAsync : second.isAsync with
    | true =>
      rw [wording, wording, firstAsync, secondAsync, if_pos rfl, if_pos rfl,
        String.append_right_inj, String.append_right_inj, and_iff_right rfl]
    | false =>
      exact iff_of_false (wording_ne firstAsync secondAsync secondResult secondName) (by simp)
  | false =>
    cases secondAsync : second.isAsync with
    | true =>
      exact iff_of_false (wording_ne secondAsync firstAsync firstResult firstName).symm (by simp)
    | false =>
      rw [wording, wording, firstAsync, secondAsync, if_neg Bool.false_ne_true,
        if_neg Bool.false_ne_true, and_iff_right rfl]

/-- **What stands before the parameters** tells the sign, the word `async`, the result and the
name. -/
theorem head_eq_iff (firstResult : IsWord first.result) (secondResult : IsWord second.result)
    (firstName : IsWord first.name) (secondName : IsWord second.name) :
    first.head = second.head ↔
      first.visibility.sign = second.visibility.sign ∧ first.isAsync = second.isAsync ∧
        first.result = second.result ∧ first.name = second.name := by
  rw [head, head, append_cut_inj first.visibility.isWord_sign second.visibility.isWord_sign,
    wording_eq_iff firstResult secondResult firstName secondName]

theorem line_eq_iff (firstResult : IsAtom first.result) (secondResult : IsAtom second.result)
    (firstName : IsAtom first.name) (secondName : IsAtom second.name) :
    first.line = second.line ↔
      first.head = second.head ∧
        ", ".intercalate first.parameters = ", ".intercalate second.parameters := by
  rw [line_eq, line_eq, append_cut_inj (parenthesis_notMem_head firstResult firstName)
    (parenthesis_notMem_head secondResult secondName), String.append_left_inj]

end Operation

/-! ### Methods -/

/-- **The line of a method tells its signature.** -/
theorem MethodDecl.line_operation_eq_iff {first second : MethodDecl}
    (firstAtoms : first.JoinsAtoms) (secondAtoms : second.JoinsAtoms) :
    first.operation.line = second.operation.line ↔ first.signature = second.signature := by
  obtain ⟨firstName, firstResult, firstParameters⟩ := firstAtoms
  obtain ⟨secondName, secondResult, secondParameters⟩ := secondAtoms
  calc first.operation.line = second.operation.line
    _ ↔ first.operation.head = second.operation.head ∧
          ", ".intercalate first.operation.parameters =
            ", ".intercalate second.operation.parameters :=
        Operation.line_eq_iff firstResult secondResult firstName secondName
    _ ↔ (first.signature.sign = second.signature.sign ∧ first.isAsync = second.isAsync ∧
          first.result.plain = second.result.plain ∧ first.name = second.name) ∧
          first.signature.parameters = second.signature.parameters :=
        and_congr (Operation.head_eq_iff firstResult.1 secondResult.1 firstName.1 secondName.1)
          (ParameterDecl.intercalate_line_eq_iff firstParameters secondParameters)
    _ ↔ first.signature = second.signature := by
        rw [signature, signature, Signature.mk.injEq, and_assoc, and_assoc, and_assoc]

-- with a comma in its name, one parameter may look like two
example :
    ({ name := "Fit", parameters := [{ name := "a, Gear b", type := { name := "Gear" } }] } :
        MethodDecl).operation.line =
      ({ name := "Fit"
         parameters :=
          [{ name := "a", type := { name := "Gear" } },
            { name := "b", type := { name := "Gear" } }] } : MethodDecl).operation.line := by
  decide

/-! ### Declarations -/

/-- The lines of the operations that a declaration is drawn with. -/
def TypeDecl.operationLines (decl : TypeDecl) : List String :=
  decl.box.operations.map Operation.line

/-- The written methods are drawn, each with its line and in their order. -/
theorem TypeDecl.operationLines_eq {decl : TypeDecl} (isNoEnumeration : decl.kind ≠ .enumeration) :
    decl.operationLines = decl.writtenMethods.map fun method => method.operation.line := by
  rw [operationLines, box_of_not_enumeration isNoEnumeration]
  exact List.map_map

/-- **The lines of operations tell the signatures of methods.** Every written method of a
declaration that is no enumeration has its line there, in its place. Where two methods, of one
declaration or of two, join atoms, their lines are the same exactly if their signatures are: if they
have the same sign, are both asynchronous or both not, and have the same result, the same name and
the same parameters by type and name. So the overloads in a declaration have different lines exactly
if no two of them agree in all that is shown. -/
theorem TypeDecl.operationLines_tell_signatures (decl other : TypeDecl)
    (isNoEnumeration : decl.kind ≠ .enumeration) (otherIsNone : other.kind ≠ .enumeration) :
    (∀ (place otherPlace : Nat) (first second : MethodDecl),
      decl.writtenMethods[place]? = some first → other.writtenMethods[otherPlace]? = some second →
      first.JoinsAtoms → second.JoinsAtoms →
        ∃ line otherLine : String, decl.operationLines[place]? = some line ∧
          other.operationLines[otherPlace]? = some otherLine ∧
          (line = otherLine ↔ first.signature = second.signature)) ∧
    ((∀ method ∈ decl.writtenMethods, method.JoinsAtoms) →
      (decl.operationLines.Nodup ↔ (decl.writtenMethods.map MethodDecl.signature).Nodup)) := by
  have drawn {decl : TypeDecl} (isNone : decl.kind ≠ .enumeration) {place : Nat}
      {method : MethodDecl} (written : decl.writtenMethods[place]? = some method) :
      decl.operationLines[place]? = some method.operation.line := by
    rw [operationLines_eq isNone, List.getElem?_map, written]
    rfl
  refine ⟨fun place otherPlace first second written otherWritten atoms otherAtoms => ?_,
    fun atoms => ?_⟩
  · exact ⟨_, _, drawn isNoEnumeration written, drawn otherIsNone otherWritten,
      MethodDecl.line_operation_eq_iff atoms otherAtoms⟩
  · rw [operationLines_eq isNoEnumeration, List.Nodup, List.Nodup, List.pairwise_map,
      List.pairwise_map]
    exact List.Pairwise.iff_of_mem fun firstMember secondMember =>
      not_congr (MethodDecl.line_operation_eq_iff (atoms _ firstMember) (atoms _ secondMember))

/-- A type with overloads that look much alike: the word `async` is a result in some of them, names
are empty, and there are parameters of which nothing is shown but the space. -/
def Sample.relay : TypeDecl where
  name := "Relay"
  methods :=
    [{ name := "Run", result := { name := "async" } },
      { name := "Run", result := { name := "async" }, isAsync := true },
      { name := "Relay", role := .constructor },
      { name := "", result := { name := "Run" }, isAsync := true },
      { name := "Run", result := { name := "async" }, parameters := [{}] },
      { name := "Run", result := { name := "async" }, parameters := [{}, {}] },
      { name := "Run", result := { name := "async" }, parameters := [{ name := ")" }] }]

/-- All the texts are atoms, and so the six lines differ. -/
theorem TypeDecl.operationLines_tell_signatures_relay :
    (∀ method ∈ Sample.relay.writtenMethods, method.JoinsAtoms) ∧
      Sample.relay.operationLines.length = 6 ∧ Sample.relay.operationLines.Nodup ∧
      ∃ line otherLine : String, Sample.relay.operationLines[0]? = some line ∧
        Sample.relay.operationLines[2]? = some otherLine ∧ line ≠ otherLine := by
  have atoms : ∀ method ∈ Sample.relay.writtenMethods, method.JoinsAtoms := by decide +kernel
  have isNoEnumeration : Sample.relay.kind ≠ .enumeration := by decide
  obtain ⟨pairs, overloads⟩ :=
    operationLines_tell_signatures Sample.relay Sample.relay isNoEnumeration isNoEnumeration
  refine ⟨atoms, by decide, (overloads atoms).mpr (by decide +kernel), ?_⟩
  obtain ⟨line, otherLine, isLine, isOther, same⟩ :=
    pairs 0 2 _ _ rfl rfl (atoms _ (by simp [Sample.relay, writtenMethods]))
      (atoms _ (by simp [Sample.relay, writtenMethods]))
  exact ⟨line, otherLine, isLine, isOther, mt same.mp (by decide)⟩

end TypeChart
