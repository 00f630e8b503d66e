/-
**Namespaces.**

* `Scope.ofText?`: a blank namespace is no namespace.
* `Scope.key`: the name of the container that a namespace is drawn as.
-/

namespace TypeChart.Scope

/-- The six blank characters of ASCII. -/
def isBlank (c : Char) : Bool :=
  c == ' ' || c == '\t' || c == '\n' || c == '\x0b' || c == '\x0c' || c == '\r'

/-- The namespace that a text gives, unless the text is empty or blank. -/
def ofText? (text : String) : Option String :=
  if text.toList.all isBlank then none else some text

/-- The name of a namespace's container: Mermaid takes no dots there. -/
def key (scope : String) : String :=
  scope.map fun c => if c = '.' then '-' else c

theorem toList_key (scope : String) :
    (key scope).toList = scope.toList.map fun c => if c = '.' then '-' else c :=
  String.toList_map

theorem key_eq_iff {scope text : String} :
    key scope = text ↔ (scope.toList.map fun c => if c = '.' then '-' else c) = text.toList := by
  rw [← String.toList_inj, toList_key]

end TypeChart.Scope
