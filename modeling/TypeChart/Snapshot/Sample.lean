/-
**The sample snapshot.**

A small zoo that shows every feature of a diagram: abstract classes and chains of bases,
interfaces, arrays and lists, enumerations, an asynchronous method, a class without a namespace and
a declaration that could not be resolved.
-/

import TypeChart.Snapshot.Declaration

namespace TypeChart.Sample

/-! ### Types that the zoo uses -/

/-- A value of the standard library. -/
def systemValue (name : String) : TypeUse :=
  { name := name, scope := "System", kind := .struct }

/-- Text, which enumerates its characters. -/
def text : TypeUse :=
  { name := "String", scope := "System", kind := .classType, interfaces := ["IEnumerable"] }

/-- The interfaces of lists and arrays. -/
def listInterfaces : List String :=
  ["IList", "ICollection", "IEnumerable"]

/-- A list of items of one type. -/
def listOf (item : TypeUse) : TypeUse :=
  { name := "List"
    scope := "System.Collections.Generic"
    kind := .classType
    arguments := [item]
    interfaces := listInterfaces }

/-- An array of elements of one type. -/
def arrayOf (element : TypeUse) : TypeUse :=
  { scope := "System", kind := .array, elements := [element], interfaces := listInterfaces }

/-- A type of the zoo, in one of its namespaces. -/
def zooType (name scope : String) (kind : TypeKind) : TypeUse :=
  { name := name, scope := scope, kind := kind }

/-- The base of all classes, which the sample names like its own types. -/
def root : TypeUse := zooType "Object" "System" .classType
def livingThing : TypeUse := zooType "LivingThing" "Zoo.Animals" .classType
def animal : TypeUse := zooType "Animal" "Zoo.Animals" .classType
def feedable : TypeUse := zooType "IFeedable" "Zoo.Animals" .interface
def pet : TypeUse := zooType "IPet" "Zoo.Animals" .interface
def status : TypeUse := zooType "Status" "Zoo.Animals" .enumeration
def role : TypeUse := zooType "Role" "Zoo.People" .enumeration
def toy : TypeUse := zooType "Toy" "Zoo.Items" .classType
def bowl : TypeUse := zooType "Bowl" "Zoo.Items" .classType
def owner : TypeUse := zooType "Owner" "Zoo.People" .classType
def dog : TypeUse := zooType "Dog" "Zoo.Animals" .classType
def task : TypeUse := zooType "Task" "System.Threading.Tasks" .classType

/-! ### Members -/

/-- A public property. -/
def property (name : String) (type : TypeUse) : PropertyDecl :=
  { name := name, type := type, access := .everyone }

/-- A public method. -/
def method (name : String) (result : TypeUse) (parameters : List ParameterDecl) : MethodDecl :=
  { name := name, result := result, access := .everyone, parameters := parameters }

/-- A parameter. -/
def parameter (name : String) (type : TypeUse) : ParameterDecl :=
  { name := name, type := type }

/-- The method by which something is fed. -/
def feed : MethodDecl :=
  method "Feed" (systemValue "Void") [parameter "grams" (systemValue "Int32")]

/-! ### Source units -/

/-- Classes in a chain of bases, two interfaces and an enumeration. -/
def animals : SourceUnit where
  path := "Animals.cs"
  types :=
    [{ name := "LivingThing"
       scope := "Zoo.Animals"
       isAbstract := true
       access := .everyone
       bases := [root]
       ancestors := [root]
       properties := [{ property "Age" (systemValue "Int32") with access := .subtypes }] },
     { name := "Animal"
       scope := "Zoo.Animals"
       isAbstract := true
       access := .everyone
       bases := [livingThing]
       ancestors := [livingThing, root]
       interfaces := [feedable]
       properties := [property "Name" text, property "State" status]
       methods := [feed] },
     { name := "Dog"
       scope := "Zoo.Animals"
       access := .everyone
       bases := [animal]
       ancestors := [animal, livingThing, root]
       interfaces := [pet]
       properties :=
         [property "Toys" (listOf toy),
          { property "Bowls" (arrayOf bowl) with access := .assembly },
          property "Owner" owner,
          { property "Born" (systemValue "DateTime") with access := .declaringType }]
       methods :=
         [{ method "Dog" (systemValue "Void") [] with role := .constructor },
          method "Bark" (systemValue "Void") [],
          { method "FetchAsync" task
              [parameter "toy" toy, parameter "throws" (systemValue "Int32")] with
            isAsync := true }] },
     { name := "IFeedable"
       kind := .interface
       scope := "Zoo.Animals"
       access := .everyone
       methods := [feed] },
     { name := "IPet"
       kind := .interface
       scope := "Zoo.Animals"
       access := .everyone
       interfaces := [feedable]
       properties := [property "Owner" owner] }]
  enums := [{ name := "Status", members := ["Active", "Retired"] }]

/-- Classes with nothing but values of the standard library. -/
def items : SourceUnit where
  path := "Items.cs"
  types :=
    [{ name := "Toy"
       scope := "Zoo.Items"
       access := .everyone
       bases := [root]
       properties := [property "Label" text] },
     { name := "Bowl"
       scope := "Zoo.Items"
       access := .everyone
       bases := [root]
       properties := [property "Capacity" (systemValue "Double")] }]

/-- Classes with lists, one of them in no namespace, and one that could not be resolved. -/
def people : SourceUnit where
  path := "People.cs"
  types :=
    [{ name := "Owner"
       scope := "Zoo.People"
       access := .everyone
       bases := [root]
       properties :=
         [property "Dogs" (listOf dog), property "Favorite" dog, property "Role" role] },
     { name := "Registry"
       access := .assembly
       bases := [root]
       properties := [property "Owners" (listOf owner)]
       methods := [method "Find" owner [parameter "name" text]] },
     { name := "Broken"
       scope := "Zoo.People"
       access := .everyone
       isResolved := false }]
  enums := [{ name := "Role", members := ["Keeper", "Visitor"] }]

/-- The snapshot of the zoo. -/
def zoo : Snapshot where
  project := "Sample"
  units := [animals, items, people]

end TypeChart.Sample
