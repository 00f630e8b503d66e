/-
**Rewriting a document.**

Two kinds of rewrite leave the meaning of a document alone. A member that is not read where it
stands may be added to an object; and a reference that is a bare name may be written as an object
that tells the name alone. `Json.Rewrites` is one such step, at the place itself or at any depth
below it, and documents are joined by any number of steps in either direction.

The same member is read at one place and not at another: `kind` of a property is passed over, and
`kind` of its type is not. So a step says at which place it is taken, and the table of the places
(`Json.Place.members`) says what is read there.

* `Json.Rewrites.alike`: the values before and after a step cannot be told apart.
* `Snapshot.ofJson_of_rewritten`: documents that are joined by steps are accepted or refused alike,
  and are read as the same snapshot.
-/

import Mathlib.Logic.Relation
import TypeChart.Json.Reader
import TypeChart.Proofs.Snapshot.Guarded
import TypeChart.Proofs.Snapshot.Places

namespace TypeChart

namespace Json

/-! ### Steps -/

/-- One step from a value that is read at a place. -/
inductive Rewrites : Place → Json → Json → Prop where
  /-- A member that is not read is added, wherever in the object. -/
  | unread {place : Place} {name : String} (notRead : place.under? name = none)
      (front back : List (String × Json)) (value : Json) :
      Rewrites place (.object (front ++ back)) (.object (front ++ (name, value) :: back))
  /-- A bare name becomes an object that tells nothing else. -/
  | bare (name : String) : Rewrites .reference (.string name) (.object [("name", .string name)])
  /-- A step in an item of an array. -/
  | inItem {place : Place} {item item' : Json} (front back : List Json)
      (inside : Rewrites place.item item item') :
      Rewrites place (.array (front ++ item :: back)) (.array (front ++ item' :: back))
  /-- A step in a member of an object. -/
  | inMember {place : Place} {name : String} {value value' : Json}
      (front back : List (String × Json)) (inside : Rewrites (place.under name) value value') :
      Rewrites place (.object (front ++ (name, value) :: back))
        (.object (front ++ (name, value') :: back))

/-! ### What a step leaves alone -/

theorem Place.under_of_under? {place under : Place} {name : String}
    (isRead : place.under? name = some under) : place.under name = under := by
  rw [Place.under, isRead, Option.getD_some]

section Steps

variable {place : Place} {name key : String} {value value' : Json}

theorem alikeBelow_member (alike : (place.under name).Alike value value')
    (front back : List (String × Json)) :
    place.AlikeBelow (.object (front ++ (name, value) :: back))
      (.object (front ++ (name, value') :: back)) where
  compound := ⟨rfl, rfl⟩
  items := .none
  members key under isRead := by
    show Option.Rel under.Alike (lastOf key _) (lastOf key _)
    rw [lastOf_append, lastOf_append, lastOf_cons, lastOf_cons]
    by_cases same : name = key
    · subst same
      rw [if_pos rfl, if_pos rfl, ← Place.under_of_under? isRead]
      -- A later member of the name counts, and it is left as it was.
      cases lastOf name back with
      | some later => exact Place.rel_refl _ _
      | none => exact .some alike
    · rw [if_neg same, if_neg same]
      exact under.rel_refl _

theorem alikeBelow_item {item item' : Json} (alike : place.item.Alike item item')
    (front back : List Json) :
    place.AlikeBelow (.array (front ++ item :: back)) (.array (front ++ item' :: back)) where
  compound := ⟨rfl, rfl⟩
  members _ _ _ := .none
  items := by
    have same (items : List Json) : List.Forall₂ place.item.Alike items items :=
      List.forall₂_same.mpr fun value _ => Place.Alike.refl place.item value
    exact .some (List.rel_append (same front) (.cons alike (same back)))

/-- A bare name and the object that tells it are references to the same type. -/
theorem alike_bare (name : String) :
    Place.reference.Alike (.string name) (.object [("name", .string name)]) := by
  have tells (text : String) : object [("name", .string name)] ≠ .string text := nofun
  refine ⟨?_, nofun, nofun⟩
  rw [TypeUse.ofJson_string, TypeUse.ofJson_of_ne_string tells]
  rfl

end Steps

/-- **The values before and after a step cannot be told apart where they are read.** -/
theorem Rewrites.alike {place : Place} {one other : Json} (step : Rewrites place one other) :
    place.Alike one other := by
  induction step with
  | unread notRead front back value =>
    exact Place.alike_insert notRead front back value
  | bare name => exact alike_bare name
  | inItem front back _ ih => exact Place.alike_of_below (alikeBelow_item ih front back)
  | inMember front back _ ih => exact Place.alike_of_below (alikeBelow_member ih front back)

end Json

/-! ### Documents -/

/-- **Documents that are joined by steps come to the same.** Both are refused for the same reason,
or both are read as the same snapshot; and so are texts that a parser takes for them. -/
theorem Snapshot.ofJson_of_rewritten {json other : Json}
    (rewritten : Relation.EqvGen (Json.Rewrites .document) json other) :
    Snapshot.ofJson json = Snapshot.ofJson other ∧
      ∀ (parser : Json.Parser) (text otherText : String), parser text = .ok json →
        parser otherText = .ok other →
        Snapshot.read parser text = Snapshot.read parser otherText := by
  have same : Snapshot.ofJson json = Snapshot.ofJson other := by
    induction rewritten with
    | rel _ _ step => exact step.alike
    | refl _ => rfl
    | symm _ _ _ ih => exact ih.symm
    | trans _ _ _ _ _ first second => exact first.trans second
  refine ⟨same, fun parser text otherText isJson isOther => ?_⟩
  rw [Snapshot.read_of_ok isJson, Snapshot.read_of_ok isOther]
  exact same

namespace Sample

/-- A document of one class. Its source and its property may tell more, and its base and the
argument of its list may be told in several ways. -/
def listing (ofSource : List (String × Json)) (base : Json) (ofProperty : List (String × Json))
    (toy : Json) : Json :=
  .object
    [("sources", .array
      [.object ([("path", .string "Dog.cs"),
        ("types", .array
          [.object
            [("name", .string "Dog"),
             ("base", base),
             ("properties", .array
               [.object ([("name", .string "Toys"),
                 ("type", .object
                   [("name", .string "List"),
                    ("type_arguments", .array [toy])])] ++ ofProperty)])]])] ++ ofSource)])]

/-- The document with a base that is an object. -/
def terse : Json :=
  listing [] (.object [("name", .string "Animal")]) [] (.string "Toy")

/-- The document with a bare base, and with three members that are not read where they stand. -/
def wordy : Json :=
  listing [("language", .string "C#")] (.string "Animal") [("kind", .string "field")]
    (.object [("name", .string "Toy"), ("line", .number "7")])

theorem rewritten_listing : Relation.EqvGen (Json.Rewrites .document) terse wordy := by
  have source (base toy : Json) :
      Json.Rewrites .document (listing [] base [] toy)
        (listing [("language", .string "C#")] base [] toy) :=
    .inMember [] [] (.inItem [] [] (.unread rfl [_, _] [] _))
  have base (ofSource : List (String × Json)) (toy : Json) :
      Json.Rewrites .document (listing ofSource (.string "Animal") [] toy)
        (listing ofSource (.object [("name", .string "Animal")]) [] toy) :=
    .inMember [] [] (.inItem [] [] (.inMember [_] ofSource (.inItem [] [] (.inMember [_] [_]
      (.bare "Animal")))))
  have property (ofSource : List (String × Json)) (base toy : Json) :
      Json.Rewrites .document (listing ofSource base [] toy)
        (listing ofSource base [("kind", .string "field")] toy) :=
    .inMember [] [] (.inItem [] [] (.inMember [_] ofSource (.inItem [] [] (.inMember [_, _] []
      (.inItem [] [] (.unread rfl [_, _] [] _))))))
  have argument (ofSource ofProperty : List (String × Json)) (base : Json) {toy toy' : Json}
      (step : Json.Rewrites .reference toy toy') :
      Json.Rewrites .document (listing ofSource base ofProperty toy)
        (listing ofSource base ofProperty toy') :=
    .inMember [] [] (.inItem [] [] (.inMember [_] ofSource (.inItem [] [] (.inMember [_, _] []
      (.inItem [] [] (.inMember [_] ofProperty (.inMember [_] [] (.inItem [] [] step))))))))
  have line : Json.Rewrites .reference (.object [("name", .string "Toy")])
      (.object [("name", .string "Toy"), ("line", .number "7")]) :=
    .unread rfl [_] [] _
  exact
    .trans _ _ _ (.symm _ _ (.rel _ _ (base _ _))) <|
    .trans _ _ _ (.rel _ _ (source _ _)) <|
    .trans _ _ _ (.rel _ _ (property _ _ _)) <|
    .trans _ _ _ (.rel _ _ (argument _ _ _ (.bare "Toy"))) <|
    .rel _ _ (argument _ _ _ line)

/-- A document of nothing. -/
def blankText : String :=
  "\x7b\"sources\":[]\x7d"

/-- A document of nothing, with a member that is not read. -/
def taggedText : String :=
  "\x7b\"sources\":[],\"tags\":[]\x7d"

theorem read_blankText : Json.read blankText = .ok (.object [("sources", .array [])]) := by
  have value : Json.readValue
      ['\x7b', '"', 's', 'o', 'u', 'r', 'c', 'e', 's', '"', ':', '[', ']', '\x7d'] =
      .ok (.object [(String.ofList ['s', 'o', 'u', 'r', 'c', 'e', 's'], .array [])],
        ⟨[], by simp⟩) := by
    cbv
  exact Json.read_of_readValue (by simp [blankText, Json.skipBlanks, Json.isBlank]) value rfl

theorem read_taggedText :
    Json.read taggedText = .ok (.object [("sources", .array []), ("tags", .array [])]) := by
  have value : Json.readValue
      ['\x7b', '"', 's', 'o', 'u', 'r', 'c', 'e', 's', '"', ':', '[', ']', ',',
        '"', 't', 'a', 'g', 's', '"', ':', '[', ']', '\x7d'] =
      .ok (.object
        [(String.ofList ['s', 'o', 'u', 'r', 'c', 'e', 's'], .array []),
          (String.ofList ['t', 'a', 'g', 's'], .array [])], ⟨[], by simp⟩) := by
    cbv
  exact Json.read_of_readValue (by simp [taggedText, Json.skipBlanks, Json.isBlank]) value rfl

end Sample

/-- Documents of one class, told in two ways, and two texts that tell nothing. -/
theorem Snapshot.ofJson_of_rewritten_listing :
    Snapshot.ofJson Sample.terse = Snapshot.ofJson Sample.wordy ∧
      Snapshot.read Json.parser Sample.blankText =
        Snapshot.read Json.parser Sample.taggedText := by
  have tagged : Json.Rewrites .document (.object [("sources", .array [])])
      (.object [("sources", .array []), ("tags", .array [])]) :=
    .unread rfl [_] [] _
  exact ⟨(ofJson_of_rewritten Sample.rewritten_listing).1,
    (ofJson_of_rewritten (.rel _ _ tagged)).2 _ _ _ (Json.parser_eq_ok Sample.read_blankText)
      (Json.parser_eq_ok Sample.read_taggedText)⟩

end TypeChart
