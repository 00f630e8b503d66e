/-
**What becomes of offered declarations.**

A roster serves requests in any order: single types, single enumerations, whole units, and requests
to hand its classifiers over, after which it goes on without them. Whatever the order, each resolved
declaration that was offered has become one classifier, which was either handed over or is still
held, and all of them stand in the order of the offers. The unresolved ones are counted, and a unit
reports each of its own.

* `Roster.taken_append_classifiers_serve`, `Roster.unresolved_serve`: one request.
* `Roster.taken_append_classifiers_serveAll`, `Roster.unresolved_serveAll`: a run of requests.
* `Roster.serveAll_unitRequests`: a unit is its declarations, offered one by one.
* `Roster.serveAll_accounts`: all of this of every run from the empty roster.
-/

import TypeChart.Proofs.Declarations
import TypeChart.Snapshot.Sample

namespace TypeChart

/-- The declarations of a unit that are left out are types. -/
theorem SourceUnit.unresolved_declarations (source : SourceUnit) :
    (source.declarations.filter fun declaration => !declaration.isResolved) =
      (source.types.filter fun decl => !decl.isResolved).map .type := by
  have types : ((source.types.map Declaration.type).filter fun declaration =>
      !declaration.isResolved) = (source.types.filter fun decl => !decl.isResolved).map .type :=
    List.filter_map
  have enums : ((source.enums.map Declaration.enumeration).filter fun declaration =>
      !declaration.isResolved) = [] := by
    refine List.filter_eq_nil_iff.mpr fun declaration member => ?_
    obtain ⟨decl, _, rfl⟩ := List.mem_map.mp member
    exact Bool.false_ne_true
  rw [declarations, List.filter_append, types, enums, List.append_nil]

namespace Roster

/-! ### Runs of requests -/

/-- A request that was served: what it was answered with, and what it reported. -/
structure Served where
  request : Request
  answer : Answer
  events : List Event

/-- A run of requests, each served by the roster that the one before it left. -/
def serveAll (roster : Roster) : List Request → List Served × Roster
  | [] => ([], roster)
  | request :: rest =>
    let (answer, events, next) := roster.serve request
    let (later, final) := next.serveAll rest
    (⟨request, answer, events⟩ :: later, final)

/-- The classifiers that were handed over. To look at them is not to take them. -/
def Served.taken : Served → List Classifier
  | ⟨.take, .classifiers classifiers, _⟩ => classifiers
  | _ => []

namespace Request

/-- The declarations that a request offers, in the order in which they are entered. -/
def offers : Request → List Declaration
  | .enterType decl => [.type decl]
  | .enterEnum decl => [.enumeration decl]
  | .enterUnit source => source.declarations
  | .look | .take => []

/-- What a request should report: a unit each type that it leaves unresolved, and nothing else. -/
def report : Request → List Event
  | .enterUnit source =>
    (source.types.filter fun decl => !decl.isResolved).map fun decl =>
      .unresolved decl.name source.path
  | .enterType _ | .enterEnum _ | .look | .take => []

end Request

/-- The classifiers of all resolved declarations that requests offer. -/
def offered (allAncestors : Bool) (requests : List Request) : List Classifier :=
  ((requests.flatMap Request.offers).filter (·.isResolved)).map
    (Declaration.classifier allAncestors)

/-- The number of unresolved declarations that requests offer. -/
def unresolvedOffers (requests : List Request) : Nat :=
  ((requests.flatMap Request.offers).filter fun declaration => !declaration.isResolved).length

theorem offered_cons (allAncestors : Bool) (request : Request) (rest : List Request) :
    offered allAncestors (request :: rest) =
      offered allAncestors [request] ++ offered allAncestors rest := by
  simp only [offered, List.flatMap_cons, List.flatMap_nil, List.append_nil, List.filter_append,
    List.map_append]

theorem unresolvedOffers_cons (request : Request) (rest : List Request) :
    unresolvedOffers (request :: rest) = unresolvedOffers [request] + unresolvedOffers rest := by
  simp only [unresolvedOffers, List.flatMap_cons, List.flatMap_nil, List.append_nil,
    List.filter_append, List.length_append]

/-! ### One request -/

variable (roster : Roster)

@[simp]
theorem allAncestors_serve (request : Request) :
    (roster.serve request).2.2.allAncestors = roster.allAncestors := by
  cases request with
  | enterType decl =>
    show (roster.enterType decl).allAncestors = roster.allAncestors
    unfold enterType
    split <;> rfl
  | enterEnum decl => rfl
  | enterUnit source => exact roster.allAncestors_enterUnit source
  | look => rfl
  | take => rfl

/-- **One request**: what it hands over and what is then held is what was held before, and after
that what the request offers. -/
theorem taken_append_classifiers_serve (request : Request) :
    (Served.taken ⟨request, (roster.serve request).1, (roster.serve request).2.1⟩) ++
        (roster.serve request).2.2.classifiers =
      roster.classifiers ++ offered roster.allAncestors [request] := by
  cases request with
  | enterType decl =>
    show (roster.enterType decl).classifiers = _
    cases resolved : decl.isResolved with
    | true => simp [enterType, offered, Request.offers, Declaration.isResolved, resolved,
        Declaration.classifier]
    | false => simp [enterType, offered, Request.offers, Declaration.isResolved, resolved]
  | enterEnum decl => rfl
  | enterUnit source =>
    show (roster.enterUnit source).1.classifiers = _
    rw [classifiers_enterUnit, offered, List.flatMap_singleton, Request.offers]
  | look => exact (List.append_nil _).symm
  | take => rfl

theorem unresolved_serve (request : Request) :
    (roster.serve request).2.2.unresolved = roster.unresolved + unresolvedOffers [request] := by
  cases request with
  | enterType decl =>
    show (roster.enterType decl).unresolved = _
    cases resolved : decl.isResolved with
    | true => simp [enterType, unresolvedOffers, Request.offers, Declaration.isResolved, resolved]
    | false => simp [enterType, unresolvedOffers, Request.offers, Declaration.isResolved, resolved]
  | enterEnum decl => rfl
  | enterUnit source =>
    show (roster.enterUnit source).1.unresolved = _
    rw [unresolvedOffers, List.flatMap_singleton, Request.offers,
      SourceUnit.unresolved_declarations, List.length_map, unresolved_enterUnit]
  | look => rfl
  | take => rfl

theorem events_serve (request : Request) : (roster.serve request).2.1 = request.report := by
  cases request <;> rfl

/-- A single type is taken, or else nothing but the count changes. -/
theorem serve_enterType {allAncestors : Bool} (choice : roster.allAncestors = allAncestors)
    (decl : TypeDecl) :
    (roster.serve (.enterType decl)).2 =
      ([], if decl.isResolved then
          { roster with classifiers := roster.classifiers ++ [decl.classifier allAncestors] }
        else { roster with unresolved := roster.unresolved + 1 }) := by
  subst choice
  rfl

/-! ### A run -/

theorem serveAll_cons (request : Request) (rest : List Request) :
    roster.serveAll (request :: rest) =
      (⟨request, (roster.serve request).1, (roster.serve request).2.1⟩ ::
          ((roster.serve request).2.2.serveAll rest).1,
        ((roster.serve request).2.2.serveAll rest).2) :=
  rfl

/-- **A run neither loses nor invents a classifier**, and none overtakes another. -/
theorem taken_append_classifiers_serveAll (requests : List Request) :
    (roster.serveAll requests).1.flatMap Served.taken ++ (roster.serveAll requests).2.classifiers =
      roster.classifiers ++ offered roster.allAncestors requests := by
  induction requests generalizing roster with
  | nil => exact (List.append_nil _).symm
  | cons request rest ih =>
    have step := roster.taken_append_classifiers_serve request
    rw [serveAll_cons, List.flatMap_cons, List.append_assoc, ih, allAncestors_serve,
      ← List.append_assoc, step, List.append_assoc, ← offered_cons]

theorem unresolved_serveAll (requests : List Request) :
    (roster.serveAll requests).2.unresolved = roster.unresolved + unresolvedOffers requests := by
  induction requests generalizing roster with
  | nil => rfl
  | cons request rest ih =>
    rw [serveAll_cons, ih, unresolved_serve, Nat.add_assoc, ← unresolvedOffers_cons]

theorem events_serveAll (requests : List Request) :
    (roster.serveAll requests).1.flatMap Served.events = requests.flatMap Request.report := by
  induction requests generalizing roster with
  | nil => rfl
  | cons request rest ih =>
    rw [serveAll_cons, List.flatMap_cons, List.flatMap_cons, ih, events_serve]

theorem allAncestors_serveAll (requests : List Request) :
    (roster.serveAll requests).2.allAncestors = roster.allAncestors := by
  induction requests generalizing roster with
  | nil => rfl
  | cons request rest ih => rw [serveAll_cons, ih, allAncestors_serve]

theorem serveAll_append (front back : List Request) :
    roster.serveAll (front ++ back) =
      ((roster.serveAll front).1 ++ ((roster.serveAll front).2.serveAll back).1,
        ((roster.serveAll front).2.serveAll back).2) := by
  induction front generalizing roster with
  | nil => rfl
  | cons request rest ih => rw [List.cons_append, serveAll_cons, ih, serveAll_cons]; rfl

/-! ### Units -/

/-- The requests that offer a unit's declarations one by one: its types, then its enumerations. -/
def unitRequests (source : SourceUnit) : List Request :=
  source.types.map .enterType ++ source.enums.map .enterEnum

/-- What is to be reported of a single request in a unit of this path: a type that was not taken. -/
def Served.complaint (path : String) : Served → Option Event
  | ⟨.enterType decl, .entered false, _⟩ => some (.unresolved decl.name path)
  | _ => none

theorem serveAll_types (path : String) (types : List TypeDecl) :
    (roster.serveAll (types.map .enterType)).2 = types.foldl enterType roster ∧
      (roster.serveAll (types.map .enterType)).1.filterMap (Served.complaint path) =
        (types.filter fun decl => !decl.isResolved).map fun decl => .unresolved decl.name path := by
  induction types generalizing roster with
  | nil => exact ⟨rfl, rfl⟩
  | cons decl rest ih =>
    obtain ⟨entered, complaints⟩ := ih (roster.enterType decl)
    refine ⟨entered, ?_⟩
    show ((⟨.enterType decl, .entered decl.isResolved, []⟩ : Served) ::
      ((roster.enterType decl).serveAll (rest.map .enterType)).1).filterMap _ = _
    cases resolved : decl.isResolved with
    | true =>
      rw [List.filter_cons_of_neg (by simp [resolved]), ← complaints]
      rfl
    | false =>
      rw [List.filter_cons_of_pos (by simp [resolved]), List.map_cons, ← complaints]
      rfl

theorem serveAll_enums (path : String) (enums : List EnumDecl) :
    (roster.serveAll (enums.map .enterEnum)).2 = enums.foldl enterEnum roster ∧
      (roster.serveAll (enums.map .enterEnum)).1.filterMap (Served.complaint path) = [] := by
  induction enums generalizing roster with
  | nil => exact ⟨rfl, rfl⟩
  | cons decl rest ih => exact ih (roster.enterEnum decl)

/-- **A unit is its declarations, offered one by one**, and what it reports are the complaints about
those that were not taken. -/
theorem serveAll_unitRequests (source : SourceUnit) :
    (roster.serveAll (unitRequests source)).2 = (roster.enterUnit source).1 ∧
      (roster.serveAll (unitRequests source)).1.filterMap (Served.complaint source.path) =
        (roster.enterUnit source).2 := by
  obtain ⟨types, complaints⟩ := roster.serveAll_types source.path source.types
  obtain ⟨enums, silent⟩ :=
    (source.types.foldl enterType roster).serveAll_enums source.path source.enums
  rw [unitRequests, serveAll_append, types]
  refine ⟨enums, ?_⟩
  rw [List.filterMap_append, complaints, silent, List.append_nil]
  rfl

/-! ### Everything is accounted for -/

/-- Only the passing over of a type is reported, and that at debug level. -/
theorem level_of_mem_report {request : Request} {event : Event}
    (member : event ∈ request.report) : event.level = .debug := by
  cases request with
  | enterUnit source =>
    obtain ⟨decl, _, rfl⟩ := List.mem_map.mp member
    rfl
  | enterType decl => cases member
  | enterEnum decl => cases member
  | look => cases member
  | take => cases member

/-- **A roster accounts for everything that it was offered.** After any requests to the empty
roster, what was handed over and what is still held are together the classifiers of all resolved
declarations that were offered, in the order of the offers. The unresolved ones are counted, and no
request lowers the count. A single type is answered with whether it was taken, and one that was not
changes nothing but the count. What is reported are the unresolved types of the units, as if each
unit had offered its types and then its enumerations one by one. -/
theorem serveAll_accounts (allAncestors : Bool) (requests : List Request) :
    let (served, roster) := serveAll { allAncestors := allAncestors } requests
    served.flatMap Served.taken ++ roster.classifiers = offered allAncestors requests ∧
      roster.unresolved = unresolvedOffers requests ∧
      (∀ request, roster.unresolved ≤ (roster.serve request).2.2.unresolved) ∧
      (∀ decl, ((roster.serve (.enterType decl)).1 = .entered false ↔ decl.isResolved = false) ∧
        (roster.serve (.enterType decl)).2 =
          ([], if decl.isResolved then
              { roster with
                classifiers := roster.classifiers ++ [decl.classifier allAncestors] }
            else { roster with unresolved := roster.unresolved + 1 })) ∧
      roster.serve .take =
        (.classifiers roster.classifiers, [], { roster with classifiers := [] }) ∧
      served.flatMap Served.events = requests.flatMap Request.report ∧
      (∀ event ∈ served.flatMap Served.events, event.level = .debug) ∧
      ∀ source, (roster.serveAll (unitRequests source)).2 =
          (roster.serve (.enterUnit source)).2.2 ∧
        (roster.serveAll (unitRequests source)).1.filterMap (Served.complaint source.path) =
          (roster.serve (.enterUnit source)).2.1 := by
  have reports := events_serveAll { allAncestors := allAncestors } requests
  have choice := allAncestors_serveAll { allAncestors := allAncestors } requests
  refine ⟨?_, ?_, fun request => ?_, fun decl => ⟨?_, ?_⟩, rfl, reports, fun event member => ?_,
    fun source => serveAll_unitRequests _ source⟩
  · exact taken_append_classifiers_serveAll { allAncestors := allAncestors } requests
  · rw [unresolved_serveAll]
    exact Nat.zero_add _
  · rw [unresolved_serve]
    exact Nat.le_add_right _ _
  · exact ⟨fun same => Answer.entered.inj same,
      fun unresolved => congrArg Answer.entered unresolved⟩
  · exact serve_enterType _ choice decl
  · rw [reports] at member
    obtain ⟨request, _, reported⟩ := List.mem_flatMap.mp member
    exact level_of_mem_report reported

/-- A unit with an unresolved type, taken over before another type is passed over. -/
theorem serveAll_accounts_people :
    let (served, roster) := serveAll {}
      [.enterUnit Sample.people, .take, .enterType { name := "Ghost", isResolved := false },
        .enterEnum { name := "Colour" }, .look]
    served.flatMap Served.taken ++ roster.classifiers =
        [(Sample.people.types[0].classifier false), (Sample.people.types[1].classifier false),
          (Sample.people.enums[0].classifier), ({ name := "Colour" } : EnumDecl).classifier] ∧
      roster.classifiers.length = 1 ∧
      roster.unresolved = 2 ∧
      served.flatMap Served.events = [.unresolved "Broken" "People.cs"] := by
  obtain ⟨conserved, counted, _, _, _, reported, _⟩ := serveAll_accounts false
    [.enterUnit Sample.people, .take, .enterType { name := "Ghost", isResolved := false },
      .enterEnum { name := "Colour" }, .look]
  exact ⟨conserved, rfl, counted, reported⟩

end Roster

end TypeChart
