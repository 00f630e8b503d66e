/-
**Loading raises nothing.**

Every access of a reader to a value may raise, and each of them is behind the question that makes it
safe. So no value makes a reader raise, whatever is missing or of another type at whatever depth: a
reader comes to what the document means, and the only way not to get a snapshot of a value is a
refusal.

* `TypeUse.load_eq_ok`: references, by induction on the value.
* `PropertyDecl.load_eq_ok` and its siblings: the declarations, each by the accesses it makes.
* `SourceUnit.run_load`, `Snapshot.run_load`: what may be refused.
* `Snapshot.read_of_ok`, `Snapshot.read_of_error`: texts, by what the parser says of them.
-/

import TypeChart.Proofs.Snapshot.Entries
import TypeChart.Snapshot.Loader

namespace TypeChart

/-! ### Type references -/

/-- A value that is neither an object nor a string has no members, and tells nothing. -/
theorem TypeUse.ofJson_of_not_isObject {json : Json} (notString : json.isString = false)
    (notObject : json.isObject = false) : TypeUse.ofJson json = {} := by
  cases json with
  | string => cases notString
  | object => cases notObject
  | _ =>
    rw [TypeUse.ofJson_of_ne_string (by exact nofun)]
    rfl

theorem TypeUse.load_eq_ok (json : Json) : TypeUse.load json = .ok (TypeUse.ofJson json) := by
  have inner (item : json.Inner) : TypeUse.load item.val = .ok (TypeUse.ofJson item.val) :=
    TypeUse.load_eq_ok item.val
  unfold TypeUse.load
  cases isString : json.isString with
  | true =>
    cases json with
    | string name => rw [TypeUse.ofJson_string]; rfl
    | _ => cases isString
  | false =>
    cases isObject : json.isObject with
    | true =>
      have tells : ∀ name, json ≠ .string name := by
        rintro name rfl
        cases isString
      rw [TypeUse.ofJson_of_ne_string tells, if_neg (by exact nofun), if_pos rfl,
        Json.askText_eq_ok, Json.askText_eq_ok, Json.askText_eq_ok,
        Json.askEach_eq_ok _ inner, Json.askSaid_eq_ok _ inner, Json.askTexts_eq_ok]
      simp only [bind, Except.bind, pure, Except.pure, List.isEmpty_map]
    | false =>
      rw [TypeUse.ofJson_of_not_isObject isString isObject]
      rfl
termination_by sizeOf json
decreasing_by exact item.property

theorem TypeUse.loadOne_eq_ok (json : Json) (name : String) :
    TypeUse.loadOne json name = .ok (TypeUse.oneAt json name) :=
  Json.askOne_eq_ok name (fun type => TypeUse.load_eq_ok type.val) {}

theorem TypeUse.loadAll_eq_ok (json : Json) (name : String) :
    TypeUse.loadAll json name = .ok (TypeUse.allAt json name) :=
  Json.askEach_eq_ok name fun type => TypeUse.load_eq_ok type.val

/-! ### Declarations -/

theorem PropertyDecl.load_eq_ok (json : Json) :
    PropertyDecl.load json = .ok (PropertyDecl.ofJson json) := by
  unfold PropertyDecl.load
  rw [Json.askText_eq_ok, TypeUse.loadOne_eq_ok, Json.askText_eq_ok, Json.askFlag_eq_ok,
    Json.askFlag_eq_ok]
  rfl

theorem ParameterDecl.load_eq_ok (json : Json) :
    ParameterDecl.load json = .ok (ParameterDecl.ofJson json) := by
  unfold ParameterDecl.load
  rw [Json.askText_eq_ok, TypeUse.loadOne_eq_ok]
  rfl

theorem MethodDecl.load_eq_ok (json : Json) :
    MethodDecl.load json = .ok (MethodDecl.ofJson json) := by
  unfold MethodDecl.load
  rw [Json.askText_eq_ok, TypeUse.loadOne_eq_ok, Json.askText_eq_ok, Json.askFlag_eq_ok,
    Json.askText_eq_ok, Json.askFlag_eq_ok,
    Json.askEach_eq_ok _ fun entry => ParameterDecl.load_eq_ok entry.val]
  rfl

theorem EnumDecl.load_eq_ok (json : Json) :
    EnumDecl.load json = .ok (EnumDecl.ofJson json) := by
  unfold EnumDecl.load
  rw [Json.askText_eq_ok, Json.askTexts_eq_ok]
  rfl

theorem TypeDecl.kindOfJson_eq (json : Json) :
    TypeDecl.kindOfJson json =
      if (json.textAt "kind").isEmpty then .classType else TypeKind.ofWord (json.textAt "kind") := by
  unfold kindOfJson
  split
  · rename_i empty
    rw [empty]
    rfl
  · rename_i told
    rw [if_neg (by rwa [String.isEmpty_iff])]

theorem TypeDecl.load_eq_ok (json : Json) :
    TypeDecl.load json = .ok (TypeDecl.ofJson? json) := by
  unfold TypeDecl.load TypeDecl.ofJson?
  rw [Json.askHolds_eq_ok]
  cases found : json.get? "name" with
  | none => rfl
  | some value =>
    cases value with
    | string name =>
      rw [Json.member_eq_ok found, kindOfJson_eq, Json.askText_eq_ok, Json.askText_eq_ok,
        Json.askText_eq_ok, Json.askFlag_eq_ok, Json.askFlag_eq_ok,
        Json.askSaid_eq_ok _ fun base => TypeUse.load_eq_ok base.val, TypeUse.loadAll_eq_ok,
        TypeUse.loadAll_eq_ok,
        Json.askEach_eq_ok _ fun entry => PropertyDecl.load_eq_ok entry.val,
        Json.askEach_eq_ok _ fun entry => MethodDecl.load_eq_ok entry.val]
      rfl
    | _ => rfl

/-! ### Documents -/

section Refusals

variable {α β γ ε δ : Type}

/-- What is made of a result that raised nothing raises nothing. -/
theorem run_bind_pure {loaded : ExceptT ε (Except δ) α} {meant : Except ε α}
    (same : loaded.run = .ok meant) (make : α → β) :
    (loaded >>= fun result => pure (make result)).run = .ok (meant.map make) := by
  rw [ExceptT.run_bind, same]
  cases meant with
  | error refusal => rfl
  | ok result => rfl

/-- Entries that raise nothing one by one raise nothing together, refused or not. -/
theorem run_mapM_eq_ok {load : α → ExceptT ε (Except δ) γ} {value : α → β}
    {meaning : β → Except ε γ} (each : ∀ item, (load item).run = .ok (meaning (value item)))
    (items : List α) : (items.mapM load).run = .ok ((items.map value).mapM meaning) := by
  induction items with
  | nil => rfl
  | cons item rest ih =>
    rw [List.mapM_cons, List.map_cons, ExceptT.run_bind, each]
    cases isRead : meaning (value item) with
    | error refusal =>
      rw [mapM_cons_of_error isRead]
      rfl
    | ok first =>
      rw [mapM_cons_of_ok isRead]
      exact run_bind_pure ih _

end Refusals

theorem TypeDecl.run_loadEntry (path : String) (json : Json) :
    (TypeDecl.loadEntry path json).run = .ok (TypeDecl.ofEntry path json) := by
  unfold TypeDecl.loadEntry TypeDecl.ofEntry
  rw [TypeDecl.load_eq_ok]
  cases TypeDecl.ofJson? json with
  | none => rfl
  | some decl => rfl

theorem SourceUnit.run_load (json : Json) :
    (SourceUnit.load json).run = .ok (SourceUnit.ofJson json) := by
  obtain ⟨entries, asked, same⟩ := json.exists_askItems_eq_ok "types"
  have types := run_mapM_eq_ok
    (fun entry : json.Inner => TypeDecl.run_loadEntry (json.textAt "path") entry.val) entries
  rw [same] at types
  unfold SourceUnit.load
  rw [Json.askText_eq_ok, asked, Json.askEach_eq_ok _ fun entry => EnumDecl.load_eq_ok entry.val,
    ofJson_eq_map]
  exact run_bind_pure types _

/-- **A document raises nothing**: loading it comes to what it means. -/
theorem Snapshot.run_load (json : Json) : (Snapshot.load json).run = .ok (Snapshot.ofJson json) := by
  unfold Snapshot.load
  rw [Json.askHolds_eq_ok]
  cases found : json.get? "sources" with
  | none =>
    rw [ofJson, found]
    rfl
  | some value =>
    cases value with
    | array sources =>
      rw [Json.member_eq_ok found, Json.askText_eq_ok, ofJson_of_sources found]
      have units := run_mapM_eq_ok (fun source : json.Inner => SourceUnit.run_load source.val)
        (Json.Inner.elements ⟨.array sources, Json.sizeOf_get? found⟩)
      rw [Json.Inner.map_val_elements] at units
      exact run_bind_pure units _
    | _ =>
      rw [ofJson, found]
      rfl

/-! ### Texts -/

namespace Snapshot

variable {parser : Json.Parser} {text : String}

theorem read_of_ok {json : Json} (parsed : parser text = .ok json) :
    read parser text = ofJson json := by
  rw [read, parsed]
  dsimp only
  rw [run_load]

theorem read_of_error {fault : String} (refused : parser text = .error fault) :
    read parser text = .error (.malformed fault) := by
  rw [read, refused]

end Snapshot

end TypeChart
