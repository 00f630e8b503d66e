/-
**Which documents are accepted.**

A document is accepted if its root has an array of sources and every type entry of every source has
a name. Nothing else is asked of it, at any depth: a source without an array of types has no type
entries, and it is as welcome as a source that is no object at all.

A refusal is of the whole document. It comes from the first source with a nameless type entry,
wherever that stands, and the sources before it are lost with it. One warning names the path of
the source; without sources a document is refused in silence. A text that is no document at all is
refused with one error.

* `SourceUnit.exists_ofJson_iff`, `SourceUnit.ofJson_eq_error_iff`: one source.
* `Snapshot.exists_ofJson_iff`, `Snapshot.ofJson_eq_error_iff`: a document.
* `Snapshot.loadText_of_isDocument` and its siblings: a text, by what a parser makes of it.
* `Snapshot.read_acceptance`: all documents and texts, with what is reported of them.
-/

import TypeChart.Json.Reader
import TypeChart.Proofs.Command.Courses

namespace TypeChart

/-! ### What is asked of a document -/

namespace Json

/-- An object with a text for a name. -/
def IsNamed (json : Json) : Prop :=
  ∃ name, json.get? "name" = some (.string name)

/-- A source whose type entries are named. -/
def IsSource (json : Json) : Prop :=
  ∀ entries, json.get? "types" = some (.array entries) → ∀ entry ∈ entries, entry.IsNamed

/-- An object with an array of sources. -/
def HasSources (json : Json) : Prop :=
  ∃ sources, json.get? "sources" = some (.array sources)

def IsDocument (json : Json) : Prop :=
  ∃ sources, json.get? "sources" = some (.array sources) ∧ ∀ source ∈ sources, source.IsSource

/-- The first source with a nameless type entry has this path. -/
def FirstNameless (json : Json) (path : String) : Prop :=
  ∃ front source back, json.get? "sources" = some (.array (front ++ source :: back)) ∧
    (∀ other ∈ front, other.IsSource) ∧ ¬ source.IsSource ∧ source.textAt "path" = path

theorem isSource_iff {json : Json} :
    json.IsSource ↔ ∀ entry ∈ json.itemsAt "types", entry.IsNamed := by
  unfold IsSource itemsAt
  split
  · rename_i items found
    constructor
    · intro named
      exact named items found
    · intro named entries same
      cases found.symm.trans same
      exact named
  · rename_i other
    constructor
    · intro _ entry member
      cases member
    · intro _ entries same
      exact absurd same (other entries)

theorem isDocument_iff {json : Json} {sources : List Json}
    (found : json.get? "sources" = some (.array sources)) :
    json.IsDocument ↔ ∀ source ∈ sources, source.IsSource := by
  constructor
  · rintro ⟨others, same, accepted⟩
    cases found.symm.trans same
    exact accepted
  · intro accepted
    exact ⟨sources, found, accepted⟩

theorem IsDocument.isNamed {json entry : Json} (accepted : json.IsDocument)
    (member : entry ∈ json.typeEntries) : entry.IsNamed := by
  obtain ⟨sources, found, ofSources⟩ := accepted
  obtain ⟨source, listed, inSource⟩ := List.mem_flatMap.mp member
  rw [itemsAt, found] at listed
  exact isSource_iff.mp (ofSources source listed) entry inSource

end Json

/-! ### Type entries and sources -/

theorem TypeDecl.exists_ofJson?_iff {json : Json} :
    (∃ decl, TypeDecl.ofJson? json = some decl) ↔ json.IsNamed := by
  unfold ofJson? Json.IsNamed
  split
  · rename_i name found
    exact ⟨fun _ => ⟨name, found⟩, fun _ => ⟨_, rfl⟩⟩
  · rename_i other
    exact ⟨nofun, fun ⟨name, found⟩ => absurd found (other name)⟩

theorem TypeDecl.exists_ofEntry_iff {path : String} {json : Json} :
    (∃ decl, TypeDecl.ofEntry path json = .ok decl) ↔ json.IsNamed := by
  simp only [ofEntry_eq_ok_iff]
  exact exists_ofJson?_iff

namespace SourceUnit

theorem exists_ofJson_iff {json : Json} :
    (∃ unit, SourceUnit.ofJson json = .ok unit) ↔ json.IsSource := by
  rw [ofJson_eq_map, exists_map_eq_ok_iff, exists_mapM_eq_ok_iff, Json.isSource_iff]
  exact forall₂_congr fun _ _ => TypeDecl.exists_ofEntry_iff

theorem eq_nameless_of_ofJson_eq_error {json : Json} {refusal : Refusal}
    (isRefused : SourceUnit.ofJson json = .error refusal) :
    refusal = .nameless (json.textAt "path") := by
  rw [ofJson_eq_map, map_eq_error_iff, mapM_eq_error_iff] at isRefused
  obtain ⟨_, entry, _, _, _, nameless⟩ := isRefused
  exact (TypeDecl.ofEntry_eq_error_iff.mp nameless).2

/-- **A source is refused for a nameless type entry only**, and by its path. -/
theorem ofJson_eq_error_iff {json : Json} {refusal : Refusal} :
    SourceUnit.ofJson json = .error refusal ↔
      ¬ json.IsSource ∧ refusal = .nameless (json.textAt "path") := by
  rw [← exists_ofJson_iff]
  cases isRead : SourceUnit.ofJson json with
  | ok unit => exact ⟨nofun, fun ⟨unread, _⟩ => absurd ⟨unit, rfl⟩ unread⟩
  | error other =>
    obtain rfl := eq_nameless_of_ofJson_eq_error isRead
    rw [Except.error.injEq]
    constructor
    · rintro rfl
      exact ⟨(fun ⟨_, same⟩ => nomatch same), rfl⟩
    · rintro ⟨_, same⟩
      exact same.symm

end SourceUnit

/-! ### Documents -/

namespace Snapshot

theorem ofJson_of_not_hasSources {json : Json} (shapeless : ¬ json.HasSources) :
    Snapshot.ofJson json = .error .shape :=
  ofJson_of_no_sources (not_exists.mp shapeless)

/-- **A document is accepted if all its type entries have names.** -/
theorem exists_ofJson_iff {json : Json} :
    (∃ snapshot, Snapshot.ofJson json = .ok snapshot) ↔ json.IsDocument := by
  by_cases has : json.HasSources
  · obtain ⟨sources, found⟩ := has
    rw [ofJson_of_sources found, exists_map_eq_ok_iff, exists_mapM_eq_ok_iff,
      Json.isDocument_iff found]
    exact forall₂_congr fun _ _ => SourceUnit.exists_ofJson_iff
  · rw [ofJson_of_not_hasSources has]
    exact ⟨nofun, fun ⟨sources, found, _⟩ => absurd ⟨sources, found⟩ has⟩

/-- **A document is refused for its shape or for its first nameless type entry.** -/
theorem ofJson_eq_error_iff {json : Json} {refusal : Refusal} :
    Snapshot.ofJson json = .error refusal ↔
      (refusal = .shape ∧ ¬ json.HasSources) ∨
        ∃ path, refusal = .nameless path ∧ json.FirstNameless path := by
  by_cases has : json.HasSources
  · obtain ⟨sources, found⟩ := has
    rw [ofJson_of_sources found, map_eq_error_iff, mapM_eq_error_iff]
    simp only [SourceUnit.exists_ofJson_iff, SourceUnit.ofJson_eq_error_iff]
    constructor
    · rintro ⟨front, source, back, rfl, accepted, nameless, rfl⟩
      exact .inr ⟨_, rfl, front, source, back, found, accepted, nameless, rfl⟩
    · rintro (⟨_, shapeless⟩ | ⟨_, rfl, front, source, back, same, accepted, nameless, rfl⟩)
      · exact absurd ⟨sources, found⟩ shapeless
      · cases found.symm.trans same
        exact ⟨front, source, back, rfl, accepted, nameless, rfl⟩
  · rw [ofJson_of_not_hasSources has, Except.error.injEq]
    constructor
    · rintro rfl
      exact .inl ⟨rfl, has⟩
    · rintro (⟨rfl, _⟩ | ⟨_, _, front, source, back, found, _⟩)
      · rfl
      · exact absurd ⟨_, found⟩ has

/-- A value is accepted, has no sources, or has a first nameless type entry. -/
theorem isDocument_or (json : Json) :
    json.IsDocument ∨ ¬ json.HasSources ∨ ∃ path, json.FirstNameless path := by
  cases isRead : ofJson json with
  | ok snapshot => exact .inl (exists_ofJson_iff.mp ⟨snapshot, isRead⟩)
  | error refusal =>
    rcases ofJson_eq_error_iff.mp isRead with ⟨_, shapeless⟩ | ⟨path, _, nameless⟩
    · exact .inr (.inl shapeless)
    · exact .inr (.inr ⟨path, nameless⟩)

/-! ### Texts -/

section Texts

variable {parser : Json.Parser} {text : String} {json : Json}

theorem loadText_of_ok (parsed : parser text = .ok json) :
    loadText parser text = ((ofJson json).toOption, report (ofJson json)) := by
  rw [loadText, read_of_ok parsed]

theorem loadText_of_isDocument (parsed : parser text = .ok json) (accepted : json.IsDocument) :
    ∃ snapshot, ofJson json = .ok snapshot ∧ loadText parser text = (some snapshot, []) := by
  obtain ⟨snapshot, isRead⟩ := exists_ofJson_iff.mpr accepted
  refine ⟨snapshot, isRead, ?_⟩
  rw [loadText_of_ok parsed, isRead]
  rfl

theorem loadText_of_not_hasSources (parsed : parser text = .ok json)
    (shapeless : ¬ json.HasSources) : loadText parser text = (none, []) := by
  rw [loadText_of_ok parsed, ofJson_of_not_hasSources shapeless]
  rfl

theorem loadText_of_firstNameless {path : String} (parsed : parser text = .ok json)
    (nameless : json.FirstNameless path) : loadText parser text = (none, [.nameless path]) := by
  rw [loadText_of_ok parsed, ofJson_eq_error_iff.mpr (.inr ⟨path, rfl, nameless⟩)]
  rfl

theorem loadText_of_error {fault : String} (refused : parser text = .error fault) :
    loadText parser text = (none, [.malformed fault]) := by
  rw [loadText, read_of_error refused]
  rfl

/-- If a text gives no snapshot, then what is reported of it is the beginning of the log. -/
theorem log_run_of_loadText {σ : Type} {files : FileSystem σ} {state : σ} {first : String}
    {rest : List String} (noSample : (Command.ofArguments first rest).useSample = false)
    (opened : files.read state (Command.ofArguments first rest).input = .text text)
    (isNone : (loadText parser text).1 = none) :
    (files.run parser state (first :: rest)).1.log =
      (loadText parser text).2 ++ [.noSnapshot (Command.ofArguments first rest).input] := by
  rw [loadText] at isNone ⊢
  cases isRead : read parser text with
  | ok snapshot =>
    rw [isRead] at isNone
    cases isNone
  | error refusal => exact FileSystem.log_run_of_refused noSample opened isRead

end Texts

/-- **What is accepted, what is refused and what is reported of it.** No value makes the loader
raise anything; a value is accepted exactly if it is a document, whatever else is missing or wrong
in it. Whichever parser is used: of a text that it parses, a document gives its snapshot without a
word, a value without sources gives none without a word, and one with a nameless type entry gives
none with one warning; a text that it does not parse gives none with one error. This is what a run
is given of the text of its input; and if that is nothing, this report, and that nothing was loaded,
is all that the run logs. -/
theorem read_acceptance :
    (∀ json : Json,
      (load json).run = .ok (ofJson json) ∧
        ((∃ snapshot, ofJson json = .ok snapshot) ↔ json.IsDocument) ∧
        (¬ json.HasSources → ofJson json = .error .shape) ∧
        (∀ path, json.FirstNameless path → ofJson json = .error (.nameless path)) ∧
        (json.IsDocument ∨ ¬ json.HasSources ∨ ∃ path, json.FirstNameless path)) ∧
      (∀ (parser : Json.Parser) (text : String),
        (∀ json, parser text = .ok json →
          (json.IsDocument →
            ∃ snapshot, ofJson json = .ok snapshot ∧ loadText parser text = (some snapshot, [])) ∧
          (¬ json.HasSources → loadText parser text = (none, [])) ∧
          ∀ path, json.FirstNameless path → loadText parser text = (none, [.nameless path])) ∧
        (∀ fault, parser text = .error fault → loadText parser text = (none, [.malformed fault])) ∧
        ∀ (σ : Type) (files : FileSystem σ) (state : σ) (first : String) (rest : List String),
          (Command.ofArguments first rest).useSample = false →
          files.read state (Command.ofArguments first rest).input = .text text →
          (((Command.ofArguments first rest).load parser files.host).run state).run =
            (.returned (loadText parser text).1 (loadText parser text).2, state) ∧
          ((loadText parser text).1 = none →
            (files.run parser state (first :: rest)).1.log =
              (loadText parser text).2 ++
                [.noSnapshot (Command.ofArguments first rest).input])) ∧
      (∀ path, (Event.nameless path).level = .warning) ∧
      ∀ fault, (Event.malformed fault).level = .error :=
  ⟨fun json => ⟨run_load json, exists_ofJson_iff, ofJson_of_not_hasSources,
      fun path nameless => ofJson_eq_error_iff.mpr (.inr ⟨path, rfl, nameless⟩),
      isDocument_or json⟩,
    fun _ _ => ⟨fun _ parsed => ⟨loadText_of_isDocument parsed,
        loadText_of_not_hasSources parsed, fun _ => loadText_of_firstNameless parsed⟩,
      fun _ => loadText_of_error,
      fun _ _ _ _ _ noSample opened => ⟨congrArg Id.run (Command.run_load_of_text noSample opened),
        log_run_of_loadText noSample opened⟩⟩,
    fun _ => rfl, fun _ => rfl⟩

end Snapshot

/-- A document in which little is as it should be, but every type entry has a name. -/
def Sample.careless : Json :=
  .object
    [("project", .number "1"),
     ("sources", .array
       [.null,
        .object [("types", .string "none"), ("enums", .array [.null])],
        .object
          [("types", .array
            [.object
              [("name", .string "Careless"),
               ("base", .bool true),
               ("methods", .array [.null])]])]])]

/-- A document whose second source has a nameless type entry behind one with a name. -/
def Sample.spoiled : Json :=
  .object
    [("sources", .array
      [.object
        [("path", .string "Good.cs"),
         ("types", .array [.object [("name", .string "Good")]])],
       .object
        [("path", .string "Bad.cs"),
         ("types", .array [.object [("name", .string "Good")], .object [("name", .number "1")]])]])]

/-- A document of one source, whose one type entry is null. -/
def Sample.hollowText : String :=
  "\x7b\"sources\":[\x7b\"path\":\"C.cs\",\"types\":[null]\x7d]\x7d"

/-- The value that the text writes. -/
def Sample.hollow : Json :=
  .object [("sources", .array [.object [("path", .string "C.cs"), ("types", .array [.null])]])]

theorem Sample.read_hollowText : Json.read hollowText = .ok hollow := by
  have value : Json.readValue
      ['\x7b', '"', 's', 'o', 'u', 'r', 'c', 'e', 's', '"', ':', '[', '\x7b', '"', 'p', 'a', 't', 'h',
        '"', ':', '"', 'C', '.', 'c', 's', '"', ',', '"', 't', 'y', 'p', 'e', 's', '"', ':', '[', 'n',
        'u', 'l', 'l', ']', '\x7d', ']', '\x7d'] =
      .ok (.object
        [(String.ofList ['s', 'o', 'u', 'r', 'c', 'e', 's'], .array
          [.object
            [(String.ofList ['p', 'a', 't', 'h'], .string (String.ofList ['C', '.', 'c', 's'])),
              (String.ofList ['t', 'y', 'p', 'e', 's'], .array [.null])]])], ⟨[], by simp⟩) := by
    cbv
  exact Json.read_of_readValue (by simp [hollowText, Json.skipBlanks, Json.isBlank]) value rfl

/-- A place to work at, with a file that is no document. -/
def Sample.stub : FileTree where
  entries := [(["in.json"], .file "[")]

/-- A careless document is accepted, a spoiled one is refused for its second source. Of three texts,
the strict reader takes two, and none of them gives a snapshot; a run on the third one logs why. -/
theorem Snapshot.read_acceptance_spoiled :
    Sample.careless.IsDocument ∧
      (∃ snapshot, ofJson Sample.careless = .ok snapshot) ∧
      (load Sample.careless).run = .ok (ofJson Sample.careless) ∧
      Sample.spoiled.FirstNameless "Bad.cs" ∧
      ofJson Sample.spoiled = .error (.nameless "Bad.cs") ∧
      loadText Json.parser "[" = (none, [.malformed "unexpected end of text"]) ∧
      loadText Json.parser "[]" = (none, []) ∧
      loadText Json.parser Sample.hollowText = (none, [.nameless "C.cs"]) ∧
      (FileTree.system.run Json.parser Sample.stub ["in.json"]).1.log =
        [.malformed "unexpected end of text", .noSnapshot "in.json"] := by
  have accepted : Sample.careless.IsDocument := by
    simp [Sample.careless, Json.IsDocument, Json.IsSource, Json.IsNamed, Json.get?, Json.lastOf]
  have shapeless : ¬ (Json.array []).HasSources := by
    simp [Json.HasSources, Json.get?]
  have nameless : Sample.spoiled.FirstNameless "Bad.cs" := by
    refine ⟨[_], _, [], rfl, ?_, ?_, rfl⟩
    · simp [Json.IsSource, Json.IsNamed, Json.get?, Json.lastOf]
    · simp [Json.IsSource, Json.IsNamed, Json.get?, Json.lastOf]
  have hollow : Sample.hollow.FirstNameless "C.cs" := by
    refine ⟨[], _, [], rfl, fun _ none => absurd none List.not_mem_nil, ?_, rfl⟩
    simp [Json.IsSource, Json.IsNamed, Json.get?, Json.lastOf]
  have brokenText : Json.read "[" = .error .endOfText := by cbv
  have emptyArray : Json.read "[]" = .ok (.array []) := by cbv
  obtain ⟨values, texts, _⟩ := read_acceptance
  obtain ⟨_, broken, runs⟩ := texts Json.parser "["
  obtain ⟨empty, _⟩ := texts Json.parser "[]"
  obtain ⟨unnamed, _⟩ := texts Json.parser Sample.hollowText
  have refused := broken _ (Json.parser_eq_error brokenText)
  have logged := (runs FileTree FileTree.system Sample.stub "in.json" [] rfl (by decide +kernel)).2
    (congrArg Prod.fst refused)
  exact ⟨accepted, (values _).2.1.mpr accepted, (values _).1, nameless,
    (values _).2.2.2.1 "Bad.cs" nameless, refused,
    (empty _ (Json.parser_eq_ok emptyArray)).2.1 shapeless,
    (unnamed _ (Json.parser_eq_ok Sample.read_hollowText)).2.2 "C.cs" hollow,
    logged.trans (congrArg (·.2 ++ [_]) refused)⟩

end TypeChart
