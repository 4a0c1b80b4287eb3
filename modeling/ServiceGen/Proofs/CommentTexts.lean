import ServiceGen.Proofs.ViewFields
import ServiceGen.Proofs.ViewSources

/-!
# Texts in Comments

The templates put some of a document's texts into comments that end with the line: the title and
the version, the path of each operation with its line of documentation, the descriptions of fields
and models, and the messages of error codes (`commentTexts`). Descriptions come on one line. The
title, the version and the paths come as the document has them, and so does what stands in for a
text that is missing: the path of an operation, and the name of an error code.

## Main results

* `oneLine_commentTexts_iff`: **which texts in comments are on one line.**
* `not_forall_oneLine_commentTexts`: a title of two lines is not, nor what stands in for a text.
-/

namespace ServiceGen

/-! ### Texts on one line -/

/-- A text without line breaks. -/
def OneLine (text : String) : Prop :=
  ∀ c ∈ text.toList, c ≠ '\n' ∧ c ≠ '\r'

/-- Joined texts are on one line when each of them is. -/
theorem oneLine_append {a b : String} : OneLine (a ++ b) ↔ OneLine a ∧ OneLine b := by
  rw [OneLine, String.toList_append, List.forall_mem_append]
  exact Iff.rfl

/-- Whether a text is on one line can be checked character by character. -/
theorem oneLine_of_all {text : String}
    (h : (text.toList.all fun c => c != '\n' && c != '\r') = true) : OneLine text := by
  intro c hc
  simpa using List.all_eq_true.mp h c hc

/-- A text without punctuation is on one line. -/
theorem oneLine_of_unpunctuated {text : String} (h : Text.Unpunctuated text.toList) :
    OneLine text := by
  refine fun c hc => ⟨?_, ?_⟩
  · rintro rfl
    exact absurd (h _ hc (by decide)) (by decide)
  · rintro rfl
    exact absurd (h _ hc (by decide)) (by decide)

/-- **The words of a text** are on one line. -/
theorem oneLine_singleLine (cs : List Char) : OneLine (String.ofList (Text.singleLine cs)) := by
  intro c hc
  rw [String.toList_ofList] at hc
  rcases Text.mem_join hc with hspace | ⟨word, hword, hmem⟩
  · rw [List.mem_singleton.mp hspace]
    decide
  · have hblank := (Text.of_mem_splitBy (List.mem_filter.mp hword).1 hmem).2
    refine ⟨?_, ?_⟩
    · rintro rfl
      exact absurd hblank (by decide)
    · rintro rfl
      exact absurd hblank (by decide)

/-- A text that is put on a line is on one line. -/
theorem oneLine_of_lineOf? {text : Option String} {line : String} (h : lineOf? text = some line) :
    OneLine line := by
  cases text with
  | none => cases h
  | some text =>
      rw [lineOf?, Option.map_some] at h
      dsimp only at h
      split at h
      · cases h
      · rw [← Option.some.inj h]
        exact oneLine_singleLine _

/-! ### Texts that stand in for others -/

/-- **The line of documentation of an operation** is on one line, unless there is no text for it
and the path, which stands in, is not. -/
theorem Resolver.oneLine_docOf_iff {method path : String} {op : Operation}
    (hmethod : OneLine method) :
    OneLine (docOf method path op) ↔
      (lineOf? (op.summary.or op.description)).isSome = true ∨ OneLine path := by
  rw [docOf]
  cases hline : lineOf? (op.summary.or op.description) with
  | some line => simp [oneLine_of_lineOf? hline]
  | none =>
      rw [Option.getD_none, oneLine_append, oneLine_append]
      have hspace : OneLine " " := oneLine_of_all (by decide)
      simp [hmethod, hspace]

/-- The methods of operations are on one line. -/
theorem PathItem.oneLine_of_mem_methods {method : String} (h : method ∈ methods) :
    OneLine (String.ofList (Text.asciiUpper method.toList)) := by
  have hall : (methods.all fun method => (String.ofList
      (Text.asciiUpper method.toList)).toList.all fun c => c != '\n' && c != '\r') = true := by
    decide
  exact oneLine_of_all (List.all_eq_true.mp hall method h)

/-- **The message of an error code** is on one line, unless it is blank and the name, which stands
in, is not. -/
theorem ErrorVariant.oneLine_message_iff (name : String) (e : ErrorCode) :
    OneLine (ofDeclaration name e).message ↔
      (Text.isBlankText e.message.toList = true → OneLine e.name) := by
  rw [ofDeclaration]
  dsimp only
  split
  · rename_i hblank
    exact ⟨fun h _ => h, fun h => h hblank⟩
  · rename_i hblank
    exact iff_of_true (oneLine_singleLine _) fun h => absurd h hblank

/-- The messages of the common error codes are on one line. -/
theorem ErrorVariant.oneLine_of_mem_common {variant : ErrorVariant} (h : variant ∈ common) :
    OneLine variant.message := by
  have hall : (common.all fun variant =>
      variant.message.toList.all fun c => c != '\n' && c != '\r') = true := by
    decide
  exact oneLine_of_all (List.all_eq_true.mp hall variant h)

/-! ### Descriptions -/

/-- A description on one line, if there is one. -/
def DescribedOnOneLine (description : Option String) : Prop :=
  ∀ text ∈ description, OneLine text

/-- So is a description, where there is one. -/
theorem describedOnOneLine_lineOf? (text : Option String) : DescribedOnOneLine (lineOf? text) :=
  fun _ hline => oneLine_of_lineOf? hline

namespace Resolver

variable {r : Resolver}

/-- **The descriptions of fields** are on one line. -/
theorem fieldInvariant_description (r : Resolver) :
    r.FieldInvariant fun f => DescribedOnOneLine f.description where
  made h := by
    obtain ⟨use, -, h⟩ := Outcome.bind_eq_ok.mp h
    obtain ⟨target, -, h⟩ := Outcome.bind_eq_ok.mp h
    cases h
    exact describedOnOneLine_lineOf? _
  apart {f} hf := by
    rw [Endpoint.apart]
    split <;> exact hf
  box hf := hf
  page {name item f} hf := by
    rcases List.mem_cons.mp hf with rfl | hf
    · exact fun _ => nofun
    · rw [List.mem_singleton.mp hf]
      exact fun _ => nofun

/-- **The descriptions of models** are on one line. -/
theorem description_of_models {used : List String} {operations : List ModuleOperation}
    {endpoints : List Endpoint} {models : List Model}
    (hendpoints : r.endpointsFrom used operations = .ok endpoints)
    (h : r.models endpoints = .ok models) : ∀ m ∈ models, DescribedOnOneLine m.description := by
  have hrecords : ∀ e ∈ endpoints, ∀ shape, e.response = some shape →
      r.HasRecord e.typePrefix shape := by
    refine forall_of_endpointsFrom (fun hanalyzed shape hshape => ?_) hendpoints
    have hresponse := hanalyzed.response
    rw [hshape] at hresponse
    exact hasRecord_of_responseShape hresponse
  refine forall_of_models (fun e he shape hshape => ?_) (fun e he shape hshape => ?_)
    (fun _ => describedOnOneLine_lineOf? _) (fun hboxed hplain => hboxed.description ▸ hplain) h
  · obtain ⟨text, htext⟩ := (hrecords e he shape hshape).exists_lineOf?
    exact htext ▸ describedOnOneLine_lineOf? text
  · intro text htext
    rw [← Option.some.inj htext, oneLine_append, oneLine_append]
    refine ⟨⟨oneLine_of_all (by decide), ?_⟩, oneLine_of_all (by decide)⟩
    exact oneLine_of_unpunctuated
      (Model.unpunctuated_of_recordName (hrecords e he shape hshape).recordName)

end Resolver

/-! ### Comments of a view -/

namespace ModuleView

/-- The texts of a document that the templates put into comments. -/
def commentTexts (v : ModuleView) : List String :=
  [v.title, v.version] ++ v.endpoints.flatMap (fun e => [e.path, e.doc]) ++
    v.fields.filterMap (·.description) ++ v.models.filterMap (·.description) ++
      v.errors.map (·.message)

variable {d : Document} {name package : String} {r : Resolver} {v : ModuleView}

/-- **The descriptions of a view** are on one line. -/
theorem description_of_build {m : ApiModule} (h : build m package r = .ok v) :
    (∀ f ∈ v.fields, DescribedOnOneLine f.description) ∧
      ∀ s ∈ v.models, DescribedOnOneLine s.description := by
  refine ⟨r.fieldInvariant_description.of_build h, ?_⟩
  obtain ⟨endpoints, hendpoints, h⟩ := Outcome.bind_eq_ok.mp h
  obtain ⟨models, hmodels, h⟩ := Outcome.bind_eq_ok.mp h
  cases h
  intro s hs
  exact Resolver.description_of_models hendpoints hmodels s (List.mem_filter.mp hs).1

/-- **The messages of a view** are on one line exactly if the names that stand in for blank ones
are. -/
theorem oneLine_messages_iff {m : ApiModule} (h : build m package r = .ok v) :
    (∀ variant ∈ v.errors, OneLine variant.message) ↔
      ∀ e ∈ ErrorVariant.counted [] m.declaredCodes,
        Text.isBlankText e.message.toList = true → OneLine e.name := by
  constructor
  · intro hall e he
    exact (ErrorVariant.oneLine_message_iff _ e).mp
      (hall _ ((mem_errors_iff h).mpr (Or.inl ⟨e, he, rfl⟩)))
  · intro hall variant hvariant
    rcases (mem_errors_iff h).mp hvariant with ⟨e, he, rfl⟩ | ⟨-, hcommon⟩
    · exact (ErrorVariant.oneLine_message_iff _ e).mpr (hall e he)
    · exact ErrorVariant.oneLine_of_mem_common hcommon

/-- **The line of documentation of an operation** of a document. -/
theorem oneLine_doc_iff {o : ModuleOperation} (ho : o ∈ (ApiModule.ofDocument d name).operations)
    {e : Endpoint} (h : e.Presents o) :
    OneLine e.doc ↔ (lineOf? (o.operation.summary.or o.operation.description)).isSome = true ∨
      OneLine o.path := by
  rw [h.doc]
  exact Resolver.oneLine_docOf_iff
    (PathItem.oneLine_of_mem_methods (ApiModule.method_mem_of_mem_ofDocument ho))

/-- **The paths and the documentation of operations** are on one line exactly if the paths are. -/
theorem oneLine_endpoints_iff (h : build (.ofDocument d name) package r = .ok v) :
    (∀ text ∈ v.endpoints.flatMap (fun e => [e.path, e.doc]), OneLine text) ↔
      ∀ o ∈ (ApiModule.ofDocument d name).operations, OneLine o.path := by
  constructor
  · intro hall o ho
    have hpath : o.path ∈ v.endpoints.map (·.path) := map_path_of_build h ▸ List.mem_map_of_mem ho
    obtain ⟨e, he, heq⟩ := List.mem_map.mp hpath
    rw [← heq]
    exact hall _ (List.mem_flatMap.mpr ⟨e, he, List.mem_cons_self⟩)
  · intro hall text htext
    obtain ⟨e, he, htext⟩ := List.mem_flatMap.mp htext
    obtain ⟨o, ho, hpresents⟩ := exists_presents h he
    rcases List.mem_cons.mp htext with rfl | htext
    · rw [hpresents.path]
      exact hall o ho
    · rw [List.mem_singleton.mp htext]
      exact (oneLine_doc_iff ho hpresents).mpr (Or.inr (hall o ho))

/-- **Which texts in comments are on one line.** All descriptions are. The documentation of an
operation is, unless there is no text for it and its path is not, and a message is, unless it is
blank and the name of its code is not. So all texts in comments are on one line exactly if the
title, the version and all paths are, and the names of those error codes that have no message. -/
theorem oneLine_commentTexts_iff (h : build (.ofDocument d name) package r = .ok v) :
    (∀ f ∈ v.fields, DescribedOnOneLine f.description) ∧
      (∀ s ∈ v.models, DescribedOnOneLine s.description) ∧
      List.Forall₂ (fun o e => e.path = o.path ∧
        (OneLine e.doc ↔ (lineOf? (o.operation.summary.or o.operation.description)).isSome = true ∨
          OneLine o.path)) (ApiModule.ofDocument d name).operations v.endpoints ∧
      ((∀ variant ∈ v.errors, OneLine variant.message) ↔
        ∀ e ∈ ErrorVariant.counted [] (ApiModule.ofDocument d name).declaredCodes,
          Text.isBlankText e.message.toList = true → OneLine e.name) ∧
      ((∀ text ∈ v.commentTexts, OneLine text) ↔
        OneLine r.document.info.title ∧ OneLine r.document.info.version ∧
          (∀ o ∈ (ApiModule.ofDocument d name).operations, OneLine o.path) ∧
          ∀ e ∈ ErrorVariant.counted [] (ApiModule.ofDocument d name).declaredCodes,
            Text.isBlankText e.message.toList = true → OneLine e.name) := by
  obtain ⟨hfields, hmodels⟩ := description_of_build h
  refine ⟨hfields, hmodels, ?_, oneLine_messages_iff h, ?_⟩
  · have hall := (List.forall₂_and_left _ _).mpr ⟨fun o ho => ho, forall₂_presents h⟩
    exact hall.imp fun o e hboth => ⟨hboth.2.path, oneLine_doc_iff hboth.1 hboth.2⟩
  · have hfieldTexts : ∀ text ∈ v.fields.filterMap (·.description), OneLine text :=
      List.forall_mem_filterMap.mpr hfields
    have hmodelTexts : ∀ text ∈ v.models.filterMap (·.description), OneLine text :=
      List.forall_mem_filterMap.mpr hmodels
    have hinfo : v.title = r.document.info.title ∧ v.version = r.document.info.version := by
      obtain ⟨endpoints, -, h⟩ := Outcome.bind_eq_ok.mp h
      obtain ⟨models, -, h⟩ := Outcome.bind_eq_ok.mp h
      cases h
      exact ⟨rfl, rfl⟩
    rw [commentTexts, hinfo.1, hinfo.2, ← oneLine_endpoints_iff h, ← oneLine_messages_iff h]
    simp only [List.forall_mem_append, List.forall_mem_cons, List.forall_mem_map]
    constructor
    · rintro ⟨⟨⟨⟨⟨htitle, hversion, -⟩, hoperations⟩, -⟩, -⟩, hmessages⟩
      exact ⟨htitle, hversion, hoperations, hmessages⟩
    · rintro ⟨htitle, hversion, hoperations, hmessages⟩
      exact ⟨⟨⟨⟨⟨htitle, hversion, nofun⟩, hoperations⟩, hfieldTexts⟩, hmodelTexts⟩, hmessages⟩

/-- A document with a title, of one operation at a path that may have a summary, and with one error
code that has no message. -/
def annotated (title path : String) (summary : Option String) (code : String) : Document where
  info := { title, version := "1" }
  paths := [(path, { get := some { tags := ["book"], summary } })]
  errorCodes := [{ code := 40402, name := code }]

/-- A summary of two lines comes on one. -/
theorem oneLine_commentTexts_summary :
    let d := annotated "Shop" "/books" (some "All\nbooks") "NO_BOOK"
    ∃ v, build (.ofDocument d "book") "shop" { document := d } = .ok v ∧
      v.commentTexts = ["Shop", "1", "/books", "All books", "NO_BOOK"] ∧
        ∀ text ∈ v.commentTexts, OneLine text := by
  intro d
  have hview : ((build (.ofDocument d "book") "shop" { document := d }).toOption.map
      commentTexts) = some ["Shop", "1", "/books", "All books", "NO_BOOK"] := by
    decide +kernel
  obtain ⟨v, hv, htexts⟩ := Outcome.exists_of_map_toOption hview
  obtain ⟨-, -, -, -, hall⟩ := oneLine_commentTexts_iff hv
  refine ⟨v, hv, htexts, hall.mpr ⟨oneLine_of_all (by decide), oneLine_of_all (by decide), ?_, ?_⟩⟩
  · intro o ho
    have hpaths : (ApiModule.ofDocument d "book").operations.map (·.path) = ["/books"] := by decide
    have hpath : o.path ∈ ["/books"] := hpaths ▸ List.mem_map_of_mem ho
    rw [List.mem_singleton.mp hpath]
    exact oneLine_of_all (by decide)
  · intro e he _
    have hcodes : (ApiModule.ofDocument d "book").declaredCodes.map (·.name) = ["NO_BOOK"] := by
      decide
    have hname : e.name ∈ ["NO_BOOK"] :=
      hcodes ▸ List.mem_map_of_mem (ErrorVariant.counted_subset _ _ he)
    rw [List.mem_singleton.mp hname]
    exact oneLine_of_all (by decide)

/-- A title of two lines spills from the comments that it stands in. So does a path that stands in
for the documentation of its operation, and the name of an error code that stands in for its
message. -/
theorem not_forall_oneLine_commentTexts :
    (¬ ∀ (d : Document) (name package : String) (r : Resolver) (v : ModuleView),
      build (.ofDocument d name) package r = .ok v → OneLine v.title) ∧
    (¬ ∀ (d : Document) (name package : String) (r : Resolver) (v : ModuleView),
      build (.ofDocument d name) package r = .ok v → ∀ e ∈ v.endpoints, OneLine e.doc) ∧
    ¬ ∀ (d : Document) (name package : String) (r : Resolver) (v : ModuleView),
      build (.ofDocument d name) package r = .ok v →
        ∀ variant ∈ v.errors, OneLine variant.message := by
  let d := annotated "Shop\nand more" "/books\nall" none "NO\nBOOK"
  have hview : ((build (.ofDocument d "book") "shop" { document := d }).toOption.map fun v =>
      (v.title, v.endpoints.map (·.doc), v.errors.map (·.message))) =
        some ("Shop\nand more", ["GET /books\nall"], ["NO\nBOOK"]) := by
    decide +kernel
  obtain ⟨v, hv, htexts⟩ := Outcome.exists_of_map_toOption hview
  rw [Prod.mk.injEq, Prod.mk.injEq] at htexts
  obtain ⟨htitle, hdocs, hmessages⟩ := htexts
  have hbreak : ∀ {text : String}, '\n' ∈ text.toList → ¬ OneLine text :=
    fun hmem hline => (hline '\n' hmem).1 rfl
  refine ⟨fun hall => ?_, fun hall => ?_, fun hall => ?_⟩
  · have hline := hall _ _ _ _ v hv
    rw [htitle] at hline
    exact hbreak (by decide) hline
  · have hdoc : "GET /books\nall" ∈ v.endpoints.map (·.doc) := hdocs ▸ List.mem_cons_self
    obtain ⟨e, he, heq⟩ := List.mem_map.mp hdoc
    have hline := hall _ _ _ _ v hv e he
    rw [heq] at hline
    exact hbreak (by decide) hline
  · have hmessage : "NO\nBOOK" ∈ v.errors.map (·.message) := hmessages ▸ List.mem_cons_self
    obtain ⟨variant, hvariant, heq⟩ := List.mem_map.mp hmessage
    have hline := hall _ _ _ _ v hv variant hvariant
    rw [heq] at hline
    exact hbreak (by decide) hline

end ModuleView

end ServiceGen
