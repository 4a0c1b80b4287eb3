import ServiceGen.Proofs.StructFields

/-!
# Path Parameters

An operation has one parameter for each placeholder of its path. Its identifier is that of the
placeholder, unless the generated functions use that one themselves: then `_param` is put behind
it (`apartIdent`). That keeps a parameter apart from what the functions use, but not from another
placeholder whose identifier already ends like that.

## Main results

* `nodup_ident_pathParams_iff`: **the parameters of a path** are its placeholders, and when they
  have distinct identifiers.
* `not_forall_nodup_ident_pathParams`: distinct placeholders may have parameters of one
  identifier.
-/

namespace ServiceGen

namespace Endpoint

/-! ### Identifiers apart from those in use -/

/-- An identifier apart from those that the generated functions use. -/
def apartIdent (ident : String) : String :=
  if usedIdents.contains ident then ident ++ "_param" else ident

/-- An identifier in use is set apart by a suffix. -/
theorem apartIdent_of_mem {ident : String} (h : ident ∈ usedIdents) :
    apartIdent ident = ident ++ "_param" :=
  if_pos (List.contains_iff_mem.mpr h)

/-- Any other stays as it is. -/
theorem apartIdent_of_not_mem {ident : String} (h : ident ∉ usedIdents) :
    apartIdent ident = ident :=
  if_neg (mt List.contains_iff_mem.mp h)

/-- A field keeps its name on the wire and gets an identifier apart. -/
theorem name_and_ident_apart (f : Field) :
    (apart f).name = f.name ∧ (apart f).ident = apartIdent f.ident := by
  rw [apart, apartIdent]
  split <;> exact ⟨rfl, rfl⟩

/-- What is checked of each identifier in use: with the ending it is not in use. -/
theorem usedIdents_check :
    (usedIdents.all fun ident => !usedIdents.contains (ident ++ "_param")) = true := by
  decide

/-- **An identifier apart is not in use.** -/
theorem apartIdent_not_mem (ident : String) : apartIdent ident ∉ usedIdents := by
  by_cases h : ident ∈ usedIdents
  · rw [apartIdent_of_mem h]
    simpa using List.all_eq_true.mp usedIdents_check ident h
  · rwa [apartIdent_of_not_mem h]

/-- **Which identifiers fall together**: one that is in use, and what it gives way to. -/
theorem apartIdent_eq_iff {a b : String} :
    apartIdent a = apartIdent b ↔
      a = b ∨ (a ∈ usedIdents ∧ b = a ++ "_param") ∨ (b ∈ usedIdents ∧ a = b ++ "_param") := by
  by_cases ha : a ∈ usedIdents <;> by_cases hb : b ∈ usedIdents
  · have hother : ∀ {c d : String}, c ∈ usedIdents → d ∈ usedIdents → c ≠ d ++ "_param" := by
      rintro _ d hc hd rfl
      rw [← apartIdent_of_mem hd] at hc
      exact apartIdent_not_mem d hc
    rw [apartIdent_of_mem ha, apartIdent_of_mem hb, String.append_left_inj]
    simp [hother ha hb, hother hb ha]
  · rw [apartIdent_of_mem ha, apartIdent_of_not_mem hb]
    have hne : a ≠ b := fun heq => hb (heq ▸ ha)
    simp [ha, hb, hne, eq_comm]
  · rw [apartIdent_of_not_mem ha, apartIdent_of_mem hb]
    have hne : a ≠ b := fun heq => ha (heq ▸ hb)
    simp [ha, hb, hne]
  · rw [apartIdent_of_not_mem ha, apartIdent_of_not_mem hb]
    simp [ha, hb]

/-- **When identifiers stay distinct**: if none of them is in use while another is what it gives
way to. -/
theorem nodup_map_apartIdent_iff {idents : List String} :
    (idents.map apartIdent).Nodup ↔
      idents.Nodup ∧ ∀ ident ∈ usedIdents, ident ∈ idents → ident ++ "_param" ∉ idents := by
  constructor
  · intro h
    refine ⟨h.of_map, fun ident hused hmem hother => ?_⟩
    have heq := List.inj_on_of_nodup_map h hmem hother
      (apartIdent_eq_iff.mpr (Or.inr (Or.inl ⟨hused, rfl⟩)))
    have hnot := apartIdent_not_mem ident
    rw [apartIdent_of_mem hused, ← heq] at hnot
    exact hnot hused
  · rintro ⟨hnodup, hapart⟩
    refine List.Nodup.map_on (fun a ha b hb heq => ?_) hnodup
    rcases apartIdent_eq_iff.mp heq with heq | ⟨hused, rfl⟩ | ⟨hused, rfl⟩
    · exact heq
    · exact absurd hb (hapart a hused ha)
    · exact absurd ha (hapart b hused hb)

end Endpoint

/-! ### Parameters of an operation -/

namespace Resolver

variable {r : Resolver}

/-- A field keeps the name of its parameter. -/
theorem name_of_fieldOf {name : String} {schema : Option Schema} {required : Bool}
    {location : FieldLocation} {description : Option String} {depth : Nat} {f : Field}
    (h : r.fieldOf name schema required location description depth = .ok f) : f.name = name := by
  obtain ⟨type, -, h⟩ := Outcome.bind_eq_ok.mp h
  obtain ⟨target, -, h⟩ := Outcome.bind_eq_ok.mp h
  cases h
  rfl

/-- **The fields of a path**: one for each placeholder, in order, under the name on the wire and
under its identifier apart from those in use. -/
theorem map_name_and_ident_of_pathFields {path : String} {declared fields : List Field}
    (hdeclared : ∀ f ∈ declared, f.ident = fieldIdentifier f.name)
    (h : r.pathFields path declared = .ok fields) :
    fields.map (fun f => (f.name, f.ident)) =
      (PathTemplate.placeholders path).map fun name =>
        (name, Endpoint.apartIdent (fieldIdentifier name)) := by
  obtain ⟨plain, hplain, h⟩ := Outcome.bind_eq_ok.mp h
  cases h
  rw [List.map_map]
  refine Outcome.map_of_mapM_eq_ok (fun name f hf => ?_) hplain
  have hmade : f.name = name ∧ f.ident = fieldIdentifier name := by
    split at hf
    · rename_i field hfind
      cases hf
      have hname : f.name = name := by simpa using List.find?_some hfind
      exact ⟨hname, hname ▸ hdeclared f (List.mem_of_find?_eq_some hfind)⟩
    · have hname := name_of_fieldOf hf
      exact ⟨hname, hname ▸ ident_of_fieldOf hf⟩
  obtain ⟨hname, hident⟩ := Endpoint.name_and_ident_apart f
  rw [Function.comp_apply, hname, hident, hmade.1, hmade.2]

/-- **The parameters of a path.** There is one for each placeholder, in order, under its name on
the wire, and none has an identifier that the generated functions use. The identifiers are distinct
exactly if those of the placeholders are, and none of these is in use while another one is what it
gives way to. -/
theorem nodup_ident_pathParams_iff {method path methodName : String} {op : Operation}
    {e : Endpoint} (h : r.endpointNamed method path op methodName = .ok e) :
    e.pathParams.map (·.name) = PathTemplate.placeholders path ∧
      (∀ f ∈ e.pathParams, f.ident ∉ Endpoint.usedIdents) ∧
      ((e.pathParams.map (·.ident)).Nodup ↔
        ((PathTemplate.placeholders path).map fieldIdentifier).Nodup ∧
          ∀ ident ∈ Endpoint.usedIdents,
            ident ∈ (PathTemplate.placeholders path).map fieldIdentifier →
              ident ++ "_param" ∉ (PathTemplate.placeholders path).map fieldIdentifier) := by
  obtain ⟨⟨inPath, queryParams⟩, hparameters, h⟩ := Outcome.bind_eq_ok.mp h
  obtain ⟨pathParams, hpath, h⟩ := Outcome.bind_eq_ok.mp h
  obtain ⟨bodyFields, -, h⟩ := Outcome.bind_eq_ok.mp h
  obtain ⟨response, -, h⟩ := Outcome.bind_eq_ok.mp h
  cases h
  obtain ⟨hdeclared, -⟩ := forall_of_parameterFields ident_of_fieldOf hparameters
  have hpairs := map_name_and_ident_of_pathFields hdeclared hpath
  have hnames : pathParams.map (·.name) = PathTemplate.placeholders path := by
    simpa [Function.comp_def] using congrArg (List.map Prod.fst) hpairs
  have hidents : pathParams.map (·.ident) =
      ((PathTemplate.placeholders path).map fieldIdentifier).map Endpoint.apartIdent := by
    simpa [Function.comp_def] using congrArg (List.map Prod.snd) hpairs
  refine ⟨hnames, fun f hf => ?_, ?_⟩
  · have hmem : f.ident ∈ pathParams.map (·.ident) := List.mem_map_of_mem hf
    rw [hidents] at hmem
    obtain ⟨ident, -, heq⟩ := List.mem_map.mp hmem
    exact heq ▸ Endpoint.apartIdent_not_mem ident
  · rw [hidents]
    exact Endpoint.nodup_map_apartIdent_iff

/-- The placeholders `ctx`, `path` and `name` have parameters of distinct identifiers. -/
theorem nodup_ident_pathParams_session :
    ∃ e, ({ document := {} } : Resolver).endpointNamed "GET" "/sessions/{ctx}/files/{path}/{name}"
        {} "get" = .ok e ∧
      e.pathParams.map (·.ident) = ["ctx_param", "path_param", "name"] ∧
        (e.pathParams.map (·.ident)).Nodup := by
  have hendpoint : ((({ document := {} } : Resolver).endpointNamed "GET"
      "/sessions/{ctx}/files/{path}/{name}" {} "get").toOption.map
        fun e => e.pathParams.map (·.ident)) = some ["ctx_param", "path_param", "name"] := by
    decide
  obtain ⟨e, he, hidents⟩ := Outcome.exists_of_map_toOption hendpoint
  obtain ⟨-, -, hiff⟩ := nodup_ident_pathParams_iff he
  exact ⟨e, he, hidents, hiff.mpr ⟨by decide, by decide⟩⟩

/-- The placeholder `ctx` gives way to `ctx_param`, which is another placeholder. -/
theorem not_forall_nodup_ident_pathParams : ¬ ∀ (r : Resolver) (method path : String)
    (op : Operation) (e : Endpoint), r.endpoint method path op = .ok e →
      ((PathTemplate.placeholders path).map fieldIdentifier).Nodup →
        (e.pathParams.map (·.ident)).Nodup := by
  intro hall
  have hendpoint : ((({ document := {} } : Resolver).endpoint "GET"
      "/sessions/{ctx}/files/{ctx_param}" {}).toOption.map
        fun e => e.pathParams.map (·.ident)) = some ["ctx_param", "ctx_param"] := by
    decide
  obtain ⟨e, he, hidents⟩ := Outcome.exists_of_map_toOption hendpoint
  have hnodup := hall _ _ _ _ e he (by decide)
  rw [hidents] at hnodup
  exact absurd hnodup (by decide)

end Resolver

end ServiceGen
