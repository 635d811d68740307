import ResolverHooks.Pipeline.Request
import ResolverHooks.Proofs.Document.Checked
import ResolverHooks.Proofs.Resource.Template
import ResolverHooks.Proofs.Yaml.Reading
import ResolverHooks.Workspace.Loading

/-!
Compiled output that is read back. The output document is written as JSON and read as YAML. The
graph comes back with its resources and groups in their order, but for the doubles in its properties
that are written without a point: these come back as texts. Keys that are too long for simple keys
make the output unreadable.
-/
namespace ResolverHooks

namespace Value

variable {v : Value} {es : List (Scalar × Value)}

/-- A text of basic characters. -/
def IsLabel (v : Value) : Prop := ∃ s, v = .str s ∧ IsBasicText s

theorem IsLabel.isDocument (h : v.IsLabel) : v.IsDocument Scalar.IsData := by
  obtain ⟨s, rfl, hs⟩ := h
  exact .scalar hs

theorem IsLabel.reread_eq (h : v.IsLabel) : v.reread = v := by
  obtain ⟨s, rfl, _⟩ := h
  rfl

theorem isNull_reread (v : Value) : v.reread.isNull = v.isNull := by
  cases v with
  | scalar s =>
    cases s with
    | float d =>
      rw [reread, Scalar.reread]
      cases d.hasPoint <;> rfl
    | _ => rfl
  | _ => rfl

theorem entries_of_isFinite (h : (Value.map es).isFinite = true) :
    (Value.map es).entries = .ok es := by
  rw [entries, entriesOf_of_haveFiniteValues h]

theorem entriesOrNone_of_isFinite (h : (Value.map es).isFinite = true) :
    (Value.map es).entriesOrNone = .ok es := by
  rw [entriesOrNone, entries_of_isFinite h]
  cases es <;> rfl

/-- The values of a finite mapping are finite. -/
theorem isFinite_of_mem (h : (Value.map es).isFinite = true) {e : Scalar × Value} (he : e ∈ es) :
    e.2.isFinite = true := by
  rw [isFinite, haveFiniteValues_eq, List.all_eq_true] at h
  exact h e he

end Value

namespace Resource

variable {r : Resource}

/-- Resources with the attributes of a JSON document. -/
structure IsPlain (r : Resource) : Prop where
  kind : r.kind.IsLabel
  properties : r.properties.IsDocument Scalar.IsData
  dependsOn : ∀ dep ∈ r.dependsOn, dep.IsLabel

/-- The resource that is read in place of one. -/
def reread (r : Resource) : Resource := { r with properties := r.properties.reread }

theorem nodup_attributes (r : Resource) : (Entries.keyList r.attributes).Nodup := by
  cases hn : r.properties.isNull <;> cases hd : r.dependsOn.isEmpty <;>
    simp [attributes, Entries.keyList, hn, hd]

theorem IsPlain.isDocument (h : r.IsPlain) : r.toValue.IsDocument Scalar.IsData := by
  rw [toValue_eq]
  refine .map ?_ r.nodup_attributes ?_
  · intro e he
    rcases mem_attributes he with rfl | rfl | rfl
    · exact ⟨_, rfl, by decide⟩
    · exact ⟨_, rfl, by decide⟩
    · exact ⟨_, rfl, by decide⟩
  · intro e he
    rcases mem_attributes he with rfl | rfl | rfl
    · exact h.kind.isDocument
    · exact h.properties
    · exact .seq fun dep hdep => (h.dependsOn dep hdep).isDocument

theorem IsPlain.reread_toValue (h : r.IsPlain) : r.toValue.reread = r.reread.toValue := by
  have hdeps : r.dependsOn.map Value.reread = r.dependsOn :=
    List.map_congr_left (fun dep hdep => (h.dependsOn dep hdep).reread_eq) |>.trans (List.map_id _)
  rw [toValue_eq, toValue_eq, Value.reread, Value.rereadEntries_eq, attributes, attributes, reread,
    Value.isNull_reread]
  cases r.properties.isNull <;> cases r.dependsOn.isEmpty <;>
    simp [Value.reread, Value.rereadItems_eq, hdeps, h.kind.reread_eq]

/-- A resource is read from its attributes. -/
theorem ofValue_toValue (h : r.toValue.isFinite = true) : ofValue r.toValue = .ok r := by
  rw [toValue_eq] at h ⊢
  have hdeps : dependenciesOf (writtenDependencies r.dependsOn) = .ok r.dependsOn := by
    rw [writtenDependencies]
    cases hd : r.dependsOn.isEmpty with
    | true =>
      rw [List.isEmpty_iff.mp hd]
      rfl
    | false =>
      have hmem : (.str "DependsOn", .seq r.dependsOn) ∈ r.attributes := by simp [attributes, hd]
      exact congrArg Except.ok (Value.itemsOf_of_areFinite (Value.isFinite_of_mem h hmem))
  have hproperties : ((some r.properties).filter fun v => !v.isNull).getD .null = r.properties := by
    cases hp : r.properties with
    | scalar s => cases s <;> rfl
    | _ => rfl
  rw [ofValue, Value.entries_of_isFinite h]
  simp only [bind, Except.bind, find?_attributes_dependencies, hdeps, find?_attributes_type,
    find?_attributes_properties, hproperties]
  rfl

end Resource

namespace Graph

variable {g : Graph} {t : Files} {p : Path} {bytes : List UInt8}

/-- Graphs of basic texts and of JSON properties, which may be null. -/
structure IsPlain (g : Graph) : Prop where
  ids : ∀ e ∈ g.resources.entries, ∃ id, e.1 = .str id ∧ IsBasicText id
  resources : ∀ e ∈ g.resources.entries, e.2.IsPlain
  grouped : ∀ e ∈ g.groups.entries, ∃ id, e.1 = .str id ∧ IsBasicText id
  groups : ∀ e ∈ g.groups.entries, e.2.IsLabel

/-- The graph that is read in place of one. -/
def reread (g : Graph) : Graph := { g with resources := g.resources.map Resource.reread }

/-- The sections of the output document. -/
def sections (g : Graph) : List (Scalar × Value) :=
  [(.str "Resources", g.resourcesValue), (.str "StackMapping", .map g.groups.entries)]

theorem toValue_eq (g : Graph) : g.toValue = .map g.sections := rfl

theorem resourcesValue_eq (g : Graph) :
    g.resourcesValue = .map (g.resources.entries.map fun e => (e.1, e.2.toValue)) := rfl

theorem IsPlain.isDocument (h : g.IsPlain) : g.toValue.IsDocument Scalar.IsData := by
  have hresources : g.resourcesValue.IsDocument Scalar.IsData := by
    rw [resourcesValue_eq]
    refine .map ?_ ?_ ?_
    · intro e' he'
      obtain ⟨e, he, rfl⟩ := List.mem_map.mp he'
      exact h.ids e he
    · rw [Entries.keyList_map Resource.toValue]
      exact g.resources.nodup
    · intro e' he'
      obtain ⟨e, he, rfl⟩ := List.mem_map.mp he'
      exact (h.resources e he).isDocument
  have hgroups : (Value.map g.groups.entries).IsDocument Scalar.IsData :=
    .map h.grouped g.groups.nodup fun e he => (h.groups e he).isDocument
  rw [toValue_eq]
  refine .map ?_ (by simp [sections, Entries.keyList]) ?_
  · intro e he
    rcases List.mem_pair.mp he with rfl | rfl
    · exact ⟨_, rfl, by decide⟩
    · exact ⟨_, rfl, by decide⟩
  · intro e he
    rcases List.mem_pair.mp he with rfl | rfl
    · exact hresources
    · exact hgroups

theorem IsPlain.reread_toValue (h : g.IsPlain) : g.toValue.reread = g.reread.toValue := by
  have hresources : g.resourcesValue.reread = g.reread.resourcesValue := by
    rw [resourcesValue_eq, resourcesValue_eq, Value.reread, Value.rereadEntries_eq, reread,
      Table.map, List.map_map, List.map_map]
    exact congrArg Value.map (List.map_congr_left fun e he =>
      congrArg (Prod.mk e.1) (h.resources e he).reread_toValue)
  have hgroups : (Value.map g.groups.entries).reread = .map g.groups.entries := by
    rw [Value.reread, Value.rereadEntries_eq]
    refine congrArg Value.map ((List.map_congr_left fun e he => ?_).trans (List.map_id _))
    exact congrArg (Prod.mk e.1) (h.groups e he).reread_eq
  rw [toValue_eq, toValue_eq, sections, sections, Value.reread]
  simp only [Value.rereadEntries, hresources, hgroups]
  rfl

/-- Resources are taken in from the values that they are written as. -/
theorem takeIn_toValue {es : List (Scalar × Resource)}
    (h : ∀ e ∈ es, Resource.ofValue e.2.toValue = .ok e.2) :
    g.takeIn (es.map fun e => (e.1, e.2.toValue)) =
      .ok { g with resources := es.foldl (fun t e => t.insert e.1 e.2) g.resources } := by
  induction es generalizing g with
  | nil => rfl
  | cons e es ih =>
    rw [takeIn, List.map_cons, List.foldlM_cons]
    simp only [h e List.mem_cons_self, bind, Except.bind, pure, Except.pure]
    exact ih fun e' he => h e' (List.mem_cons_of_mem e he)

/-- A graph is read from its sections. -/
theorem ofTemplate_sections (h : g.toValue.isFinite = true) :
    ofTemplate g.sections (.map g.groups.entries) = .ok g := by
  rw [toValue_eq] at h
  have hresources : g.resourcesValue.isFinite = true := Value.isFinite_of_mem h List.mem_cons_self
  have hgroups : (Value.map g.groups.entries).isFinite = true :=
    Value.isFinite_of_mem h (List.mem_cons_of_mem _ List.mem_cons_self)
  rw [resourcesValue_eq] at hresources
  have hread : ∀ e ∈ g.resources.entries, Resource.ofValue e.2.toValue = .ok e.2 := by
    intro e he
    have hmem := List.mem_map_of_mem (f := fun e : Scalar × Resource => (e.1, e.2.toValue)) he
    exact Resource.ofValue_toValue (Value.isFinite_of_mem hresources hmem)
  have htemplate : templateResources g.sections =
      .ok (g.resources.entries.map fun e => (e.1, e.2.toValue)) :=
    Value.entriesOrNone_of_isFinite hresources
  rw [ofTemplate_eq, htemplate]
  simp only [bind, Except.bind, takeIn_toValue hread,
    Value.entriesOrNone_of_isFinite hgroups, assignAll_eq]
  refine congrArg Except.ok (congrArg₂ Graph.mk (Table.ext_entries ?_) (Table.ext_entries ?_))
  · exact Table.entries_writeAll (t := Table.empty) g.resources.nodup
  · exact Table.entries_writeAll (t := Table.empty) g.groups.nodup

/-! Files with the output document. -/

theorem loadGraph_of_read (hbytes : t.read p = .ok bytes) (hread : Yaml.read bytes = .ok g.toValue)
    (hfinite : g.toValue.isFinite = true) : t.loadGraph p = .ok g := by
  have hentries : g.toValue.entries = .ok g.sections := Value.entries_of_isFinite hfinite
  have hmapping : t.readMapping p = .ok g.sections := by
    rw [Files.readMapping, Files.readDocument, hbytes]
    simp only [mapError_ok, bind, Except.bind, hread, hentries]
  rw [Files.loadGraph, hmapping]
  exact congrArg (Except.mapError Failure.shape) (ofTemplate_sections hfinite)

theorem loadGraph_of_malformed (hbytes : t.read p = .ok bytes)
    (hread : Yaml.read bytes = .error .malformed) :
    t.loadGraph p = .error (.document (.unparsable p)) := by
  rw [Files.loadGraph, Files.readMapping, Files.readDocument, hbytes]
  simp only [mapError_ok, mapError_error, bind, Except.bind, hread]
  rfl

/-- What is read from a file with the output document of a graph. -/
theorem IsPlain.loadGraph_dump (hg : g.IsPlain) (ht : g.toValue.hasText = true) :
    ∃ text, g.dump = .ok text ∧ ∀ (t : Files) (p : Path), t.read p = .ok (Text.encode text) →
      t.loadGraph p =
        if g.toValue.hasShortKeys then .ok g.reread else .error (.document (.unparsable p)) := by
  have hjson := hg.isDocument.isJson ht
  obtain ⟨cs, hcs⟩ := Json.exists_chars hjson 0
  refine ⟨String.ofList cs, by rw [dump, Json.text, hcs]; rfl, fun t p hbytes => ?_⟩
  have hread := Yaml.read_encode hjson rfl hcs
  cases hshort : g.toValue.hasShortKeys with
  | true =>
    rw [hshort, hg.reread_toValue] at hread
    exact loadGraph_of_read hbytes hread (hg.reread_toValue ▸ hjson.isFinite)
  | false =>
    rw [hshort] at hread
    exact loadGraph_of_malformed hbytes hread

/-- The output document is not written at all if an integer has too many digits. -/
theorem IsPlain.dump_tooLong (hg : g.IsPlain) (ht : g.toValue.hasText = false) :
    g.dump = .error .tooLong := by
  rw [dump, Json.text, Json.chars_tooLong hg.isDocument ht]
  rfl

/-- The graph that is read is the one written exactly if its doubles show what they are. -/
theorem IsPlain.reread_eq_iff (hg : g.IsPlain) (ht : g.toValue.hasText = true) :
    g.reread = g ↔ g.toValue.isPlainlyReal = true := by
  have hjson := hg.isDocument.isJson ht
  rw [← hjson.reread_eq_iff, hg.reread_toValue]
  refine ⟨congrArg toValue, fun h => ?_⟩
  have hfinite : g.reread.toValue.isFinite = true := hg.reread_toValue ▸ hjson.isFinite
  have hsections : g.reread.sections = g.sections := Value.map.inj h
  have hsame := (ofTemplate_sections hfinite).symm.trans
    ((congrArg (ofTemplate · (.map g.groups.entries)) hsections).trans
      (ofTemplate_sections (h ▸ hfinite)))
  exact Except.ok.inj hsame

/-- A graph is written, and any file with its output document is read as the graph itself. -/
def ReadsBack (g : Graph) : Prop :=
  ∃ text, g.dump = .ok text ∧
    ∀ (t : Files) (p : Path), t.read p = .ok (Text.encode text) → t.loadGraph p = .ok g

/-- There is a file with any bytes. -/
theorem exists_file (bytes : List UInt8) : ∃ (t : Files) (p : Path), t.read p = .ok bytes := by
  let t : Files := ⟨[(["graph.json"], bytes)], [], []⟩
  let p : Path := ⟨.slash, ["graph.json"]⟩
  have hresolve : t.resolve p = .ok ["graph.json"] := by
    have htext : p.text = "/graph.json" := by decide +kernel
    rw [Files.resolve, htext, String.contains_char_eq, if_neg (by decide), if_neg (by decide)]
    rfl
  exact ⟨t, p, by rw [Files.read, hresolve]; rfl⟩

theorem IsPlain.readsBack_iff_of_hasText (hg : g.IsPlain) (ht : g.toValue.hasText = true) :
    g.ReadsBack ↔ g.toValue.hasShortKeys = true ∧ g.toValue.isPlainlyReal = true := by
  obtain ⟨text, hdump, hload⟩ := hg.loadGraph_dump ht
  rw [← hg.reread_eq_iff ht]
  constructor
  · rintro ⟨text', hdump', hback⟩
    obtain rfl := Except.ok.inj (hdump.symm.trans hdump')
    obtain ⟨t, p, hbytes⟩ := exists_file (Text.encode text)
    have hsame := (hload t p hbytes).symm.trans (hback t p hbytes)
    cases hshort : g.toValue.hasShortKeys with
    | true =>
      rw [hshort] at hsame
      exact ⟨rfl, Except.ok.inj hsame⟩
    | false =>
      rw [hshort] at hsame
      cases hsame
  · rintro ⟨hshort, hsame⟩
    refine ⟨text, hdump, fun t p hbytes => ?_⟩
    rw [hload t p hbytes, hshort, hsame]
    rfl

/-- A graph reads back exactly if its integers have texts, its keys may be simple keys, and its
doubles are written with a point. -/
theorem readsBack_iff (hg : g.IsPlain) :
    g.ReadsBack ↔ g.toValue.hasText = true ∧ g.toValue.hasShortKeys = true ∧
      g.toValue.isPlainlyReal = true := by
  cases ht : g.toValue.hasText with
  | true => simp [hg.readsBack_iff_of_hasText ht]
  | false =>
    simp only [Bool.false_eq_true, false_and, iff_false]
    rintro ⟨text, hdump, _⟩
    cases (hg.dump_tooLong ht).symm.trans hdump

/-- A table and its key, with a limit among the properties of the table. -/
def limited (limit : Double) : Graph where
  resources := .ofList [
    (.str "TodoKey", ⟨.str "AWS::KMS::Key", .null, []⟩),
    (.str "TodoTable", ⟨.str "AWS::DynamoDB::Table",
      .object [("Limits", .seq [.float limit, .int (-7), .null]), ("Größe", .str "no\n\"yes\"")],
      [.str "TodoKey"]⟩)]
  groups := .ofList [(.str "TodoTable", .str "Storage")]

theorem isPlain_limited {limit : Double} (h : limit.isFinite = true) : (limited limit).IsPlain where
  ids := by
    intro e he
    rcases List.mem_pair.mp he with rfl | rfl
    · exact ⟨_, rfl, by decide⟩
    · exact ⟨_, rfl, by decide⟩
  resources := by
    intro e he
    rcases List.mem_pair.mp he with rfl | rfl
    · exact ⟨⟨_, rfl, by decide⟩, .scalar trivial, fun dep hdep => absurd hdep List.not_mem_nil⟩
    · refine ⟨⟨_, rfl, by decide⟩, .map ?_ (by simp [Entries.keyList]) ?_, fun dep hdep => ?_⟩
      · intro e he
        rcases List.mem_pair.mp he with rfl | rfl
        · exact ⟨"Limits", rfl, by decide⟩
        · exact ⟨"Größe", rfl, by decide⟩
      · intro e he
        rcases List.mem_pair.mp he with rfl | rfl
        · refine .seq ?_
          rintro v (_ | ⟨_, _ | ⟨_, _ | ⟨_, hv⟩⟩⟩)
          · exact .scalar h
          · exact .scalar trivial
          · exact .scalar trivial
          · cases hv
        · exact .scalar (show IsBasicText _ by decide)
      · obtain rfl := List.mem_singleton.mp hdep
        exact ⟨_, rfl, by decide⟩
  grouped := by
    intro e he
    obtain rfl := List.mem_singleton.mp he
    exact ⟨_, rfl, by decide⟩
  groups := by
    intro e he
    obtain rfl := List.mem_singleton.mp he
    exact ⟨_, rfl, by decide⟩

/-- A limit of one half is read as the number that it is. -/
theorem readsBack_half : (limited (.ofFraction false 1 2)).IsPlain ∧
    (limited (.ofFraction false 1 2)).ReadsBack := by
  have hplain : (limited (.ofFraction false 1 2)).IsPlain := isPlain_limited (by decide +kernel)
  exact ⟨hplain,
    (readsBack_iff hplain).mpr ⟨by decide +kernel, by decide +kernel, by decide +kernel⟩⟩

/-- A limit of ten to the sixteenth is not: its text has an exponent, and no point. -/
theorem large_not_readsBack : (limited (.ofFraction false (Nat.pow 10 16) 1)).IsPlain ∧
    ¬(limited (.ofFraction false (Nat.pow 10 16) 1)).ReadsBack := by
  have hplain : (limited (.ofFraction false (Nat.pow 10 16) 1)).IsPlain :=
    isPlain_limited (by decide +kernel)
  refine ⟨hplain, fun hback => ?_⟩
  have hpoints := ((hplain.readsBack_iff_of_hasText (by decide +kernel)).mp hback).2
  exact absurd hpoints (by decide +kernel)

end Graph

end ResolverHooks
