import ResolverHooks.Proofs.Resource.Graph

/-!
Resources as entries of a template. A graph takes each of them in under its id, and writes it out
again with the attributes that a resource keeps: its type, its properties and its dependencies.
-/
namespace ResolverHooks

namespace Entries

variable {α β : Type} {k : Scalar} {es : List (Scalar × α)}

theorem find?_map (f : α → β) (es : List (Scalar × α)) (k : Scalar) :
    find? k (es.map fun e => (e.1, f e.2)) = (find? k es).map f := by
  induction es with
  | nil => rfl
  | cons e es ih =>
    by_cases he : e.1.same k = true
    · simp [find?, he]
    · simpa [find?, he] using ih

end Entries

namespace Resource

variable {v : Value} {r : Resource} {input : List (Scalar × Value)} {deps : List Value}
    {name : String}

/-- The dependencies that are written: none at all if there are none. -/
def writtenDependencies (deps : List Value) : Option Value :=
  if deps.isEmpty then none else some (.seq deps)

/-- What a resource says of itself in a template that is written, attribute by attribute. -/
structure Keeps (input output : List (Scalar × Value)) : Prop where
  kind : Entries.find? (.str "Type") output =
    some ((Entries.find? (.str "Type") input).getD (.str ""))
  /-- Properties that are null count as missing. -/
  properties : Entries.find? (.str "Properties") output =
    (Entries.find? (.str "Properties") input).filter fun v => !v.isNull
  /-- One text is written as a list of its own. -/
  dependencies : ∃ deps, dependenciesOf (Entries.find? (.str "DependsOn") input) = .ok deps ∧
    Entries.find? (.str "DependsOn") output = writtenDependencies deps
  others : ∀ k, k ≠ .str "Type" → k ≠ .str "Properties" → k ≠ .str "DependsOn" →
    Entries.find? k output = none

/-- The attributes of a resource that is written. -/
def attributes (r : Resource) : List (Scalar × Value) :=
  [(.str "Type", r.kind)] ++
    (if r.properties.isNull then [] else [(.str "Properties", r.properties)]) ++
    (if r.dependsOn.isEmpty then [] else [(.str "DependsOn", .seq r.dependsOn)])

theorem toValue_eq (r : Resource) : r.toValue = .map r.attributes := by
  rw [toValue, Value.object, attributes]
  cases r.properties.isNull <;> cases r.dependsOn.isEmpty <;> rfl

theorem find?_attributes_type (r : Resource) :
    Entries.find? (.str "Type") r.attributes = some r.kind := by
  simp [attributes, Entries.find?]

theorem find?_attributes_properties (r : Resource) :
    Entries.find? (.str "Properties") r.attributes =
      (some r.properties).filter fun v => !v.isNull := by
  cases hn : r.properties.isNull with
  | true =>
    cases hd : r.dependsOn.isEmpty with
    | true => simp [attributes, Entries.find?, Scalar.same, Option.filter, hn, hd]
    | false => simp [attributes, Entries.find?, Scalar.same, Option.filter, hn, hd]
  | false => simp [attributes, Entries.find?, Scalar.same, Option.filter, hn]

theorem find?_attributes_dependencies (r : Resource) :
    Entries.find? (.str "DependsOn") r.attributes = writtenDependencies r.dependsOn := by
  cases hd : r.dependsOn.isEmpty with
  | true =>
    cases hn : r.properties.isNull with
    | true => simp [attributes, Entries.find?, Scalar.same, writtenDependencies, hn, hd]
    | false => simp [attributes, Entries.find?, Scalar.same, writtenDependencies, hn, hd]
  | false =>
    cases hn : r.properties.isNull with
    | true => simp [attributes, Entries.find?, Scalar.same, writtenDependencies, hn, hd]
    | false => simp [attributes, Entries.find?, Scalar.same, writtenDependencies, hn, hd]

/-- A resource has no other attributes. -/
theorem mem_attributes {e : Scalar × Value} (h : e ∈ r.attributes) :
    e = (.str "Type", r.kind) ∨ e = (.str "Properties", r.properties) ∨
      e = (.str "DependsOn", .seq r.dependsOn) := by
  rcases List.mem_append.mp h with h | h
  · rcases List.mem_append.mp h with h | h
    · exact Or.inl (List.mem_singleton.mp h)
    · split at h
      · cases h
      · exact Or.inr (Or.inl (List.mem_singleton.mp h))
  · split at h
    · cases h
    · exact Or.inr (Or.inr (List.mem_singleton.mp h))

theorem find?_attributes_other {k : Scalar} (ht : k ≠ .str "Type") (hp : k ≠ .str "Properties")
    (hd : k ≠ .str "DependsOn") (r : Resource) : Entries.find? k r.attributes = none := by
  cases hf : Entries.find? k r.attributes with
  | none => rfl
  | some v =>
    obtain ⟨k', hk, hm⟩ := Entries.mem_of_find? hf
    rcases mem_attributes hm with he | he | he
    · exact absurd (Scalar.str_same.mp ((Prod.mk.inj he).1 ▸ hk)) ht
    · exact absurd (Scalar.str_same.mp ((Prod.mk.inj he).1 ▸ hk)) hp
    · exact absurd (Scalar.str_same.mp ((Prod.mk.inj he).1 ▸ hk)) hd

/-- A resource that was read is written with what it keeps. -/
theorem keeps_of_ofValue (h : ofValue v = .ok r) :
    ∃ input, v.entries = .ok input ∧ Keeps input r.attributes := by
  rw [ofValue] at h
  cases hv : v.entries with
  | error f =>
    rw [hv] at h
    cases h
  | ok input =>
    rw [hv] at h
    cases hd : dependenciesOf (Entries.find? (.str "DependsOn") input) with
    | error f =>
      simp only [bind, Except.bind, hd] at h
      cases h
    | ok deps =>
      simp only [bind, Except.bind, hd] at h
      obtain rfl := Except.ok.inj h
      refine ⟨input, rfl, find?_attributes_type _, ?_, ⟨deps, hd, find?_attributes_dependencies _⟩,
        fun k ht hp hdep => find?_attributes_other ht hp hdep _⟩
      rw [find?_attributes_properties]
      cases Entries.find? (.str "Properties") input <;> rfl

end Resource

namespace Graph

variable {g g' : Graph} {es : List (Scalar × Value)} {k : Scalar} {v : Value}

/-- Takes resources in, one after another. -/
def takeIn (g : Graph) (es : List (Scalar × Value)) : Except ShapeFault Graph :=
  es.foldlM (fun g (id, v) => return g.insert id (← Resource.ofValue v)) g

theorem takeIn_cons {e : Scalar × Value} (h : g.takeIn (e :: es) = .ok g') :
    ∃ r, Resource.ofValue e.2 = .ok r ∧ (g.insert e.1 r).takeIn es = .ok g' := by
  rw [takeIn, List.foldlM_cons] at h
  cases hr : Resource.ofValue e.2 with
  | error f =>
    simp only [bind, Except.bind, hr] at h
    cases h
  | ok r =>
    simp only [bind, Except.bind, hr] at h
    exact ⟨r, rfl, h⟩

/-- What is not written to stays as it is. -/
theorem find?_takeIn_of_not_mem (h : g.takeIn es = .ok g') (hk : k.key ∉ Entries.keyList es) :
    g'.find? k = g.find? k := by
  induction es generalizing g with
  | nil => rw [Except.ok.inj h]
  | cons e es ih =>
    obtain ⟨r, _, hrest⟩ := takeIn_cons h
    obtain ⟨hne, hk⟩ : k.key ≠ e.1.key ∧ k.key ∉ Entries.keyList es := by
      simpa [Entries.keyList] using hk
    have hsame : e.1.same k = false := by
      rw [← Bool.not_eq_true, Scalar.same_iff]
      exact fun heq => hne heq.symm
    rw [ih hrest hk, find?_insert, hsame]
    rfl

/-- Each resource is there under its id, as it was read. -/
theorem find?_takeIn (h : g.takeIn es = .ok g') (hn : (Entries.keyList es).Nodup)
    (hm : (k, v) ∈ es) : ∃ r, Resource.ofValue v = .ok r ∧ g'.find? k = some r := by
  induction es generalizing g with
  | nil => cases hm
  | cons e es ih =>
    obtain ⟨r, hr, hrest⟩ := takeIn_cons h
    obtain ⟨hnew, hn⟩ : e.1.key ∉ Entries.keyList es ∧ (Entries.keyList es).Nodup := by
      simpa [Entries.keyList] using hn
    rcases List.mem_cons.mp hm with rfl | hm
    · exact ⟨r, hr, by rw [find?_takeIn_of_not_mem hrest hnew, find?_insert_self]⟩
    · exact ih hrest hn hm

/-- Groups are written beside the resources, one after another. -/
theorem assignAll_eq (g : Graph) (groups : List (Scalar × Value)) :
    groups.foldl (fun g (id, group) => g.assign group id) g =
      { g with groups := groups.foldl (fun t e => t.insert e.1 e.2) g.groups } := by
  induction groups generalizing g with
  | nil => rfl
  | cons e groups ih => exact ih _

/-- The resources of a template, none if it names none. -/
def templateResources (template : List (Scalar × Value)) :
    Except ShapeFault (List (Scalar × Value)) :=
  match Entries.find? (.str "Resources") template with
  | some v => v.entriesOrNone
  | none => .ok []

theorem ofTemplate_eq (template : List (Scalar × Value)) (groups : Value) :
    ofTemplate template groups = (do
      let es ← templateResources template
      let g ← empty.takeIn es
      return (← groups.entriesOrNone).foldl (fun g (id, group) => g.assign group id) g) := by
  rw [ofTemplate, templateResources]
  cases Entries.find? (.str "Resources") template <;> rfl

/-- A graph holds each resource of its template. -/
theorem find?_ofTemplate {template : List (Scalar × Value)} {groups : Value}
    (h : ofTemplate template groups = .ok g) (hes : templateResources template = .ok es)
    (hn : (Entries.keyList es).Nodup) (hm : (k, v) ∈ es) :
    ∃ r, Resource.ofValue v = .ok r ∧ g.find? k = some r := by
  rw [ofTemplate_eq, hes] at h
  cases htaken : empty.takeIn es with
  | error f =>
    simp only [bind, Except.bind, htaken] at h
    cases h
  | ok taken =>
    cases hgroups : groups.entriesOrNone with
    | error f =>
      simp only [bind, Except.bind, htaken, hgroups] at h
      cases h
    | ok entries =>
      simp only [bind, Except.bind, htaken, hgroups] at h
      obtain rfl := Except.ok.inj h
      obtain ⟨r, hr, hfound⟩ := find?_takeIn htaken hn hm
      refine ⟨r, hr, ?_⟩
      rw [find?, assignAll_eq]
      exact hfound

/-- What a document says of a resource. -/
def written? (document : Value) (k : Scalar) : Option Value :=
  match document with
  | .map sections =>
    match Entries.find? (.str "Resources") sections with
    | some (.map resources) => Entries.find? k resources
    | _ => none
  | _ => none

/-- The output document says of each resource what it keeps. -/
theorem written?_toValue (g : Graph) (k : Scalar) :
    written? g.toValue k = (g.find? k).map fun r => .map r.attributes := by
  have hsections : written? g.toValue k =
      Entries.find? k (g.resources.entries.map fun e => (e.1, e.2.toValue)) := by
    simp [written?, toValue, Value.object, Entries.find?, resourcesValue]
  rw [hsections, Entries.find?_map Resource.toValue]
  exact congrArg (fun f => (g.find? k).map f) (funext Resource.toValue_eq)

end Graph

end ResolverHooks
