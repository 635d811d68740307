import ResolverHooks.Proofs.Document.Checked
import ResolverHooks.Proofs.Resource.Template
import ResolverHooks.Proofs.Workspace.Reload

/-!
How the loading of a document fails. A loader tells its failures as faults of the document, but for
those that it does not expect: a path with a null character, a stream that fails as something else
than malformed YAML, and values without the shape that the loader goes on to use.
-/
namespace ResolverHooks

section

variable {α β ε : Type} {x : Except Failure α} {k : α → Except Failure β}

/-- Results that are values, or else faults of a document. -/
def Reports (x : Except Failure α) : Prop := ∀ f, x = .error f → ∃ fault, f = .document fault

theorem reports_ok (a : α) : Reports (.ok a) := fun _ h => absurd h.symm error_ne_ok

theorem reports_error_iff {f : Failure} :
    Reports (.error f : Except Failure α) ↔ ∃ fault, f = .document fault :=
  ⟨fun h => h f rfl, fun h _ hf => Except.error.inj hf ▸ h⟩

/-- What follows a step counts only for the values of the step. -/
theorem reports_bind_iff : Reports (x >>= k) ↔ Reports x ∧ ∀ a, x = .ok a → Reports (k a) := by
  cases x with
  | ok a =>
    refine ⟨fun h => ⟨reports_ok a, ?_⟩, fun h => h.2 a rfl⟩
    rintro _ ⟨⟩
    exact h
  | error f =>
    refine ⟨fun h => ⟨reports_error_iff.mpr (reports_error_iff.mp h), fun a ha =>
      absurd ha error_ne_ok⟩, fun h => ?_⟩
    exact reports_error_iff.mpr (reports_error_iff.mp h.1)

theorem reports_mapError_document (x : Except ε α) (fault : ε → DocumentFault) :
    Reports (x.mapError fun e => .document (fault e)) := by
  cases x with
  | ok a => exact reports_ok a
  | error e => exact reports_error_iff.mpr ⟨_, rfl⟩

/-- Faults of shape are not told of the document. -/
theorem reports_mapError_shape_iff {x : Except ShapeFault α} :
    Reports (x.mapError .shape) ↔ ∃ a, x = .ok a := by
  cases x with
  | ok a => exact iff_of_true (reports_ok a) ⟨a, rfl⟩
  | error f =>
    refine iff_of_false (fun h => ?_) ?_
    · obtain ⟨_, hf⟩ := reports_error_iff.mp h
      cases hf
    · rintro ⟨a, ⟨⟩⟩

end

/-! The shapes that loaders use without a check. -/

namespace Value

variable {v : Value}

/-- Values from which a resource is read: mappings whose dependencies, if they give any, can be
listed. -/
def IsResource (v : Value) : Prop := ∃ attributes, v.entries = .ok attributes ∧
  ∀ deps, Entries.find? (.str "DependsOn") attributes = some deps →
    ∃ members, deps.members = .ok members

theorem exists_dependenciesOf_iff {deps : Option Value} :
    (∃ xs, Resource.dependenciesOf deps = .ok xs) ↔ ∀ v, deps = some v →
      ∃ members, v.members = .ok members := by
  cases deps with
  | none => exact iff_of_true ⟨[], rfl⟩ (by rintro v ⟨⟩)
  | some v =>
    have hmembers : (∃ xs, Resource.dependenciesOf (some v) = .ok xs) ↔
        ∃ members, v.members = .ok members := by
      unfold Resource.dependenciesOf
      split
      · rename_i h
        cases h
      · rename_i s h
        cases h
        exact iff_of_true ⟨_, rfl⟩ ⟨_, rfl⟩
      · rename_i h
        cases h
        rfl
    rw [hmembers]
    exact ⟨fun h _ hv => Option.some.inj hv ▸ h, fun h => h v rfl⟩

theorem exists_ofValue_iff : (∃ r, Resource.ofValue v = .ok r) ↔ v.IsResource := by
  rw [Resource.ofValue, exists_bind_eq_ok_iff]
  refine exists_congr fun attributes => and_congr_right fun _ => ?_
  rw [exists_bind_eq_ok_iff, ← exists_dependenciesOf_iff]
  exact exists_congr fun deps => and_iff_left ⟨_, rfl⟩

/-- Only a value that is there and counts as present has to be a mapping. -/
theorem exists_entriesOrNone_iff {v? : Option Value}
    {p : List (Scalar × Value) → Prop} (hp : p []) :
    (∃ es, (v?.getD .null).entriesOrNone = .ok es ∧ p es) ↔
      ∀ v, v? = some v → v.isTruthy = true → ∃ es, v.entries = .ok es ∧ p es := by
  cases v? with
  | none => exact iff_of_true ⟨[], rfl, hp⟩ (by rintro v ⟨⟩)
  | some v =>
    simp only [Option.getD_some, Option.some.injEq, forall_eq', entriesOrNone]
    cases v.isTruthy with
    | true => simp
    | false => exact iff_of_true ⟨[], rfl, hp⟩ fun h => absurd h Bool.false_ne_true

end Value

namespace Graph

variable {g : Graph} {es sections : List (Scalar × Value)}

/-- Sections from which a graph is read. -/
structure IsReadable (sections : List (Scalar × Value)) : Prop where
  resources : ∀ v, Entries.find? (.str "Resources") sections = some v → v.isTruthy = true →
    ∃ es, v.entries = .ok es ∧ ∀ e ∈ es, e.2.IsResource
  groups : ∀ v, Entries.find? (.str "StackMapping") sections = some v → v.isTruthy = true →
    ∃ es, v.entries = .ok es

theorem exists_takeIn_iff : (∃ g', g.takeIn es = .ok g') ↔ ∀ e ∈ es, e.2.IsResource := by
  induction es generalizing g with
  | nil => exact iff_of_true ⟨g, rfl⟩ (List.forall_mem_nil _)
  | cons e es ih =>
    rw [takeIn, List.foldlM_cons, exists_bind_eq_ok_iff, List.forall_mem_cons,
      ← Value.exists_ofValue_iff]
    constructor
    · rintro ⟨g', hstep, htaken⟩
      obtain ⟨r, hr, _⟩ := exists_bind_eq_ok_iff.mp ⟨g', hstep⟩
      exact ⟨⟨r, hr⟩, ih.mp htaken⟩
    · rintro ⟨⟨r, hr⟩, hes⟩
      exact ⟨g.insert e.1 r, bind_eq_ok_iff.mpr ⟨r, hr, rfl⟩, ih.mpr hes⟩

/-- A graph is read exactly if resources and groups have their shapes. -/
theorem exists_ofTemplate_iff :
    (∃ g, ofTemplate sections ((Entries.find? (.str "StackMapping") sections).getD .null) = .ok g) ↔
      IsReadable sections := by
  have htemplate : templateResources sections =
      ((Entries.find? (.str "Resources") sections).getD .null).entriesOrNone := by
    rw [templateResources]
    cases Entries.find? (.str "Resources") sections <;> rfl
  have hresources := @Value.exists_entriesOrNone_iff (Entries.find? (.str "Resources") sections)
    (fun es => ∀ e ∈ es, e.2.IsResource) (List.forall_mem_nil _)
  have hgroups := @Value.exists_entriesOrNone_iff (Entries.find? (.str "StackMapping") sections)
    (fun _ => True) trivial
  simp only [and_true] at hgroups
  rw [ofTemplate_eq, htemplate, exists_bind_eq_ok_iff]
  constructor
  · rintro ⟨es, hes, h⟩
    obtain ⟨g, hg, h⟩ := exists_bind_eq_ok_iff.mp h
    obtain ⟨groups, hread, _⟩ := exists_bind_eq_ok_iff.mp h
    exact ⟨hresources.mp ⟨es, hes, exists_takeIn_iff.mp ⟨g, hg⟩⟩, hgroups.mp ⟨groups, hread⟩⟩
  · rintro ⟨hr, hg⟩
    obtain ⟨es, hes, hall⟩ := hresources.mpr hr
    obtain ⟨groups, hread⟩ := hgroups.mpr hg
    obtain ⟨g, htaken⟩ := exists_takeIn_iff.mpr hall
    exact ⟨es, hes, exists_bind_eq_ok_iff.mpr
      ⟨g, htaken, exists_bind_eq_ok_iff.mpr ⟨groups, hread, _, rfl⟩⟩⟩

end Graph

namespace Request

variable {r : Request}

/-- Requests whose resources, if they count as present, can be counted. -/
def IsCountable (r : Request) : Prop :=
  ∀ v, Entries.find? (.str resourcesKey) r.template = some v → v.isTruthy = true →
    ∃ members, v.members = .ok members

theorem exists_checkCountable_iff : (∃ u, r.checkCountable = .ok u) ↔ r.IsCountable := by
  rw [checkCountable, IsCountable]
  cases Entries.find? (.str resourcesKey) r.template with
  | none => exact iff_of_true ⟨(), rfl⟩ (by rintro v ⟨⟩)
  | some v =>
    simp only [Option.getD_some, Option.some.injEq, forall_eq']
    cases v.isTruthy with
    | false => exact iff_of_true ⟨(), rfl⟩ fun h => absurd h Bool.false_ne_true
    | true =>
      simp only [if_true, forall_const, exists_bind_eq_ok_iff]
      exact exists_congr fun members => and_iff_left ⟨(), rfl⟩

end Request

namespace Files

variable {t : Files} {p : Path} {es : List (Scalar × Value)}

/-- Following names never meets a null character. -/
theorem follow_ne_nullCharacter (t : Files) (here : Place) (names : List String) :
    t.follow here names ≠ .error .nullCharacter := by
  induction names generalizing here with
  | nil => rintro ⟨⟩
  | cons name names ih =>
    rw [follow]
    split
    · split <;> rintro ⟨⟩
    · split
      · rintro ⟨⟩
      · exact ih _

theorem read_eq_nullCharacter_iff :
    t.read p = .error .nullCharacter ↔ p.text.contains '\x00' = true := by
  rw [read, resolve]
  cases p.text.contains '\x00' with
  | true => simp [bind, Except.bind]
  | false =>
    simp only [Bool.false_eq_true, if_false, iff_false]
    split
    · rintro ⟨⟩
    · -- Neither following the names nor looking up the place that they lead to gives this fault.
      intro h
      cases hplace : t.follow (if p.isAbsolute then [] else t.working) p.names with
      | error f =>
        rw [hplace] at h
        exact t.follow_ne_nullCharacter _ _
          (hplace.trans (congrArg Except.error (Except.error.inj h)))
      | ok place =>
        rw [hplace] at h
        simp only [bind, Except.bind] at h
        split at h
        · cases h
        · split at h <;> cases h

/-- Files that are read, found to be no YAML, or not read because of where their path leads. -/
structure CanParse (t : Files) (p : Path) : Prop where
  path : p.text.contains '\x00' = false
  stream : ∀ bytes, t.read p = .ok bytes → ∀ f, Yaml.read bytes = .error f → f = .malformed

/-- A file with a mapping of these entries. -/
def Holds (t : Files) (p : Path) (es : List (Scalar × Value)) : Prop :=
  ∃ bytes, t.read p = .ok bytes ∧ ∃ v, Yaml.read bytes = .ok v ∧ v.entries = .ok es

theorem reports_unreadable_iff :
    Reports ((t.read p).mapError (unreadable p)) ↔ p.text.contains '\x00' = false := by
  rw [← Bool.not_eq_true, ← @read_eq_nullCharacter_iff t p]
  cases t.read p with
  | ok bytes => exact iff_of_true (reports_ok bytes) (by rintro ⟨⟩)
  | error f =>
    simp only [mapError_error, reports_error_iff, unreadable, Except.error.injEq]
    split <;> simp [*]

theorem reports_unparsable_iff {bytes : List UInt8} :
    Reports ((Yaml.read bytes).mapError fun f =>
        if f = .malformed then .document (.unparsable p) else .yaml f) ↔
      ∀ f, Yaml.read bytes = .error f → f = .malformed := by
  cases Yaml.read bytes with
  | ok v => exact iff_of_true (reports_ok v) (by rintro f ⟨⟩)
  | error f =>
    simp only [mapError_error, reports_error_iff, Except.error.injEq, forall_eq']
    split <;> simp [*]

theorem readDocument_eq_ok_iff {v : Value} :
    t.readDocument p = .ok v ↔ ∃ bytes, t.read p = .ok bytes ∧ Yaml.read bytes = .ok v := by
  simp only [readDocument, bind_eq_ok_iff, mapError_eq_ok_iff]

theorem readMapping_eq_ok_iff : t.readMapping p = .ok es ↔ t.Holds p es := by
  simp only [readMapping, bind_eq_ok_iff, mapError_eq_ok_iff, readDocument_eq_ok_iff, Holds]
  constructor
  · rintro ⟨v, ⟨bytes, hbytes, hv⟩, hes⟩
    exact ⟨bytes, hbytes, v, hv, hes⟩
  · rintro ⟨bytes, hbytes, v, hv, hes⟩
    exact ⟨v, ⟨bytes, hbytes, hv⟩, hes⟩

/-- That a document is no mapping is always told. -/
theorem reports_readMapping_iff : Reports (t.readMapping p) ↔ t.CanParse p := by
  rw [readMapping, readDocument, reports_bind_iff, reports_bind_iff, reports_unreadable_iff]
  simp only [mapError_eq_ok_iff, reports_unparsable_iff]
  exact ⟨fun h => ⟨h.1.1, h.1.2⟩, fun h =>
    ⟨⟨h.path, h.stream⟩, fun v _ => reports_mapError_document _ _⟩⟩

theorem reports_loadRequest_iff : Reports (t.loadRequest p) ↔ t.CanParse p ∧
    ∀ es r, t.Holds p es → Request.check (.map es) = .ok r → r.IsCountable := by
  rw [loadRequest, reports_bind_iff, reports_readMapping_iff]
  refine and_congr_right fun _ => forall_congr' fun es => ?_
  simp only [readMapping_eq_ok_iff, reports_bind_iff, mapError_eq_ok_iff,
    reports_mapError_shape_iff, Request.exists_checkCountable_iff]
  constructor
  · exact fun h r hes hr => ((h hes).2 r hr).1
  · exact fun h hes =>
      ⟨reports_mapError_document _ _, fun r hr => ⟨h r hes hr, fun _ _ => reports_ok r⟩⟩

theorem reports_loadGraph_iff : Reports (t.loadGraph p) ↔ t.CanParse p ∧
    ∀ es, t.Holds p es → Graph.IsReadable es := by
  rw [loadGraph, reports_bind_iff, reports_readMapping_iff]
  refine and_congr_right fun _ => forall_congr' fun es => ?_
  rw [readMapping_eq_ok_iff, reports_mapError_shape_iff, Graph.exists_ofTemplate_iff]

/-- Loading fails with a fault of the document, if at all, exactly where the file can be parsed and
what it holds has the shape that the loader goes on to use. -/
theorem loading_reports_iff (t : Files) (p : Path) :
    (Reports (t.loadRequest p) ↔ t.CanParse p ∧
      ∀ es r, t.Holds p es → Request.check (.map es) = .ok r → r.IsCountable) ∧
    (Reports (t.loadGraph p) ↔ t.CanParse p ∧ ∀ es, t.Holds p es → Graph.IsReadable es) :=
  ⟨reports_loadRequest_iff, reports_loadGraph_iff⟩

/-- A file of one byte that is in no text. -/
theorem undecodable_escapes : ∃ (t : Files) (p : Path), t.read p = .ok [0xFF] ∧
    ¬ Reports (t.loadRequest p) ∧ ¬ Reports (t.loadGraph p) := by
  obtain ⟨t, p, hbytes⟩ := Graph.exists_file [0xFF]
  have hfault : Yaml.read [0xFF] = .error .undecodable := by rfl
  have hnot : ¬ t.CanParse p := fun h =>
    absurd (h.stream [0xFF] hbytes .undecodable hfault) (by decide)
  exact ⟨t, p, hbytes, fun h => hnot (reports_loadRequest_iff.mp h).1,
    fun h => hnot (reports_loadGraph_iff.mp h).1⟩

end Files

end ResolverHooks
