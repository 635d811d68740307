import ResolverHooks.Proofs.Pipeline.Permutation
import ResolverHooks.Proofs.Pipeline.References

/-!
Only what is used is provided. The resources of a function are there because some stage of some
entity runs it, a hook step because some operation does, and every resource that a run adds is led
to from a pipeline: pipelines depend on what they run, hook steps on their data sources or refer to
them, and data sources refer to their roles.
-/
namespace ResolverHooks

open Relation

/-- The names of the compute resources of a function. -/
def Identity.names (i : Identity) : List (ResourceKind × List (Option String)) :=
  [(.role, [some i.name, i.region]), (.dataSource, [some i.name, i.region])]

/-- The names of all that may be built for an entity, also for stages that never run. -/
def Entity.possibleNames (e : Entity) : List (ResourceKind × List (Option String)) :=
  Stage.all.flatMap (e.directive.names e.name) ++ e.targets.flatMap Target.names

/-- What is built for entities is some of what may be. -/
theorem TellApart.of_possible {hooked : List Entity}
    (h : TellApart (hooked.flatMap Entity.possibleNames)) :
    TellApart (hooked.flatMap Entity.names) := by
  refine h.mono fun n hn => ?_
  obtain ⟨e, he, hn⟩ := List.mem_flatMap.mp hn
  refine List.mem_flatMap.mpr ⟨e, he, ?_⟩
  rcases List.mem_append.mp hn with hn | hn
  · obtain ⟨stage, _, hn⟩ := List.mem_flatMap.mp hn
    exact List.mem_append_left _ (List.mem_flatMap.mpr ⟨stage, Stage.mem_all stage, hn⟩)
  · exact List.mem_append_right _ hn

/-- Whether the hook of a stage runs for some operation. -/
def Directive.Runs (d : Directive) (stage : Stage) : Prop := ∃ o, (d.stage stage).enabled o = true

/-- Whether a resource is there after a run that was not there before. -/
def Adds (a a' : Arena) (id : String) : Prop :=
  a.graph.contains (.str id) = false ∧ a'.graph.contains (.str id) = true

/-- Whether a function is used by an entity. -/
def Identity.UsedIn (i : Identity) (hooked : List Entity) : Prop :=
  ∃ e ∈ hooked, e.directive.identity = i ∧ ∃ stage, e.directive.Runs stage

/-- Whether a pipeline of an entity leads to an id. -/
def Graph.IsLedTo (g : Graph) (hooked : List Entity) (id : String) : Prop :=
  ∃ e ∈ hooked, ∃ t ∈ e.targets, ∃ p, g.find? (.str t.pipelineId) = some p ∧
    p.kind = .str resolverKind ∧ propertyOf "Kind" p.stepProperties = .str "PIPELINE" ∧
    ReflTransGen g.LeadsTo (.str t.pipelineId) (.str id)

/-- What a run adds, by what it is used for. -/
structure AddsWhatIsUsed (hooked : List Entity) (a a' : Arena) : Prop where
  /-- The compute resources of a function are added if it is used. -/
  compute : ∀ i : Identity, TellApart (i.names ++ hooked.flatMap Entity.possibleNames) →
    (Adds a a' i.roleId ↔ i.UsedIn hooked) ∧ (Adds a a' i.dataSourceId ↔ i.UsedIn hooked)
  /-- The hook step of a stage is added if it runs. -/
  hookStep : ∀ e ∈ hooked, ∀ stage,
    Adds a a' (e.directive.hookStep e.name stage).id ↔ e.directive.Runs stage
  /-- Whatever is added is led to. -/
  ledTo : ∀ id, Adds a a' id → a'.graph.IsLedTo hooked id

namespace Directive

variable {d : Directive} {stage : Stage}

theorem runs_iff : d.Runs stage ↔ stage ∈ d.stages := by
  rw [mem_stages, Flags.anyEnabled_iff]
  rfl

end Directive

theorem Stage.word_inj {stage stage' : Stage} (h : stage.word = stage'.word) : stage = stage' := by
  cases stage <;> cases stage' <;> first | rfl | exact absurd h (by decide)

namespace Compilation

variable {s : Settings} {hooked entities : List Entity} {a a' : Arena} {e : Entity} {t : Target}
  {stage : Stage} {i : Identity} {id : String} {results : List CompiledEntity}

section

variable (h : Performs s (hooked.flatMap (Entity.jobs s)) a a')

include h

/-- What is added has been made. -/
theorem creates_of_adds (hid : Adds a a' id) :
    (Change.ofExtent hooked (hooked.flatMap Entity.targets)).Creates a.graph id := by
  obtain ⟨hfree, hc⟩ := hid
  obtain ⟨r, hr⟩ := Graph.contains_iff.mp hc
  rcases created_or_found h hr with ⟨id', hid', hcreates⟩ | hold
  · obtain rfl := Scalar.str.inj hid'
    exact hcreates
  · rw [Graph.contains_iff.mpr ⟨r, hold⟩] at hfree
    cases hfree

variable (hnew : ∀ id ∈ (Change.ofExtent hooked (hooked.flatMap Entity.targets)).built,
  a.graph.contains (.str id) = false)

include hnew

/-- What a stage needs that runs is added. -/
theorem adds_of_runs (he : e ∈ hooked) (hstage : stage ∈ e.directive.stages)
    (hid : id ∈ e.directive.provided e.name stage) : Adds a a' id :=
  ⟨hnew id (Change.mem_built_of_stage he hstage hid), contains_provided h he hstage hid⟩

omit hnew in
/-- A compute resource that is added is that of a function that is used. -/
theorem usedIn_of_adds (hnames : TellApart (i.names ++ hooked.flatMap Entity.possibleNames))
    (hx : id = i.roleId ∨ id = i.dataSourceId) (hid : Adds a a' id) : i.UsedIn hooked := by
  rcases creates_of_adds h hid with hrebuilt | ⟨hprovided, _⟩
  · obtain ⟨t, _, hmem⟩ := List.mem_flatMap.mp hrebuilt
    exact absurd hmem (Identity.not_mem_rebuilt hx t)
  · obtain ⟨e, he, stage, hstage, hmem⟩ := Change.mem_provided_ofExtent.mp hprovided
    have hknown : ∀ n ∈ e.directive.names e.name stage,
        n ∈ i.names ++ hooked.flatMap Entity.possibleNames := fun n hn =>
      List.mem_append_right _ (List.mem_flatMap.mpr ⟨e, he, List.mem_append_left _
        (List.mem_flatMap.mpr ⟨stage, Stage.mem_all stage, hn⟩)⟩)
    have hown : ∀ n ∈ i.names, n ∈ i.names ++ hooked.flatMap Entity.possibleNames :=
      fun n hn => List.mem_append_left _ hn
    have hruns : e.directive.Runs stage := Directive.runs_iff.mpr hstage
    refine ⟨e, he, ?_, stage, hruns⟩
    rcases Directive.mem_provided.mp hmem with hrole | hds | hstep
    · rcases hx with rfl | rfl
      · exact (Directive.identity_eq_of_fragments_eq (hnames _ (hown (.role, _) (by
          simp [Identity.names])) _ (hknown (.role, _) (by simp [Directive.names])) hrole)).symm
      · exact absurd hrole (canonical_ne_of_kind_ne _ _ (by decide))
    · rcases hx with rfl | rfl
      · exact absurd hds (canonical_ne_of_kind_ne _ _ (by decide))
      · exact (Directive.identity_eq_of_fragments_eq (hnames _ (hown (.dataSource, _) (by
          simp [Identity.names])) _ (hknown (.dataSource, _) (by simp [Directive.names])) hds)).symm
    · exact absurd hstep (Identity.ne_hookStep_id hx _)

variable (hnames : TellApart (hooked.flatMap Entity.possibleNames))

include hnames

omit hnew in
/-- A hook step that is added runs. -/
theorem runs_of_adds (he : e ∈ hooked)
    (hid : Adds a a' (e.directive.hookStep e.name stage).id) : e.directive.Runs stage := by
  have hmem : (e.directive.hookStep e.name stage).id ∈ e.directive.provided e.name stage :=
    Directive.mem_provided.mpr (Or.inr (Or.inr rfl))
  rcases creates_of_adds h hid with hrebuilt | ⟨hprovided, _⟩
  · obtain ⟨t, ht, hrebuilt⟩ := List.mem_flatMap.mp hrebuilt
    obtain ⟨o, ho⟩ := rootType_of_mem ht
    exact absurd hrebuilt (Directive.not_mem_rebuilt_of_mem_provided hmem ho)
  · obtain ⟨e', he', stage', hstage', hmem'⟩ := Change.mem_provided_ofExtent.mp hprovided
    have hknown : ∀ e ∈ hooked, ∀ stage, ∀ n ∈ e.directive.names e.name stage,
        n ∈ hooked.flatMap Entity.possibleNames := fun e he stage n hn =>
      List.mem_flatMap.mpr ⟨e, he, List.mem_append_left _
        (List.mem_flatMap.mpr ⟨stage, Stage.mem_all stage, hn⟩)⟩
    rcases Directive.mem_provided.mp hmem' with hrole | hds | hstep
    · exact absurd hrole.symm (Identity.ne_hookStep_id (Or.inl rfl) _)
    · exact absurd hds.symm (Identity.ne_hookStep_id (Or.inr rfl) _)
    · have hname := hnames _ (hknown e he stage (.hookStep, _)
        (by simp [Directive.names, Directive.hookStep])) _ (hknown e' he' stage' (.hookStep, _)
        (by simp [Directive.names, Directive.hookStep])) hstep
      obtain ⟨hword, hentity⟩ : stage.word = stage'.word ∧ e.name = e'.name := by
        simp only [Directive.hookStep, Prod.mk.injEq, List.cons.injEq, Option.some.injEq] at hname
        exact ⟨hname.2.1, hname.2.2.1⟩
      obtain rfl := Stage.word_inj hword
      obtain rfl := List.inj_on_of_nodup_map (nodup_names h) he he' hentity
      exact Directive.runs_iff.mpr hstage'

/-- What a stage makes of the graph at the start is what a run leaves. -/
theorem left_of_runs {placed : String} {r : Resource} (he : e ∈ hooked)
    (hstage : stage ∈ e.directive.stages)
    (hmakes : e.directive.Makes s a.graph e.name (s.groupOr e.stack) stage id placed r) :
    a'.graph.find? (.str id) = some r := by
  have hfree := hnew id (Change.mem_built_of_stage he hstage hmakes.mem_provided)
  exact (left_of_stage h hnames.of_possible he hstage hfree hmakes).1

/-- A hook step leads to its data source: in its own group it depends on it, and one of another
group it refers to. -/
theorem hookStep_leadsTo (he : e ∈ hooked) (hstage : stage ∈ e.directive.stages) :
    a'.graph.LeadsTo (.str (e.directive.hookStep e.name stage).id)
      (.str e.directive.identity.dataSourceId) := by
  have hr := left_of_runs h hnew hnames he hstage .hookStep
  have hc := contains_provided h he hstage (Directive.mem_provided.mpr (Or.inr (Or.inl rfl)))
  cases hsame : (a.graph.sharedGroup s e.directive.identity.dataSourceId).same
      (.str (s.groupOr e.stack)) with
  | true =>
    refine .dependency ⟨⟨_, hr, Resource.str_mem_recorded_iff.mpr (Or.inr ?_)⟩, hc⟩
    rw [Graph.mem_linkShared]
    exact ⟨rfl, Value.same_str_iff.mp hsame⟩
  | false =>
    rw [hsame] at hr
    exact .reference hr (HookStep.resource_refersTo_dataSource _ _ _) hc

/-- A data source refers to its role. -/
theorem dataSource_leadsTo (he : e ∈ hooked) (hstage : stage ∈ e.directive.stages) :
    a'.graph.LeadsTo (.str e.directive.identity.dataSourceId)
      (.str e.directive.identity.roleId) :=
  .reference (left_of_runs h hnew hnames he hstage .dataSource)
    (Identity.dataSource_refersTo_role _ _)
    (contains_provided h he hstage (Directive.mem_provided.mpr (Or.inl rfl)))

variable (hfields : ((hooked.flatMap Entity.targets).map Target.field).Nodup)

include hfields

omit hnew in
/-- A pipeline leads to itself and to what it runs. -/
theorem isLedTo_of_functions (he : e ∈ hooked) (ht : t ∈ e.targets)
    (hid : id = t.pipelineId ∨ id ∈ e.functions t) {last : String}
    (hlast : ReflTransGen a'.graph.LeadsTo (.str id) (.str last)) :
    a'.graph.IsLedTo hooked last := by
  obtain ⟨before, after, hturn⟩ := Turn.exists_of_mem he ht
  have hkept := hturn.not_mem_rebuilt hfields hnames.of_possible.targets _
    (Target.mem_rebuilt.mpr (Or.inr rfl))
  refine ⟨e, he, t, ht, _, (find?_pipeline h hturn hkept).1, rfl, rfl, ?_⟩
  rcases hid with rfl | hid
  · exact hlast
  · exact .head (.dependency (pipeline_dependsOn h hturn hkept hid)) hlast

/-- Whatever is added is led to from a pipeline. -/
theorem isLedTo_of_adds (hid : Adds a a' id) : a'.graph.IsLedTo hooked id := by
  rcases creates_of_adds h hid with hrebuilt | ⟨hprovided, _⟩
  · obtain ⟨t, ht, hmem⟩ := List.mem_flatMap.mp hrebuilt
    obtain ⟨e, he, hte⟩ := List.mem_flatMap.mp ht
    rcases Target.mem_rebuilt.mp hmem with rfl | rfl
    · exact isLedTo_of_functions h hnames hfields he hte
        (Or.inr (Entity.mem_functions.mpr (Or.inl rfl))) .refl
    · exact isLedTo_of_functions h hnames hfields he hte (Or.inl rfl) .refl
  · obtain ⟨e, he, stage, hstage, hmem⟩ := Change.mem_provided_ofExtent.mp hprovided
    -- Some operation runs the stage's hook step, from which the compute resources can be reached.
    obtain ⟨o, ho⟩ := Directive.runs_iff.mpr hstage
    have ht : Target.forOperation e.name e.fieldNames o ∈ e.targets :=
      List.mem_map_of_mem (Operation.mem_all o)
    have hrun : (e.directive.hookStep e.name stage).id ∈
        e.functions (Target.forOperation e.name e.fieldNames o) :=
      Entity.mem_functions.mpr (Or.inr ⟨stage, by
        simp only [Target.forOperation, Directive.stepId?, ho, if_true]⟩)
    have hstep : ∀ {last : String}, ReflTransGen a'.graph.LeadsTo
        (.str (e.directive.hookStep e.name stage).id) (.str last) → a'.graph.IsLedTo hooked last :=
      fun hlast => isLedTo_of_functions h hnames hfields he ht (Or.inr hrun) hlast
    have hds := hookStep_leadsTo h hnew hnames he hstage
    have hrole := dataSource_leadsTo h hnew hnames he hstage
    rcases Directive.mem_provided.mp hmem with rfl | rfl | rfl
    · exact hstep (.head hds (.single hrole))
    · exact hstep (.single hds)
    · exact hstep .refl

theorem addsWhatIsUsed_of_performs : AddsWhatIsUsed hooked a a' where
  compute i hi := by
    have hadds : ∀ {x : String}, x = i.roleId ∨ x = i.dataSourceId →
        (Adds a a' x ↔ i.UsedIn hooked) := by
      intro x hx
      refine ⟨usedIn_of_adds h hi hx, ?_⟩
      rintro ⟨e, he, rfl, stage, hruns⟩
      refine adds_of_runs h hnew he (Directive.runs_iff.mp hruns) (Directive.mem_provided.mpr ?_)
      rcases hx with rfl | rfl
      · exact Or.inl rfl
      · exact Or.inr (Or.inl rfl)
    exact ⟨hadds (Or.inl rfl), hadds (Or.inr rfl)⟩
  hookStep e he stage := by
    refine ⟨runs_of_adds h hnames he, fun hruns => ?_⟩
    exact adds_of_runs h hnew he (Directive.runs_iff.mp hruns)
      (Directive.mem_provided.mpr (Or.inr (Or.inr rfl)))
  ledTo _ hid := isLedTo_of_adds h hnew hnames hfields hid

end

/-- A run over operations of different fields, in an arena where what it builds is new, adds only
what is used: the compute resources of functions that run somewhere, the hook steps that run, and
nothing to which no pipeline leads. -/
theorem transform_addsWhatIsUsed (h : (transform s entities).run a = .ok results a')
    (hnew : ∀ id ∈ (Change.ofExtent (entities.filter Entity.isHooked)
      ((entities.filter Entity.isHooked).flatMap Entity.targets)).built,
        a.graph.contains (.str id) = false)
    (hfields : (((entities.filter Entity.isHooked).flatMap Entity.targets).map Target.field).Nodup)
    (hnames : TellApart ((entities.filter Entity.isHooked).flatMap Entity.possibleNames)) :
    AddsWhatIsUsed (entities.filter Entity.isHooked) a a' :=
  addsWhatIsUsed_of_performs (transform_ok h).2.2 hnew hnames hfields

/-- A run over two entities with the same function, which never runs for the second one. -/
theorem transform_addsWhatIsUsed_audited : ∃ results a',
    (transform {} [.audited "Todo", .idle "Note"]).run (.storing ["Todo", "Note"]) =
        .ok results a' ∧
      AddsWhatIsUsed [.audited "Todo", .idle "Note"] (.storing ["Todo", "Note"]) a' ∧
      Adds (.storing ["Todo", "Note"]) a' (LogicalId.role "audit" none) ∧
      ¬ Adds (.storing ["Todo", "Note"]) a' (LogicalId.hookStep "before" "Note" "audit" none) ∧
      a'.graph.IsLedTo [.audited "Todo", .idle "Note"] (LogicalId.role "audit" none) := by
  obtain ⟨a', h⟩ := @transform_succeeds {} (.storing ["Todo", "Note"])
    [.audited "Todo", .idle "Note"] (by decide +kernel) (by decide +kernel) (by decide +kernel)
  have hadds := transform_addsWhatIsUsed h (by decide +kernel) (by decide +kernel)
    (tellApart_of_nodup (by decide +kernel))
  have hhooked : [Entity.audited "Todo", .idle "Note"].filter Entity.isHooked =
      [.audited "Todo", .idle "Note"] := by
    rw [List.filter_eq_self]
    decide
  rw [hhooked] at hadds
  have hrole : Adds (.storing ["Todo", "Note"]) a' (LogicalId.role "audit" none) := by
    refine (hadds.compute ⟨"audit", none⟩ (tellApart_of_nodup (by decide +kernel))).1.mpr ?_
    exact ⟨.audited "Todo", by simp, by decide +kernel, .before, .create, by decide +kernel⟩
  refine ⟨_, a', h, hadds, hrole, fun hstep => ?_, hadds.ledTo _ hrole⟩
  obtain ⟨o, ho⟩ := (hadds.hookStep (.idle "Note") (by simp) .before).mp hstep
  have hoff : ∀ o ∈ Operation.all,
      ((Entity.idle "Note").directive.stage .before).enabled o = false := by decide +kernel
  rw [hoff o (Operation.mem_all o)] at ho
  cases ho

end Compilation

end ResolverHooks
