import ResolverHooks.Proofs.Pipeline.Footprint

/-!
How far a run gets, and what it has changed by then. The operations are completed in the order of
the entities; a run that stops for want of a resolver, or of its properties, stops between two of
them.
-/
namespace ResolverHooks

/-- The entities that a run has reached and the operations that it has completed, when it is about
to go on with the next operation or when it has come to its end. -/
inductive Extent (hooked : List Entity) : Option Target → List Entity → List Target → Prop where
  | complete : Extent hooked none hooked (hooked.flatMap Entity.targets)
  | upTo {earlier later : List Entity} {e : Entity} {ts us : List Target} {t : Target} :
      hooked = earlier ++ e :: later → e.targets = ts ++ t :: us →
      Extent hooked (some t) (earlier ++ [e]) (earlier.flatMap Entity.targets ++ ts)

namespace Entity

variable {s : Settings} {e : Entity} {es : List Entity} {pre post : List Job} {t : Target}
  {before after : Option String} {group : String}

theorem isConventional_targets {e : Entity} (h : t ∈ e.targets) : t.IsConventional := by
  obtain ⟨o, _, rfl⟩ := List.mem_map.mp h
  exact ⟨o, e.name, rfl⟩

theorem isConventional_flatMap_targets (h : t ∈ es.flatMap targets) : t.IsConventional := by
  obtain ⟨e, _, ht⟩ := List.mem_flatMap.mp h
  exact isConventional_targets ht

theorem isConventional_jobs {j : Job} (h : j ∈ e.jobs s) : j.IsConventional := by
  intro t ht
  rcases List.mem_append.mp h with h | h
  · obtain ⟨stage, _, rfl⟩ := List.mem_map.mp h
    cases ht
  · obtain ⟨t', ht', rfl⟩ := List.mem_map.mp h
    cases ht
    exact isConventional_targets ht'

/-- What comes before an operation of an entity are its hook steps and its earlier operations. -/
theorem exists_split_jobs (h : e.jobs s = pre ++ .operation t before after group :: post) :
    ∃ ts us, e.targets = ts ++ t :: us ∧ pre = e.hookJobs s ++ ts.map (e.operationJob s) := by
  rcases List.append_eq_append_iff.mp h with ⟨pre', rfl, ho⟩ | ⟨mid, hh, hm⟩
  · obtain ⟨ts, rest, ht, rfl, hr⟩ := List.map_eq_append_iff.mp ho
    obtain ⟨t', us, rfl, hj, _⟩ := List.map_eq_cons_iff.mp hr
    cases hj
    exact ⟨ts, us, ht, rfl⟩
  · cases mid with
    | nil =>
      obtain ⟨t', us, ht, hj, _⟩ := List.map_eq_cons_iff.mp hm.symm
      cases hj
      exact ⟨[], us, ht, by simpa using hh.symm⟩
    | cons j mid =>
      obtain ⟨rfl, _⟩ := List.cons.inj hm
      have hmem : Job.operation t before after group ∈ e.hookJobs s := by simp [hh]
      obtain ⟨_, _, hj⟩ := List.mem_map.mp hmem
      cases hj

/-- What comes before an operation of a run are all jobs of earlier entities, too. -/
theorem exists_split_plan
    (h : es.flatMap (jobs s) = pre ++ .operation t before after group :: post) :
    ∃ earlier e later ts us, es = earlier ++ e :: later ∧ e.targets = ts ++ t :: us ∧
      pre = earlier.flatMap (jobs s) ++ (e.hookJobs s ++ ts.map (e.operationJob s)) := by
  induction es generalizing pre with
  | nil => simp at h
  | cons e es ih =>
    rw [List.flatMap_cons] at h
    rcases List.append_eq_append_iff.mp h with ⟨pre', rfl, hes⟩ | ⟨mid, he, hm⟩
    · obtain ⟨earlier, e', later, ts, us, rfl, ht, rfl⟩ := ih hes
      exact ⟨e :: earlier, e', later, ts, us, rfl, ht, by simp⟩
    · cases mid with
      | nil =>
        obtain ⟨earlier, e', later, ts, us, rfl, ht, hpre⟩ := @ih [] hm.symm
        refine ⟨e :: earlier, e', later, ts, us, rfl, ht, ?_⟩
        rw [List.flatMap_cons, List.append_assoc, ← hpre, he, List.append_nil, List.append_nil]
      | cons j mid =>
        obtain ⟨rfl, _⟩ := List.cons.inj hm
        obtain ⟨ts, us, ht, rfl⟩ := exists_split_jobs he
        exact ⟨[], e, es, ts, us, rfl, ht, by simp⟩

end Entity

namespace Change

/-- What is changed when some entities are reached and some operations are completed. -/
def ofExtent (reached : List Entity) (completed : List Target) : Change where
  dropped := completed.map Target.resolverId
  rebuilt := completed.flatMap Target.rebuilt
  provided := reached.flatMap fun e => e.directive.stages.flatMap (e.directive.provided e.name)

theorem mem_provided_ofExtent {reached : List Entity} {completed : List Target} {id : String} :
    id ∈ (ofExtent reached completed).provided ↔
      ∃ e ∈ reached, ∃ stage ∈ e.directive.stages, id ∈ e.directive.provided e.name stage := by
  simp only [ofExtent, List.mem_flatMap]

theorem isCanonical_ofExtent (reached : List Entity) (completed : List Target) :
    (ofExtent reached completed).IsCanonical := by
  rintro id (hid | hid)
  · obtain ⟨t, _, hid⟩ := List.mem_flatMap.mp hid
    exact exists_canonical_of_mem_rebuilt hid
  · obtain ⟨e, _, stage, _, hid⟩ := mem_provided_ofExtent.mp hid
    exact exists_canonical_of_mem_provided hid

section

variable {g : Graph} {k : ResourceKind} {fs : List (Option String)} {reached : List Entity}
  {completed : List Target}

/-- A compiled resource is changed only where an operation builds it again. -/
theorem spares_canonical (hc : ∀ t ∈ completed, t.IsConventional)
    (hr : LogicalId.canonical k fs ∉ completed.flatMap Target.rebuilt)
    (hg : g.contains (.str (LogicalId.canonical k fs)) = true) :
    (ofExtent reached completed).spares g (.str (LogicalId.canonical k fs)) = true := by
  rw [spares_iff]
  refine ⟨?_, by rw [rebuilds_str, decide_eq_false_iff_not]; exact hr, fun _ => hg⟩
  rw [drops_str, decide_eq_false_iff_not]
  intro hd
  obtain ⟨t, ht, heq⟩ := List.mem_map.mp hd
  obtain ⟨o, entity, ho⟩ := hc t ht
  exact canonical_ne_resolverIdFor k fs o entity (by rw [← heq, ho])

theorem resolverId_not_built (reached : List Entity) (completed : List Target) {t : Target}
    (ht : t.IsConventional) : t.resolverId ∉ (ofExtent reached completed).rebuilt ∧
      t.resolverId ∉ (ofExtent reached completed).provided := by
  obtain ⟨o, entity, ho⟩ := ht
  rw [ho]
  exact not_mem_of_isCanonical (isCanonical_ofExtent reached completed) o entity

/-- The resolver of an operation that is not completed is left alone. -/
theorem spares_resolverIdFor (g : Graph) (reached : List Entity) {o : Operation} {entity : String}
    (hd : Target.resolverIdFor o entity ∉ completed.map Target.resolverId) :
    (ofExtent reached completed).spares g (.str (Target.resolverIdFor o entity)) = true := by
  obtain ⟨hr, hp⟩ := not_mem_of_isCanonical (isCanonical_ofExtent reached completed) o entity
  rw [spares_iff]
  refine ⟨by simpa [ofExtent] using hd, by simpa using hr, fun hprov => ?_⟩
  exact absurd (by simpa using hprov) hp

theorem spares_resolver (g : Graph) (reached : List Entity) {t : Target} (ht : t.IsConventional)
    (hd : t.resolverId ∉ completed.map Target.resolverId) :
    (ofExtent reached completed).spares g (.str t.resolverId) = true := by
  obtain ⟨o, entity, ho⟩ := ht
  rw [ho] at hd ⊢
  exact spares_resolverIdFor g reached hd

end

theorem ofJobs_hookJobs (s : Settings) (e : Entity) :
    ofJobs (e.hookJobs s) = ofExtent [e] [] := by
  simp [ofJobs, ofExtent, Entity.hookJobs, List.flatMap_map, Job.change]

theorem ofJobs_operationJobs (s : Settings) (e : Entity) (ts : List Target) :
    ofJobs (ts.map (e.operationJob s)) = ofExtent [] ts := by
  have hd : ts.flatMap (fun t => [t.resolverId]) = ts.map Target.resolverId :=
    List.map_eq_flatMap.symm
  simp [ofJobs, ofExtent, Entity.operationJob, List.flatMap_map, Job.change, hd]

theorem ofExtent_append (es es' : List Entity) (ts ts' : List Target) :
    ofExtent es ts ++ ofExtent es' ts' = ofExtent (es ++ es') (ts ++ ts') := by
  change Change.mk .. = _
  simp [ofExtent]

theorem ofJobs_plan (s : Settings) (es : List Entity) :
    ofJobs (es.flatMap (Entity.jobs s)) = ofExtent es (es.flatMap Entity.targets) := by
  induction es with
  | nil => rfl
  | cons e es ih =>
    rw [List.flatMap_cons, ofJobs_append, ih, Entity.jobs, Entity.operationJobs, ofJobs_append,
      ofJobs_hookJobs, ofJobs_operationJobs, ofExtent_append, ofExtent_append]
    simp

end Change

/-- What a run leaves behind that has got so far. -/
structure Leaves (reached : List Entity) (completed : List Target) (a a' : Arena) : Prop where
  valid : ∀ e ∈ reached, e.hookOfModel = .ok e.directive
  footprint : Footprint (.ofExtent reached completed) a a'
  /-- The resolvers of other operations are still there, with what is hoisted for them. -/
  pending : ∀ o entity, Target.resolverIdFor o entity ∉ completed.map Target.resolverId →
    a'.graph.find? (.str (Target.resolverIdFor o entity)) =
      a.graph.find? (.str (Target.resolverIdFor o entity)) ∧
    a'.graph.groupOf (.str (Target.resolverIdFor o entity)) =
      a.graph.groupOf (.str (Target.resolverIdFor o entity)) ∧
    a'.hoisted.content? (Target.resolverIdFor o entity) =
      a.hoisted.content? (Target.resolverIdFor o entity)

namespace Compilation

variable {s : Settings} {a a' : Arena} {entities es fs : List Entity} {js : List Job}
  {reached : List Entity} {completed ts us : List Target} {f : CompileFault}
    {e : Entity} {t : Target}
  {r : Resource} {properties : List (Scalar × Value)} {request : Value} {b : Arena}

theorem isConventional_jobs {j : Job} (h : j ∈ es.flatMap (Entity.jobs s)) : j.IsConventional := by
  obtain ⟨e, _, hj⟩ := List.mem_flatMap.mp h
  exact Entity.isConventional_jobs hj

theorem footprint_of_performs (hc : ∀ j ∈ js, j.IsConventional)
    (hj : Change.ofJobs js = .ofExtent reached completed) (h : Performs s js a a') :
    Footprint (.ofExtent reached completed) a a' := hj ▸ footprint_run hc h

/-- Jobs of the entities reached complete the operations, and lead from one arena to the other. -/
def Reaches (s : Settings) (reached : List Entity) (completed : List Target) (a a' : Arena) :
    Prop :=
  ∃ js, (∀ j ∈ js, ∃ e ∈ reached, j ∈ e.jobs s) ∧
    Change.ofJobs js = .ofExtent reached completed ∧ Performs s js a a'

theorem Reaches.footprint (h : Reaches s reached completed a a') :
    Footprint (.ofExtent reached completed) a a' := by
  obtain ⟨js, hjobs, hc, hp⟩ := h
  refine footprint_of_performs (fun j hj => ?_) hc hp
  obtain ⟨e, _, hje⟩ := hjobs j hj
  exact Entity.isConventional_jobs hje

theorem reaches_plan (h : Performs s (es.flatMap (Entity.jobs s)) a a') :
    Reaches s es (es.flatMap Entity.targets) a a' :=
  ⟨_, fun _ hj => List.mem_flatMap.mp hj, Change.ofJobs_plan s es, h⟩

theorem footprint_plan (h : Performs s (es.flatMap (Entity.jobs s)) a a') :
    Footprint (.ofExtent es (es.flatMap Entity.targets)) a a' := (reaches_plan h).footprint

theorem leaves_of_footprint (hv : ∀ e ∈ reached, e.hookOfModel = .ok e.directive)
    (hf : Footprint (.ofExtent reached completed) a a') : Leaves reached completed a a' := by
  refine ⟨hv, hf, fun o entity hid => ?_⟩
  have hs := Change.spares_resolverIdFor a.graph reached hid
  exact ⟨hf.find?_eq hs, hf.groupOf_eq hs, hf.content?_eq hid⟩

/-- A resolver is left alone as long as its operation is not completed. -/
theorem find?_resolver_of_footprint (ht : t.IsConventional)
    (hd : t.resolverId ∉ completed.map Target.resolverId)
    (hf : Footprint (.ofExtent reached completed) a b) :
    b.graph.find? (.str t.resolverId) = a.graph.find? (.str t.resolverId) :=
  hf.find?_eq (Change.spares_resolver a.graph reached ht hd)

/-- Whether a resolver can be wrapped does not depend on what has been done for other operations. -/
theorem wrappable_iff_of_footprint (ht : t.IsConventional)
    (hd : t.resolverId ∉ completed.map Target.resolverId)
    (hf : Footprint (.ofExtent reached completed) a b) :
    Wrappable b t r properties request ↔ Wrappable a t r properties request := by
  have hfind := find?_resolver_of_footprint ht hd hf
  constructor
  · intro hw
    exact { hw with
      present := hfind.symm.trans hw.present
      request_eq := by rw [← hf.content?_eq hd]; exact hw.request_eq }
  · intro hw
    exact { hw with
      present := hfind.trans hw.present
      request_eq := by rw [hf.content?_eq hd]; exact hw.request_eq }

/-- A resolver that can be wrapped has not been dropped before, because nothing that comes before
puts a resolver into its place. -/
theorem not_mem_of_wrappable (ht : t.IsConventional)
    (hf : Footprint (.ofExtent reached completed) a b)
    (hw : Wrappable b t r properties request) : t.resolverId ∉ completed.map Target.resolverId := by
  intro hd
  obtain ⟨hr, hp⟩ := Change.resolverId_not_built reached completed ht
  have hb := (hf.ids (.str t.resolverId)).mp (Graph.contains_iff.mpr ⟨r, hw.present⟩)
  have hdropped : (Change.ofExtent reached completed).drops (.str t.resolverId) = true := by
    simpa [Change.ofExtent] using hd
  simp [hdropped, hr, hp] at hb

/-- An operation whose resolver can be wrapped in the middle of a run could have been wrapped at the
start. -/
theorem wrappable_of_footprint (ht : t.IsConventional)
    (hf : Footprint (.ofExtent reached completed) a b)
    (hw : Wrappable b t r properties request) : Wrappable a t r properties request :=
  (wrappable_iff_of_footprint ht (not_mem_of_wrappable ht hf hw) hf).mp hw

/-- The resolver of an operation that is completed is gone. -/
theorem dropped_of_footprint (ht : t.IsConventional) (hmem : t ∈ completed)
    (hf : Footprint (.ofExtent reached completed) a a') :
    a'.graph.find? (.str t.resolverId) = none ∧ a'.hoisted.contains t.resolverId = false := by
  obtain ⟨hr, hp⟩ := Change.resolverId_not_built reached completed ht
  have hd : t.resolverId ∈ (Change.ofExtent reached completed).dropped :=
    List.mem_map_of_mem hmem
  refine ⟨?_, hf.not_contains_of_dropped hd⟩
  rw [← Option.not_isSome_iff_eq_none, ← Graph.contains_eq_isSome, hf.ids]
  simp [hd, hr, hp]

/-- How far a run has got when the next operation of an entity is due. -/
theorem reaches_upTo (hts : e.targets = ts ++ us)
    (h :
      Performs s (es.flatMap (Entity.jobs s) ++ (e.hookJobs s ++ ts.map (e.operationJob s))) a b) :
    Reaches s (es ++ [e]) (es.flatMap Entity.targets ++ ts) a b := by
  refine ⟨_, fun j hj => ?_, ?_, h⟩
  · rcases List.mem_append.mp hj with hj | hj
    · obtain ⟨e', he', hj⟩ := List.mem_flatMap.mp hj
      exact ⟨e', List.mem_append_left _ he', hj⟩
    · refine ⟨e, by simp, ?_⟩
      rw [Entity.jobs, Entity.operationJobs, hts, List.map_append, ← List.append_assoc]
      exact List.mem_append_left _ hj
  · rw [Change.ofJobs_append, Change.ofJobs_append, Change.ofJobs_plan, Change.ofJobs_hookJobs,
      Change.ofJobs_operationJobs, Change.ofExtent_append, Change.ofExtent_append]
    simp

/-- A run, cut at one of its operations: what comes before it, the operation with what is built, and
what comes after it. -/
theorem performs_split (h : Performs s ((es ++ e :: fs).flatMap (Entity.jobs s)) a a')
    (hts : e.targets = ts ++ t :: us) : ∃ b b' r properties request,
      Footprint (.ofExtent (es ++ [e]) (es.flatMap Entity.targets ++ ts)) a b ∧
      Wrappable b t r properties request ∧
      b'.graph = b.graph.replaced t (s.groupOr e.stack) (s.groupOr e.stack)
        (stepOf s t b.graph (s.groupOr e.stack) r properties request)
        (t.pipelineOn s (e.functions t)) ∧
      Footprint (.ofExtent fs (us ++ fs.flatMap Entity.targets)) b' a' ∧
      Footprint (.ofExtent fs (t :: (us ++ fs.flatMap Entity.targets))) b a' := by
  have hjobs : (es ++ e :: fs).flatMap (Entity.jobs s) =
      (es.flatMap (Entity.jobs s) ++ (e.hookJobs s ++ ts.map (e.operationJob s))) ++
        e.operationJob s t :: (us.map (e.operationJob s) ++ fs.flatMap (Entity.jobs s)) := by
    simp [Entity.jobs, Entity.operationJobs, hts]
  have hconv : ∀ j ∈ (es ++ e :: fs).flatMap (Entity.jobs s), j.IsConventional :=
    fun _ => isConventional_jobs
  rw [hjobs] at h hconv
  obtain ⟨b, hpre, hrest⟩ := performs_append.mp h
  obtain ⟨b', hjob, hpost⟩ := performs_cons.mp hrest
  have hafter : Change.ofJobs (us.map (e.operationJob s) ++ fs.flatMap (Entity.jobs s)) =
      .ofExtent fs (us ++ fs.flatMap Entity.targets) := by
    simp only [Change.ofJobs_append, Change.ofJobs_plan, Change.ofJobs_operationJobs,
      Change.ofExtent_append, List.nil_append]
  have hstep : Change.ofJobs (e.operationJob s t ::
      (us.map (e.operationJob s) ++ fs.flatMap (Entity.jobs s))) =
      .ofExtent fs (t :: (us ++ fs.flatMap Entity.targets)) := by
    rw [Change.ofJobs_cons, hafter]
    rfl
  have hf' := footprint_of_performs (fun j hj => hconv j (by simp [hj])) hafter hpost
  have hf'' := footprint_of_performs (fun j hj => hconv j (List.mem_append_right _ hj)) hstep hrest
  obtain ⟨r, properties, request, hw, rfl⟩ := run_perform_operation hjob
  refine ⟨b, _, r, properties, request, (reaches_upTo hts hpre).footprint, hw, ?_, hf', hf''⟩
  rw [graphAfter, s.groupOr_some_groupOr]
  rfl

/-- The operation that fails comes after the hook steps of its entity, and after the operations
before it are completed. -/
theorem exists_failing_operation
    (h : ((es.flatMap (Entity.jobs s)).forM (Job.perform s)).run a = .error f a') :
    ∃ earlier e later ts us t b before after group,
      es = earlier ++ e :: later ∧ e.targets = ts ++ t :: us ∧
      Reaches s (earlier ++ [e]) (earlier.flatMap Entity.targets ++ ts) a b ∧
      ((Job.operation t before after group).perform s).run b = .error f a' := by
  obtain ⟨pre, j, rest, b, hplan, hb, hj⟩ := exists_failing_job h
  obtain ⟨t, before, after, group, rfl⟩ := operation_of_error hj
  obtain ⟨earlier, e, later, ts, us, hes, ht, rfl⟩ := Entity.exists_split_plan hplan
  exact ⟨earlier, e, later, ts, us, t, b, before, after, group, hes, ht, reaches_upTo ht hb, hj⟩

/-- A run that stops for want of a resolver, or of its properties, leaves what came before. -/
theorem leaves_of_error (h : (transform s entities).run a = .error f a')
    (hd : ∀ d, f ≠ .directive d) (hs : ∀ sf, f ≠ .shape sf) :
    ∃ t reached completed, Extent (entities.filter Entity.isHooked) (some t) reached completed ∧
      Leaves reached completed a a' ∧ Reaches s reached completed a a' ∧
      (a'.graph.find? (.str t.resolverId) = none ∧ f = .absent (.str t.resolverId) ∨
        (∃ r, a'.graph.find? (.str t.resolverId) = some r ∧ r.properties.isNull = true) ∧
          f = .malformed t.resolverId) := by
  obtain ⟨hv, herror⟩ := transform_error h hd
  obtain ⟨earlier, e, later, ts, us, t, b, before, after, group, hes, ht, hreach, hj⟩ :=
    exists_failing_operation herror
  have hreached : ∀ e' ∈ earlier ++ [e], e'.hookOfModel = .ok e'.directive := by
    intro e' he'
    apply hv
    rw [hes]
    rcases List.mem_append.mp he' with he' | he'
    · exact List.mem_append_left _ he'
    · rw [List.mem_singleton.mp he']
      simp
  have hleaves := leaves_of_footprint hreached hreach.footprint
  refine ⟨t, _, _, .upTo hes ht, ?_⟩
  rcases run_perform_operation_error hj with ⟨rfl, hr, hf⟩ | ⟨rfl, hr, hf⟩ | ⟨sf, hf⟩
  · exact ⟨hleaves, hreach, Or.inl ⟨hr, hf⟩⟩
  · exact ⟨hleaves, hreach, Or.inr ⟨hr, hf⟩⟩
  · exact absurd hf (hs sf)

/-- Jobs are performed to the end if every resolver can be wrapped at the start, and is wrapped
once. -/
theorem exists_performs (hw : ∀ t ∈ es.flatMap Entity.targets, CanWrap a t)
    (hd : ((es.flatMap Entity.targets).map Target.resolverId).Nodup) :
    ∃ a', Performs s (es.flatMap (Entity.jobs s)) a a' := by
  cases h : ((es.flatMap (Entity.jobs s)).forM (Job.perform s)).run a with
  | ok _ a' => exact ⟨a', h⟩
  | error f a' =>
    obtain ⟨earlier, e, later, ts, us, t, b, before, after, group, hes, hts, hreach, hj⟩ :=
      exists_failing_operation h
    have hsplit : es.flatMap Entity.targets = (earlier.flatMap Entity.targets ++ ts) ++
        t :: (us ++ later.flatMap Entity.targets) := by
      simp [hes, hts]
    have ht : t.IsConventional := Entity.isConventional_targets (e := e) (by simp [hts])
    have hfresh : t.resolverId ∉ (earlier.flatMap Entity.targets ++ ts).map Target.resolverId := by
      intro hm
      rw [hsplit, List.map_append, List.map_cons] at hd
      exact (List.nodup_append.mp hd).2.2 _ hm _ List.mem_cons_self rfl
    obtain ⟨r, properties, request, hwrap⟩ := hw t (by simp [hsplit])
    rw [run_perform_of_wrappable ((wrappable_iff_of_footprint ht hfresh hreach.footprint).mpr
      hwrap)] at hj
    cases hj

/-- Compiling a valid entity whose resolvers can be wrapped succeeds. -/
theorem compileEntity_succeeds (hv : e.hookOfModel = .ok e.directive)
    (hw : ∀ t ∈ e.targets, CanWrap a t) (hd : (e.targets.map Target.resolverId).Nodup) :
    ∃ a', (compileEntity s e).run a = .ok (e.summary s) a' := by
  obtain ⟨a', h⟩ := @exists_performs s a [e] (by simpa using hw) (by simpa using hd)
  refine ⟨a', ?_⟩
  have hp : Performs s (e.jobs s) a a' := by simpa using h
  rw [compileEntity_eq hv, run_bind_of_ok hp]
  rfl

/-- A run of valid entities whose resolvers can be wrapped succeeds. -/
theorem transform_succeeds
    (hv : ∀ e ∈ entities.filter Entity.isHooked, e.hookOfModel = .ok e.directive)
    (hw : ∀ t ∈ (entities.filter Entity.isHooked).flatMap Entity.targets, CanWrap a t)
    (hd : (((entities.filter Entity.isHooked).flatMap Entity.targets).map
      Target.resolverId).Nodup) :
    ∃ a', (transform s entities).run a =
      .ok ((entities.filter Entity.isHooked).map (Entity.summary s)) a' := by
  obtain ⟨a', h⟩ := exists_performs (s := s) hw hd
  refine ⟨a', ?_⟩
  rw [run_transform hv, plan, run_bind_of_ok h]
  rfl

/-- A run that succeeds has completed every operation of every hooked entity. -/
theorem leaves_of_ok {results : List CompiledEntity}
    (h : (transform s entities).run a = .ok results a') :
    Leaves (entities.filter Entity.isHooked)
      ((entities.filter Entity.isHooked).flatMap Entity.targets) a a' := by
  obtain ⟨hv, _, hp⟩ := transform_ok h
  exact leaves_of_footprint hv (footprint_plan hp)

/-- However a run ends, unless in a fault of a directive or of shape, it has completed the
operations up to some point, and changed what these and the entities reached account for. -/
theorem transform_footprint (s : Settings) (entities : List Entity) (a : Arena) :
    match (transform s entities).run a with
    | .ok _ a' => ∃ reached completed,
        Extent (entities.filter Entity.isHooked) none reached completed ∧
          Leaves reached completed a a'
    | .error (.absent id) a' => ∃ t reached completed,
        Extent (entities.filter Entity.isHooked) (some t) reached completed ∧
          Leaves reached completed a a' ∧ id = .str t.resolverId ∧ a'.graph.find? id = none
    | .error (.malformed id) a' => ∃ t reached completed r,
        Extent (entities.filter Entity.isHooked) (some t) reached completed ∧
          Leaves reached completed a a' ∧ id = t.resolverId ∧
          a'.graph.find? (.str id) = some r ∧ r.properties.isNull = true
    | .error _ _ => True := by
  cases h : (transform s entities).run a with
  | ok results a' => exact ⟨_, _, .complete, leaves_of_ok h⟩
  | error f a' =>
    cases f with
    | directive d => trivial
    | shape sf => trivial
    | absent id =>
      obtain ⟨t, reached, completed, he, hl, _, ⟨hr, hf⟩ | ⟨_, hf⟩⟩ :=
        leaves_of_error h (fun _ => nofun) (fun _ => nofun)
      · cases hf
        exact ⟨t, reached, completed, he, hl, rfl, hr⟩
      · cases hf
    | malformed id =>
      obtain ⟨t, reached, completed, he, hl, _, ⟨_, hf⟩ | ⟨⟨r, hr, hn⟩, hf⟩⟩ :=
        leaves_of_error h (fun _ => nofun) (fun _ => nofun)
      · cases hf
      · cases hf
        exact ⟨t, reached, completed, r, he, hl, rfl, hr, hn⟩

end Compilation

end ResolverHooks
