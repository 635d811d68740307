import ResolverHooks.Proofs.Naming.Field
import ResolverHooks.Proofs.Pipeline.Extent

/-!
How a run ends. All hooks are read before anything is changed. After that, each operation finds its
resolver as it was at the start, unless an earlier entity of the same name has consumed it, so that
the end of a run can be told from the arena at its start.
-/
namespace ResolverHooks

namespace Value

theorem find?_carryEntries (whole : Value) (level : Nat) (k : Scalar) (es : List (Scalar × Value)) :
    Entries.find? k (carryEntries whole level es) =
      (Entries.find? k es).map (carry whole level) := by
  induction es with
  | nil => rfl
  | cons e es ih =>
    simp only [carryEntries, Entries.find?]
    split
    · rfl
    · exact ih

/-- A scalar property is what a mapping lists. -/
theorem propertyOf_entriesOf {name : String} {es : List (Scalar × Value)} {k : Scalar}
    (h : propertyOf name es = .scalar k) : propertyOf name (entriesOf es) = .scalar k := by
  rw [entriesOf]
  split
  · exact h
  · rw [propertyOf, find?_carryEntries]
    rw [propertyOf] at h
    cases hfind : Entries.find? (.str name) es with
    | none =>
      rw [hfind] at h
      exact h
    | some v =>
      rw [hfind] at h
      obtain rfl : v = .scalar k := h
      rfl

end Value

/-- A resolver whose dependencies are texts and whose properties, unless they are missing, are a
mapping with a text as the request template, if with any. -/
structure Resource.IsReadable (r : Resource) : Prop where
  dependsOn : ∀ dep ∈ r.dependsOn, ∃ id, dep = .str id
  properties : r.properties = .null ∨ ∃ es, r.properties = .map es ∧
    (propertyOf requestKey es = .null ∨ ∃ text, propertyOf requestKey es = .str text)

namespace Entity

/-- How an operation of an entity fails that comes after other entities. -/
def fault? (e : Entity) (g : Graph) (earlier : List Entity) (t : Target) : Option CompileFault :=
  if earlier.any fun e' => e'.name == e.name then some (.absent (.str t.resolverId))
  else match g.find? (.str t.resolverId) with
    | none => some (.absent (.str t.resolverId))
    | some r => if r.properties.isNull then some (.malformed t.resolverId) else none

/-- How the first operation fails that does, of entities that come after others. -/
def firstFault? (g : Graph) (earlier : List Entity) : List Entity → Option CompileFault
  | [] => none
  | e :: later =>
    (e.targets.findSome? (e.fault? g earlier)).or (firstFault? g (earlier ++ [e]) later)

variable {e e' : Entity} {earlier later : List Entity} {g : Graph}
    {ts us : List Target} {t : Target}
  {o : Operation}

/-- A resolver has been consumed when its turn comes exactly if an earlier entity has the same
name. -/
theorem consumed_iff (hts : e.targets = ts ++ t :: us) :
    t.resolverId ∈ (earlier.flatMap targets ++ ts).map Target.resolverId ↔
      (earlier.any fun e' => e'.name == e.name) = true := by
  obtain ⟨o, ho⟩ := mem_targets_iff.mp (show t ∈ e.targets by simp [hts])
  have hown : t.resolverId ∉ ts.map Target.resolverId := by
    intro hm
    have hd := nodup_resolverIds_targets e
    rw [hts, List.map_append, List.map_cons] at hd
    exact (List.nodup_append.mp hd).2.2 _ hm _ List.mem_cons_self rfl
  rw [List.map_append, List.mem_append, or_iff_left hown, List.map_flatMap, List.mem_flatMap,
    List.any_eq_true, ho]
  apply exists_congr
  intro e'
  rw [resolverIds_targets, List.mem_map, beq_iff_eq]
  constructor
  · rintro ⟨he', o', _, heq⟩
    exact ⟨he', (Target.resolverIdFor_inj.mp heq).2⟩
  · rintro ⟨he', heq⟩
    exact ⟨he', o, Operation.mem_all o, Target.resolverIdFor_inj.mpr ⟨rfl, heq⟩⟩

theorem fault?_eq_none_iff : e.fault? g earlier t = none ↔ (∀ e' ∈ earlier, e'.name ≠ e.name) ∧
    ∃ r, g.find? (.str t.resolverId) = some r ∧ r.properties.isNull = false := by
  rw [fault?]
  split
  · rename_i h
    obtain ⟨e', he', hname⟩ := List.any_eq_true.mp h
    simp only [reduceCtorEq, false_iff, not_and]
    exact fun hall => absurd (beq_iff_eq.mp hname) (hall e' he')
  · rename_i h
    have hall : ∀ e' ∈ earlier, e'.name ≠ e.name := by
      intro e' he' hname
      exact h (List.any_eq_true.mpr ⟨e', he', beq_iff_eq.mpr hname⟩)
    cases hr : g.find? (.str t.resolverId) with
    | none => simp
    | some r => simpa using fun _ => hall

/-- No operation fails exactly if names are different and every resolver is there, with
properties. -/
theorem firstFault?_eq_none_iff : firstFault? g earlier later = none ↔
    (∀ e ∈ later, ∀ e' ∈ earlier, e'.name ≠ e.name) ∧ (later.map name).Nodup ∧
      ∀ e ∈ later, ∀ o, ∃ r, g.find? (.str (Target.resolverIdFor o e.name)) = some r ∧
        r.properties.isNull = false := by
  induction later generalizing earlier with
  | nil => simp [firstFault?]
  | cons e later ih =>
    have htargets : (∀ t ∈ e.targets, e.fault? g earlier t = none) ↔
        (∀ e' ∈ earlier, e'.name ≠ e.name) ∧
          ∀ o, ∃ r, g.find? (.str (Target.resolverIdFor o e.name)) = some r ∧
            r.properties.isNull = false := by
      simp only [fault?_eq_none_iff, mem_targets_iff]
      constructor
      · intro h
        exact ⟨(h _ ⟨.create, rfl⟩).1, fun o => (h _ ⟨o, rfl⟩).2⟩
      · rintro ⟨hname, hr⟩ t ⟨o, rfl⟩
        exact ⟨hname, hr o⟩
    rw [firstFault?, Option.or_eq_none_iff, List.findSome?_eq_none_iff, htargets, ih]
    simp only [List.mem_append, List.mem_singleton, List.forall_mem_cons, List.map_cons,
      List.nodup_cons, List.mem_map, not_exists, not_and]
    constructor
    · rintro ⟨⟨hname, hr⟩, hnames, hnodup, hrs⟩
      exact ⟨⟨hname, fun e' he' e'' he'' => hnames e' he' e'' (Or.inl he'')⟩,
        ⟨fun e' he' heq => hnames e' he' e (Or.inr rfl) heq.symm, hnodup⟩, hr, hrs⟩
    · rintro ⟨⟨hname, hnames⟩, ⟨hnew, hnodup⟩, hr, hrs⟩
      refine ⟨⟨hname, hr⟩, fun e' he' e'' he'' => ?_, hnodup, hrs⟩
      rcases he'' with he'' | rfl
      · exact hnames e' he' e'' he''
      · exact fun heq => hnew e' he' heq.symm

/-- A hooked entity is refused as it is no model, or for the arguments of its hook. -/
theorem refused (hh : e.isHooked = true) {d : DirectiveFault} (h : e.hookOfModel = .error d) :
    d = .notModel ∧ e.hasDirective modelName = false ∨
      e.hasDirective modelName = true ∧ ∃ problems, d = .arguments e.name problems := by
  rw [hookOfModel] at h
  split at h
  · rename_i hm
    refine Or.inr ⟨hm, ?_⟩
    rw [hook] at h
    split at h
    · rename_i hnone
      obtain ⟨p, hp, hname⟩ := List.any_eq_true.mp hh
      have hne := List.lookup_eq_none_iff.mp hnone p hp
      simp [beq_iff_eq.mp hname] at hne
    · rw [Directive.ofArguments] at h
      generalize Directive.check _ = checked at h
      cases checked with
      | ok d' => cases h
      | error problems =>
        cases h
        exact ⟨problems, rfl⟩
  · rename_i hm
    cases h
    exact Or.inl ⟨rfl, by simpa using hm⟩

end Entity

namespace Compilation

variable {s : Settings} {a b c : Arena} {e : Entity} {earlier later reached : List Entity}
  {ts us : List Target} {t : Target} {pre post : List Job} {f f' : Option CompileFault}
    {r : Resource}

/-- Content can stand in front of a text, or in its place. -/
theorem exists_requestTemplate (content : Option String) {properties : List (Scalar × Value)}
    (h : propertyOf requestKey properties = .null ∨
      ∃ text, propertyOf requestKey properties = .str text) :
    ∃ request, Target.requestTemplate content properties = .ok request := by
  cases content with
  | none => exact ⟨_, rfl⟩
  | some c =>
    by_cases hc : (c != "") = true
    · simp only [Target.requestTemplate, hc, if_true, hoistedTemplate]
      rcases h with h | ⟨text, h⟩
      · rw [h]
        exact ⟨_, rfl⟩
      · rw [h]
        split
        · exact ⟨_, rfl⟩
        · exact ⟨_, rfl⟩
    · simp only [Target.requestTemplate, hc]
      exact ⟨_, rfl⟩

/-- A resolver that can be read and has properties can be wrapped. -/
theorem canWrap_of_isReadable (hr : a.graph.find? (.str t.resolverId) = some r)
    (hread : r.IsReadable) (hn : r.properties.isNull = false) : CanWrap a t := by
  obtain ⟨es, hes, htemplate⟩ :=
    hread.properties.resolve_left fun h => by simp [h, Value.isNull] at hn
  have hd : r.dependsOn.all Value.isHashable = true := by
    rw [List.all_eq_true]
    intro dep hdep
    obtain ⟨id, rfl⟩ := hread.dependsOn dep hdep
    rfl
  obtain ⟨request, hq⟩ : ∃ request, Target.requestTemplate (a.hoisted.content? t.resolverId)
      (Value.entriesOf es) = .ok request := by
    apply exists_requestTemplate
    rcases htemplate with h | ⟨text, h⟩
    · exact Or.inl (Value.propertyOf_entriesOf h)
    · exact Or.inr ⟨text, Value.propertyOf_entriesOf h⟩
  exact ⟨r, _, request, hr, hn, by rw [hes]; rfl, hd, hq⟩

/-- The jobs end with a fault, or else they succeed. -/
def EndsIn (s : Settings) (jobs : List Job) (a : Arena) : Option CompileFault → Prop
  | none => ∃ a', Performs s jobs a a'
  | some f => ∃ a', (jobs.forM (Job.perform s)).run a = .error f a'

theorem EndsIn.append (h : EndsIn s pre a f)
    (h' : ∀ b, Performs s pre a b → EndsIn s post b f') : EndsIn s (pre ++ post) a (f.or f') := by
  cases f with
  | none =>
    obtain ⟨b, hb⟩ := h
    have hpost := h' b hb
    cases f' with
    | none =>
      obtain ⟨c, hc⟩ := hpost
      exact ⟨c, performs_append.mpr ⟨b, hb, hc⟩⟩
    | some f' =>
      obtain ⟨c, hc⟩ := hpost
      refine ⟨c, ?_⟩
      rw [List.forM_eq_forM, List.forM_append]
      exact (run_bind_of_ok hb).trans hc
  | some f =>
    obtain ⟨b, hb⟩ := h
    refine ⟨b, ?_⟩
    rw [List.forM_eq_forM, List.forM_append]
    exact run_bind_of_error hb

theorem endsIn_hookJobs (s : Settings) (e : Entity) (a : Arena) :
    EndsIn s (e.hookJobs s) a none := by
  cases h : ((e.hookJobs s).forM (Job.perform s)).run a with
  | ok _ b => exact ⟨b, h⟩
  | error f b =>
    obtain ⟨pre, j, rest, c, hjobs, _, hj⟩ := exists_failing_job h
    obtain ⟨t, before, after, group, rfl⟩ := operation_of_error hj
    have hmem : Job.operation t before after group ∈ e.hookJobs s := by simp [hjobs]
    obtain ⟨_, _, hhook⟩ := List.mem_map.mp hmem
    cases hhook

section

variable (hread : ∀ t ∈ e.targets, ∀ r, a.graph.find? (.str t.resolverId) = some r → r.IsReadable)

include hread

/-- An operation ends as foretold, whatever other operations have done before. -/
theorem endsIn_operation (hts : e.targets = ts ++ t :: us)
    (hf : Footprint (.ofExtent reached (earlier.flatMap Entity.targets ++ ts)) a b) :
    EndsIn s [e.operationJob s t] b (e.fault? a.graph earlier t) := by
  have ht : t ∈ e.targets := by simp [hts]
  have hfails : ∀ f, (compileOperation s t (e.directive.stepId? e.name .before t.operation)
      (e.directive.stepId? e.name .after t.operation) (s.groupOr e.stack)).run b = .error f b →
      EndsIn s [e.operationJob s t] b (some f) := by
    intro f h
    have hjob : ((e.operationJob s t).perform s).run b = .error f b := run_bind_of_error h
    exact ⟨b, run_bind_of_error hjob⟩
  rw [Entity.fault?]
  split
  · rename_i hconsumed
    obtain ⟨u, hu, heq⟩ := List.mem_map.mp ((Entity.consumed_iff hts).mpr hconsumed)
    have hu' : u.IsConventional := by
      rcases List.mem_append.mp hu with hu | hu
      · obtain ⟨e', _, hu⟩ := List.mem_flatMap.mp hu
        exact Entity.isConventional_targets hu
      · exact @Entity.isConventional_targets u e (by simp [hts, hu])
    exact hfails _ (run_compileOperation_of_none (heq ▸ (dropped_of_footprint hu' hu hf).1))
  · rename_i hfresh
    have hconv := Entity.isConventional_targets ht
    have hd := mt (Entity.consumed_iff hts).mp hfresh
    have hfind := find?_resolver_of_footprint hconv hd hf
    cases hr : a.graph.find? (.str t.resolverId) with
    | none => exact hfails _ (run_compileOperation_of_none (hfind.trans hr))
    | some r =>
      cases hn : r.properties.isNull with
      | true =>
        simp only [hn, if_true]
        exact hfails _ (run_compileOperation_of_null (hfind.trans hr) hn)
      | false =>
        obtain ⟨r', properties, request, hw⟩ := canWrap_of_isReadable hr (hread t ht r hr) hn
        have hw' := (wrappable_iff_of_footprint hconv hd hf).mpr hw
        simp only [hn, Bool.false_eq_true, if_false]
        exact ⟨_, performs_cons.mpr ⟨_, run_perform_of_wrappable hw', performs_nil.mpr rfl⟩⟩

/-- So do the operations of an entity, one after another. -/
theorem endsIn_operations (hts : e.targets = ts ++ us)
    (h : Performs s (earlier.flatMap (Entity.jobs s) ++
      (e.hookJobs s ++ ts.map (e.operationJob s))) a b) :
    EndsIn s (us.map (e.operationJob s)) b (us.findSome? (e.fault? a.graph earlier)) := by
  induction us generalizing ts b with
  | nil => exact ⟨b, performs_nil.mpr rfl⟩
  | cons t us ih =>
    have hsplit : (t :: us).findSome? (e.fault? a.graph earlier) =
        (e.fault? a.graph earlier t).or (us.findSome? (e.fault? a.graph earlier)) := by
      rw [List.findSome?_cons]
      cases e.fault? a.graph earlier t <;> rfl
    rw [hsplit]
    refine (endsIn_operation hread hts (reaches_upTo hts h).footprint).append fun c hc => ?_
    have hts' : e.targets = (ts ++ [t]) ++ us := by simp [hts]
    apply ih hts'
    simpa using performs_append.mpr ⟨b, h, hc⟩

omit hread in
/-- So does a run, entity after entity. -/
theorem endsIn_plan
    (hread : ∀ e ∈ later, ∀ t ∈ e.targets, ∀ r, a.graph.find? (.str t.resolverId) = some r →
      r.IsReadable)
    (h : Performs s (earlier.flatMap (Entity.jobs s)) a b) :
    EndsIn s (later.flatMap (Entity.jobs s)) b (Entity.firstFault? a.graph earlier later) := by
  induction later generalizing earlier b with
  | nil => exact ⟨b, performs_nil.mpr rfl⟩
  | cons e later ih =>
    have hread' := hread e List.mem_cons_self
    have hjobs : EndsIn s (e.jobs s) b (e.targets.findSome? (e.fault? a.graph earlier)) := by
      refine (endsIn_hookJobs s e b).append fun c hc => ?_
      have hts : e.targets = [] ++ e.targets := rfl
      apply endsIn_operations hread' hts
      simpa using performs_append.mpr ⟨b, h, hc⟩
    rw [List.flatMap_cons, Entity.firstFault?]
    refine hjobs.append fun c hc => ?_
    apply ih fun e' he' => hread e' (List.mem_cons_of_mem _ he')
    simpa using performs_append.mpr ⟨b, h, hc⟩

end

variable {entities : List Entity}

/-- How a run of valid entities ends can be told from the arena at its start. -/
theorem run_transform_of_firstFault?
    (hv : ∀ e ∈ entities.filter Entity.isHooked, e.hookOfModel = .ok e.directive)
    (hread : ∀ e ∈ entities.filter Entity.isHooked, ∀ t ∈ e.targets, ∀ r,
      a.graph.find? (.str t.resolverId) = some r → r.IsReadable) :
    match Entity.firstFault? a.graph [] (entities.filter Entity.isHooked) with
    | none => ∃ a', (transform s entities).run a =
        .ok ((entities.filter Entity.isHooked).map (Entity.summary s)) a'
    | some f => ∃ a', (transform s entities).run a = .error f a' := by
  have hend : EndsIn s ((entities.filter Entity.isHooked).flatMap (Entity.jobs s)) a
      (Entity.firstFault? a.graph [] (entities.filter Entity.isHooked)) :=
    endsIn_plan hread (performs_nil.mpr rfl)
  rw [run_transform hv, plan]
  cases hfault : Entity.firstFault? a.graph [] (entities.filter Entity.isHooked) with
  | none =>
    rw [hfault] at hend
    obtain ⟨a', h⟩ := hend
    exact ⟨a', run_bind_of_ok h⟩
  | some f =>
    rw [hfault] at hend
    obtain ⟨a', h⟩ := hend
    exact ⟨a', run_bind_of_error h⟩

/-- How a run ends. The first hook that cannot be read stops it before it changes anything;
otherwise it succeeds exactly if the names of its entities are different and each of their resolvers
is there with properties, and fails as the first operation does that fails. -/
theorem transform_outcome (s : Settings) (entities : List Entity) (a : Arena)
    (hread : ∀ e ∈ entities.filter Entity.isHooked, ∀ t ∈ e.targets, ∀ r,
      a.graph.find? (.str t.resolverId) = some r → r.IsReadable) :
    (∀ earlier e later d, entities.filter Entity.isHooked = earlier ++ e :: later →
      (∀ e' ∈ earlier, e'.hookOfModel = .ok e'.directive) → e.hookOfModel = .error d →
      (transform s entities).run a = .error (.directive d) a ∧
        (d = .notModel ∧ e.hasDirective Entity.modelName = false ∨
          e.hasDirective Entity.modelName = true ∧ ∃ problems, d = .arguments e.name problems)) ∧
    ((∀ e ∈ entities.filter Entity.isHooked, e.hookOfModel = .ok e.directive) →
      ((∃ results a', (transform s entities).run a = .ok results a') ↔
        ((entities.filter Entity.isHooked).map Entity.name).Nodup ∧
          ∀ e ∈ entities.filter Entity.isHooked, ∀ o, ∃ r,
            a.graph.find? (.str (Target.resolverIdFor o e.name)) = some r ∧
              r.properties.isNull = false) ∧
      ∀ f a', (transform s entities).run a = .error f a' →
        Entity.firstFault? a.graph [] (entities.filter Entity.isHooked) = some f) := by
  refine ⟨fun earlier e later d hes hv hd => ?_, fun hv => ?_⟩
  · have he : e ∈ entities.filter Entity.isHooked := by simp [hes]
    exact ⟨run_transform_of_refused hes hv hd s a, Entity.refused (List.mem_filter.mp he).2 hd⟩
  · have hend := run_transform_of_firstFault? (s := s) hv hread
    have hnone := @Entity.firstFault?_eq_none_iff [] (entities.filter Entity.isHooked) a.graph
    cases hfault : Entity.firstFault? a.graph [] (entities.filter Entity.isHooked) with
    | none =>
      rw [hfault] at hend
      obtain ⟨a', h⟩ := hend
      obtain ⟨_, hnodup, hresolvers⟩ := hnone.mp hfault
      refine ⟨⟨fun _ => ⟨hnodup, hresolvers⟩, fun _ => ⟨_, a', h⟩⟩, fun f b hb => ?_⟩
      rw [h] at hb
      cases hb
    | some f =>
      rw [hfault] at hend
      obtain ⟨a', h⟩ := hend
      refine ⟨⟨fun ⟨_, _, hok⟩ => ?_, fun hready => ?_⟩, fun f' b hb => ?_⟩
      · rw [h] at hok
        cases hok
      · rw [hnone.mpr ⟨by simp, hready⟩] at hfault
        cases hfault
      · rw [h] at hb
        cases hb
        rfl

theorem isReadable_stored (name : String) : (Resource.stored name).IsReadable where
  dependsOn dep hdep := by cases hdep
  properties := Or.inr ⟨_, rfl, Or.inr ⟨"request", rfl⟩⟩

/-- A run over an entity whose resolvers are there and one that has none. -/
theorem transform_outcome_audited : ∃ a',
    (transform {} [.audited "Todo", .audited "Note"]).run (.storing ["Todo"]) =
      .error (.absent (.str "CreateNoteResolver")) a' := by
  obtain ⟨_, hvalid⟩ := transform_outcome {} [.audited "Todo", .audited "Note"] (.storing ["Todo"])
    (fun e _ t _ r hr => by
      obtain ⟨name, rfl⟩ := Arena.exists_of_find?_storing hr
      exact isReadable_stored name)
  obtain ⟨hok, herror⟩ := hvalid (by decide +kernel)
  cases h : (transform {} [.audited "Todo", .audited "Note"]).run (.storing ["Todo"]) with
  | ok results a' =>
    obtain ⟨r, hr, _⟩ := (hok.mp ⟨results, a', h⟩).2 (.audited "Note")
      (List.mem_filter.mpr ⟨by simp, by decide⟩) .create
    have hnone : (Arena.storing ["Todo"]).graph.contains
      (.str (Target.resolverIdFor .create (Entity.audited "Note").name)) = false := by
      decide +kernel
    rw [Graph.contains_eq_isSome, hr] at hnone
    cases hnone
  | error f a' =>
    have hfault : Entity.firstFault? (Arena.storing ["Todo"]).graph []
        ([.audited "Todo", .audited "Note"].filter Entity.isHooked) =
          some (.absent (.str "CreateNoteResolver")) := by decide +kernel
    obtain rfl := Option.some.inj ((herror f a' h).symm.trans hfault)
    exact ⟨a', rfl⟩

end Compilation

end ResolverHooks
