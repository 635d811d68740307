import Mathlib.Data.List.TakeWhile
import ResolverHooks.Proofs.Pipeline.Effect

/-!
What compiling an operation does: its resolver is replaced by a wrap step and a pipeline, or else
the operation fails. A resolver that is missing or has no properties is found out before anything
changes.
-/
namespace ResolverHooks

namespace Target

/-- The wrap step of a resolver with these properties, under a request template. -/
def wrapStepWith (t : Target) (s : Settings) (properties : List (Scalar × Value))
    (request : Value) : Resource :=
  { t.wrapStep s properties with properties := .map (Entries.insert (.str requestKey) request
      (t.wrapStep s properties).stepProperties) }

/-- The request template of a resolver's step: the resolver's own, behind hoisted content. -/
def requestTemplate (content : Option String) (properties : List (Scalar × Value)) :
    Except ShapeFault Value :=
  match content with
  | some c => if c != "" then hoistedTemplate c (propertyOf requestKey properties)
    else .ok (propertyOf requestKey properties)
  | none => .ok (propertyOf requestKey properties)

/-- The dependencies of a resolver that its step takes over. -/
def carriedDependencies (t : Target) (g : Graph) (group : String) (resolver : Resource) :
    List Value :=
  resolver.dependsOn.filter ((g.place group t.wrapStepId default).carries group)

/-- The wrap step of a resolver when it has taken over the dependencies before the first that cannot
be looked up. -/
def begunStep (t : Target) (s : Settings) (g : Graph) (group : String) (resolver : Resource)
    (properties : List (Scalar × Value)) : Resource :=
  (t.wrapStep s properties).dependingOn (t.carriedDependencies g group
    { resolver with dependsOn := resolver.dependsOn.takeWhile Value.isHashable })

/-- The pipeline with its functions as dependencies. -/
def pipelineOn (t : Target) (s : Settings) (functions : List String) : Resource :=
  (t.pipeline s functions).dependingOn (functions.map Value.str)

theorem begunStep_of_hashable {t : Target} {s : Settings} {g : Graph} {group : String}
    {resolver : Resource} {properties : List (Scalar × Value)}
    (hd : resolver.dependsOn.all Value.isHashable = true) :
    t.begunStep s g group resolver properties =
      (t.wrapStep s properties).dependingOn (t.carriedDependencies g group resolver) := by
  rw [begunStep, List.takeWhile_eq_self_iff.mpr (by simpa using hd)]

theorem stepProperties_wrapStep (t : Target) (s : Settings) (properties : List (Scalar × Value)) :
    propertyOf requestKey (t.wrapStep s properties).stepProperties =
      propertyOf requestKey properties := by
  simp [propertyOf, wrapStep, Resource.stepProperties, Value.object, requestKey, Entries.find?,
    Scalar.same]

theorem wrapStepWith_self (t : Target) (s : Settings) (properties : List (Scalar × Value)) :
    t.wrapStepWith s properties (propertyOf requestKey properties) = t.wrapStep s properties := by
  simp [wrapStepWith, wrapStep, Resource.stepProperties, Value.object, requestKey, Entries.insert,
    Scalar.same]

end Target

namespace Graph

/-- The graph with a wrap step and a pipeline in place of a resolver. -/
def replaced (g : Graph) (t : Target) (stepGroup group : String) (step pipeline : Resource) :
    Graph :=
  ((g.place stepGroup t.wrapStepId step).erase (.str t.resolverId)).place
    group t.pipelineId pipeline

theorem carries_place_congr (g : Graph) (group id : String) (r r' : Resource) :
    (g.place group id r).carries group = (g.place group id r').carries group := by
  have hc := carries_insert group r'
    (contains_iff.mpr ⟨r, find?_place_self g group id r⟩)
  rw [insert_place] at hc
  exact hc.symm

section

variable {g : Graph} {t : Target} {stepGroup group : String} {step pipeline : Resource}

theorem find?_replaced_pipeline :
    (g.replaced t stepGroup group step pipeline).find? (.str t.pipelineId) = some pipeline :=
  find?_place_self ..

theorem groupOf_replaced_pipeline :
    (g.replaced t stepGroup group step pipeline).groupOf (.str t.pipelineId) = .str group :=
  groupOf_place_self ..

theorem groupOf_replaced_resolver (h : t.resolverId ≠ t.pipelineId) :
    (g.replaced t stepGroup group step pipeline).groupOf (.str t.resolverId) = .null := by
  rw [replaced, groupOf_place_of_ne (by simpa using h), groupOf_erase_self]

variable (hp : t.wrapStepId ≠ t.pipelineId) (hr : t.wrapStepId ≠ t.resolverId)

include hp hr

theorem find?_replaced_wrapStep :
    (g.replaced t stepGroup group step pipeline).find? (.str t.wrapStepId) = some step := by
  rw [replaced, find?_place_of_ne (by simpa using hp), find?_erase_str, if_neg (by simpa using hr),
    find?_place_self]

theorem groupOf_replaced_wrapStep :
    (g.replaced t stepGroup group step pipeline).groupOf (.str t.wrapStepId) = .str stepGroup := by
  rw [replaced, groupOf_place_of_ne (by simpa using hp), groupOf_erase_of_ne (by simpa using hr),
    groupOf_place_self]

end

end Graph

namespace Compilation

variable {a a' : Arena} {g : Graph} {h : Hoisted} {s : Settings} {t : Target} {r : Resource}
  {properties : List (Scalar × Value)} {request : Value}

theorem run_buildWrapStep (group : Option String) (hn : r.properties.isNull = false)
    (hp : r.properties.entries = .ok properties) (hd : r.dependsOn.all Value.isHashable = true) :
    (buildWrapStep s t r group).run a = .ok t.wrapStepId ⟨a.graph.place (s.groupOr group)
      t.wrapStepId ((t.wrapStep s properties).dependingOn
        (t.carriedDependencies a.graph (s.groupOr group) r)), a.hoisted⟩ := by
  have hshaped : (shaped r.properties.entries).run a = .ok properties a := by
    rw [hp]
    rfl
  have hloop := run_forM_inherit (s.groupOr group)
    (a := ⟨a.graph.place (s.groupOr group) t.wrapStepId (t.wrapStep s properties), a.hoisted⟩)
    (Graph.find?_place_self ..) hd
  simp only [buildWrapStep, hn, Bool.false_eq_true, if_false]
  rw [run_bind_of_ok hshaped, run_bind_of_ok (run_place ..), run_bind_of_ok hloop, run_pure,
    Graph.insert_place, Graph.carries_place_congr _ _ _ _ default]
  rfl

theorem run_buildWrapStep_of_null (group : Option String) (hn : r.properties.isNull = true) :
    (buildWrapStep s t r group).run a = .error (.malformed t.resolverId) a := by
  simp only [buildWrapStep, hn, if_true]
  rfl

/-- Properties that are no mapping are found out before anything changes. -/
theorem run_buildWrapStep_of_unreadable {f : ShapeFault} (group : Option String)
    (hn : r.properties.isNull = false) (hp : r.properties.entries = .error f) :
    (buildWrapStep s t r group).run a = .error (.shape f) a := by
  have hshaped : (shaped r.properties.entries).run a = .error (.shape f) a := by
    rw [hp]
    rfl
  simp only [buildWrapStep, hn, Bool.false_eq_true, if_false]
  rw [run_bind_of_error hshaped]

/-- A dependency that cannot be looked up is found out when the wrap step has been begun. -/
theorem run_buildWrapStep_of_unhashable (group : Option String) (hn : r.properties.isNull = false)
    (hp : r.properties.entries = .ok properties) (hd : r.dependsOn.all Value.isHashable = false) :
    (buildWrapStep s t r group).run a = .error (.shape .unhashable)
      ⟨a.graph.place (s.groupOr group) t.wrapStepId
        (t.begunStep s a.graph (s.groupOr group) r properties), a.hoisted⟩ := by
  have hshaped : (shaped r.properties.entries).run a = .ok properties a := by
    rw [hp]
    rfl
  have hloop := run_forM_inherit_error (s.groupOr group)
    (a := ⟨a.graph.place (s.groupOr group) t.wrapStepId (t.wrapStep s properties), a.hoisted⟩)
    (Graph.find?_place_self ..) hd
  simp only [buildWrapStep, hn, Bool.false_eq_true, if_false]
  rw [run_bind_of_ok hshaped, run_bind_of_ok (run_place ..), run_bind_of_error hloop,
    Graph.insert_place, Graph.carries_place_congr _ _ _ _ default]
  rfl

theorem run_injectContent {id content : String} (hr : a.graph.find? (.str id) = some r)
    (hq : hoistedTemplate content (propertyOf requestKey r.stepProperties) = .ok request) :
    (injectContent id content).run a = .ok () ⟨a.graph.insert (.str id) { r with
      properties := .map (Entries.insert (.str requestKey) request r.stepProperties) },
      a.hoisted⟩ := by
  have hshaped : (shaped (hoistedTemplate content (propertyOf requestKey r.stepProperties))).run a =
      .ok request a := by
    rw [hq]
    rfl
  rw [injectContent, run_bind_of_ok (run_resource hr), run_bind_of_ok hshaped]
  rfl

theorem run_injectContent_error {id content : String} {f : ShapeFault}
    (hr : a.graph.find? (.str id) = some r)
    (hq : hoistedTemplate content (propertyOf requestKey r.stepProperties) = .error f) :
    (injectContent id content).run a = .error (.shape f) a := by
  have hshaped : (shaped (hoistedTemplate content (propertyOf requestKey r.stepProperties))).run a =
      .error (.shape f) a := by
    rw [hq]
    rfl
  rw [injectContent, run_bind_of_ok (run_resource hr), run_bind_of_error hshaped]

theorem run_consume (id : String) (a : Arena) :
    (consume id).run a = .ok (a.hoisted.content? id) ⟨a.graph, a.hoisted.discard id⟩ := rfl

theorem run_dropResolver (id : String) (a : Arena) :
    (dropResolver id).run a = .ok () ⟨a.graph.erase (.str id), a.hoisted.discard id⟩ := rfl

/-- A placed resource comes to depend on each of the ids. -/
theorem run_forM_depend (group id : String) (r : Resource) (deps : List String) (g : Graph)
    (h : Hoisted) : (deps.forM fun dep => depend id (.str dep)).run ⟨g.place group id r, h⟩ =
      .ok () ⟨g.place group id (r.dependingOn (deps.map Value.str)), h⟩ := by
  induction deps generalizing r with
  | nil => rfl
  | cons dep deps ih =>
    change (depend id (.str dep) >>= fun _ => deps.forM fun dep => depend id (.str dep)).run _ = _
    rw [run_bind_of_ok (run_depend_place ..), ih, ← Resource.dependingOn_append]
    rfl

theorem run_buildPipeline (s : Settings) (t : Target) (functions : List String) (group : String)
    (a : Arena) : (buildPipeline s t functions group).run a =
      .ok () ⟨a.graph.place group t.pipelineId (t.pipelineOn s functions), a.hoisted⟩ := by
  rw [buildPipeline, run_bind_of_ok (run_place ..), run_forM_depend]
  rfl

end Compilation

namespace Hoisted

theorem discard_discard (h : Hoisted) (id : String) : (h.discard id).discard id = h.discard id := by
  have he : ((h.contents.erase (.str id)).erase (.str id)) = h.contents.erase (.str id) := by
    apply Table.ext_entries
    simp [Table.erase, Entries.erase_eq_filter, List.filter_filter]
  simp [discard, he]

end Hoisted

namespace Compilation

variable {a a' : Arena} {s : Settings} {t : Target} {before after : Option String} {group : String}
  {r : Resource} {properties : List (Scalar × Value)} {request : Value}

/-- The step of a resolver with these properties, which takes over its dependencies. -/
def stepOf (s : Settings) (t : Target) (g : Graph) (group : String) (resolver : Resource)
    (properties : List (Scalar × Value)) (request : Value) : Resource :=
  (t.wrapStepWith s properties request).dependingOn (t.carriedDependencies g group resolver)

section

variable {g : Graph} {dep : Value} {k : Scalar}

/-- A step depends on what its resolver depends on inside the group. -/
theorem mem_stepOf (h : dep ∈ (stepOf s t g group r properties request).dependsOn) :
    dep ∈ r.dependsOn ∧ (dep = .str t.wrapStepId ∨
      ∃ k, dep = .scalar k ∧ g.contains k = true ∧ g.groupOf k = .str group) := by
  rcases Resource.mem_recorded h with h | h
  · simp [Target.wrapStepWith, Target.wrapStep] at h
  · obtain ⟨hr, hc⟩ := List.mem_filter.mp h
    obtain ⟨k, rfl, hk, hg⟩ := Graph.carries_iff.mp hc
    refine ⟨hr, ?_⟩
    by_cases hne : k = .str t.wrapStepId
    · exact Or.inl (by rw [hne])
    · rw [Graph.groupOf_place_of_ne hne] at hg
      exact Or.inr ⟨k, rfl, by simpa [Graph.contains_place, hne] using hk, hg⟩

theorem exists_mem_stepOf (hr : .scalar k ∈ r.dependsOn) (hne : k ≠ .str t.wrapStepId)
    (hc : g.contains k = true) (hg : g.groupOf k = .str group) :
    ∃ k', k'.key = k.key ∧
      .scalar k' ∈ (stepOf s t g group r properties request).dependsOn := by
  refine Resource.exists_mem_recorded (Or.inr (List.mem_filter.mpr ⟨hr, ?_⟩))
  refine Graph.carries_iff.mpr ⟨k, rfl, by simp [Graph.contains_place, hc], ?_⟩
  rw [Graph.groupOf_place_of_ne hne, hg]

theorem str_mem_stepOf {id : String} (hr : .str id ∈ r.dependsOn) (hne : id ≠ t.wrapStepId)
    (hc : g.contains (.str id) = true) (hg : g.groupOf (.str id) = .str group) :
    .str id ∈ (stepOf s t g group r properties request).dependsOn := by
  obtain ⟨k, hk, hm⟩ := exists_mem_stepOf hr (by simpa using hne) hc hg
  rwa [Scalar.same_str.mp (Scalar.same_iff.mpr hk)] at hm

end

theorem run_takeContent (g : Graph) (h : Hoisted) (stepGroup : String) (deps : List Value)
    (hq : Target.requestTemplate (h.content? t.resolverId) properties = .ok request) :
    (takeContent t.wrapStepId t.resolverId).run
        ⟨g.place stepGroup t.wrapStepId ((t.wrapStep s properties).dependingOn deps), h⟩ =
      .ok ()
        ⟨g.place stepGroup t.wrapStepId ((t.wrapStepWith s properties request).dependingOn deps),
        h.discard t.resolverId⟩ := by
  rw [takeContent, run_bind_of_ok (run_consume ..)]
  cases hc : h.content? t.resolverId with
  | none =>
    obtain rfl : propertyOf requestKey properties = request := by
      simpa [Target.requestTemplate, hc] using hq
    rw [Target.wrapStepWith_self]
    rfl
  | some content =>
    by_cases he : (content != "") = true
    · simp only [Target.requestTemplate, hc, he, if_true] at hq ⊢
      rw [run_injectContent (Graph.find?_place_self ..)
        (by rw [← hq, ← Target.stepProperties_wrapStep t s properties]; rfl), Graph.insert_place]
      rfl
    · simp only [Target.requestTemplate, hc, he] at hq ⊢
      obtain rfl : propertyOf requestKey properties = request := Except.ok.inj hq
      rw [Target.wrapStepWith_self]
      rfl

/-- A request template that content cannot stand in front of is found out when the content is
taken. -/
theorem run_takeContent_error {f : ShapeFault} (g : Graph) (h : Hoisted) (stepGroup : String)
    (deps : List Value)
    (hq : Target.requestTemplate (h.content? t.resolverId) properties = .error f) :
    (takeContent t.wrapStepId t.resolverId).run
        ⟨g.place stepGroup t.wrapStepId ((t.wrapStep s properties).dependingOn deps), h⟩ =
      .error (.shape f) ⟨g.place stepGroup t.wrapStepId
        ((t.wrapStep s properties).dependingOn deps), h.discard t.resolverId⟩ := by
  rw [takeContent, run_bind_of_ok (run_consume ..)]
  cases hc : h.content? t.resolverId with
  | none => simp [Target.requestTemplate, hc] at hq
  | some content =>
    by_cases he : (content != "") = true
    · simp only [Target.requestTemplate, hc, he, if_true] at hq ⊢
      exact run_injectContent_error (Graph.find?_place_self ..)
        (by rw [← hq, ← Target.stepProperties_wrapStep t s properties]; rfl)
    · simp [Target.requestTemplate, hc, he] at hq

/-- The resolver of an operation can be wrapped: it has properties to read, dependencies to look up,
and a request template that hoisted content can stand in front of. -/
structure Wrappable (a : Arena) (t : Target) (resolver : Resource)
    (properties : List (Scalar × Value)) (request : Value) : Prop where
  present : a.graph.find? (.str t.resolverId) = some resolver
  not_null : resolver.properties.isNull = false
  entries_eq : resolver.properties.entries = .ok properties
  hashable : resolver.dependsOn.all Value.isHashable = true
  request_eq : Target.requestTemplate (a.hoisted.content? t.resolverId) properties = .ok request

/-- Whether the resolver of an operation can be wrapped. -/
def CanWrap (a : Arena) (t : Target) : Prop :=
  ∃ resolver properties request, Wrappable a t resolver properties request

def canWrap (a : Arena) (t : Target) : Bool :=
  match a.graph.find? (.str t.resolverId) with
  | none => false
  | some r =>
    match r.properties.entries with
    | .error _ => false
    | .ok properties => !r.properties.isNull && r.dependsOn.all Value.isHashable &&
        (Target.requestTemplate (a.hoisted.content? t.resolverId) properties).isOk

theorem canWrap_iff : canWrap a t = true ↔ CanWrap a t := by
  constructor
  · intro h
    simp only [canWrap] at h
    split at h
    · cases h
    · rename_i r hr
      split at h
      · cases h
      · rename_i properties hp
        simp only [Bool.and_eq_true, Bool.not_eq_true'] at h
        obtain ⟨⟨hn, hd⟩, hq⟩ := h
        cases hrequest : Target.requestTemplate (a.hoisted.content? t.resolverId) properties with
        | error f => simp [hrequest, Except.isOk, Except.toBool] at hq
        | ok request => exact ⟨r, properties, request, hr, hn, hp, hd, hrequest⟩
  · rintro ⟨r, properties, request, hw⟩
    simp [canWrap, hw.present, hw.entries_eq, hw.not_null, hw.hashable, hw.request_eq,
      Except.isOk, Except.toBool]

instance (a : Arena) (t : Target) : Decidable (CanWrap a t) := decidable_of_iff _ canWrap_iff

/-- The graph with the wrap step of an operation that stops there. -/
def begun (s : Settings) (t : Target) (group : String) (g : Graph) (resolver : Resource)
    (properties : List (Scalar × Value)) : Graph :=
  g.place (s.groupOr (some group)) t.wrapStepId
    (t.begunStep s g (s.groupOr (some group)) resolver properties)

/-- The graph after an operation whose resolver could be wrapped. -/
def graphAfter (s : Settings) (t : Target) (before after : Option String) (group : String)
    (g : Graph) (resolver : Resource) (properties : List (Scalar × Value)) (request : Value) :
    Graph :=
  g.replaced t (s.groupOr (some group)) group
    (stepOf s t g (s.groupOr (some group)) resolver properties request)
    (t.pipelineOn s (t.functions before after))

theorem run_compileOperation (hw : Wrappable a t r properties request) :
    (compileOperation s t before after group).run a = .ok (t.pipelineId, t.functions before after)
      ⟨graphAfter s t before after group a.graph r properties request,
        a.hoisted.discard t.resolverId⟩ := by
  rw [compileOperation, run_bind_of_ok (run_resource hw.present),
    run_bind_of_ok (run_buildWrapStep (some group) hw.not_null hw.entries_eq hw.hashable),
    run_bind_of_ok (run_takeContent _ _ _ _ hw.request_eq), run_bind_of_ok (run_dropResolver ..),
    run_bind_of_ok (run_buildPipeline ..), Hoisted.discard_discard]
  rfl

theorem run_compileOperation_of_none (hr : a.graph.find? (.str t.resolverId) = none) :
    (compileOperation s t before after group).run a = .error (.absent (.str t.resolverId)) a := by
  rw [compileOperation, run_bind_of_error (run_resource_of_none hr)]

theorem run_compileOperation_of_null (hr : a.graph.find? (.str t.resolverId) = some r)
    (hn : r.properties.isNull = true) :
    (compileOperation s t before after group).run a = .error (.malformed t.resolverId) a := by
  rw [compileOperation, run_bind_of_ok (run_resource hr),
    run_bind_of_error (run_buildWrapStep_of_null (some group) hn)]

/-- How compiling an operation fails, and the arena that it leaves. Dependencies are looked up when
the wrap step has been begun, and the request template when the hoisted content has been taken. -/
inductive Fails (s : Settings) (t : Target) (group : String) (a : Arena) :
    CompileFault → Arena → Prop where
  | absent : a.graph.find? (.str t.resolverId) = none →
      Fails s t group a (.absent (.str t.resolverId)) a
  | malformed {r : Resource} : a.graph.find? (.str t.resolverId) = some r →
      r.properties.isNull = true → Fails s t group a (.malformed t.resolverId) a
  | unreadable {r : Resource} {f : ShapeFault} : a.graph.find? (.str t.resolverId) = some r →
      r.properties.isNull = false → r.properties.entries = .error f →
      Fails s t group a (.shape f) a
  | unhashable {r : Resource} {properties : List (Scalar × Value)} :
      a.graph.find? (.str t.resolverId) = some r → r.properties.isNull = false →
      r.properties.entries = .ok properties → r.dependsOn.all Value.isHashable = false →
      Fails s t group a (.shape .unhashable) ⟨begun s t group a.graph r properties, a.hoisted⟩
  | template {r : Resource} {properties : List (Scalar × Value)} {f : ShapeFault} :
      a.graph.find? (.str t.resolverId) = some r → r.properties.isNull = false →
      r.properties.entries = .ok properties → r.dependsOn.all Value.isHashable = true →
      Target.requestTemplate (a.hoisted.content? t.resolverId) properties = .error f →
      Fails s t group a (.shape f)
        ⟨begun s t group a.graph r properties, a.hoisted.discard t.resolverId⟩

theorem run_compileOperation_of_fails {f : CompileFault} (h : Fails s t group a f a') :
    (compileOperation s t before after group).run a = .error f a' := by
  cases h with
  | absent hr => exact run_compileOperation_of_none hr
  | malformed hr hn => exact run_compileOperation_of_null hr hn
  | unreadable hr hn hp =>
    rw [compileOperation, run_bind_of_ok (run_resource hr),
      run_bind_of_error (run_buildWrapStep_of_unreadable (some group) hn hp)]
  | unhashable hr hn hp hd =>
    rw [compileOperation, run_bind_of_ok (run_resource hr),
      run_bind_of_error (run_buildWrapStep_of_unhashable (some group) hn hp hd)]
    rfl
  | template hr hn hp hd hq =>
    rw [compileOperation, run_bind_of_ok (run_resource hr),
      run_bind_of_ok (run_buildWrapStep (some group) hn hp hd),
      run_bind_of_error (run_takeContent_error _ _ _ _ hq), begun, Target.begunStep_of_hashable hd]

/-- Compiling an operation fails unless its resolver can be wrapped. -/
theorem wrappable_or_fails (s : Settings) (t : Target) (group : String) (a : Arena) :
    (∃ r properties request, Wrappable a t r properties request) ∨
      ∃ f a', Fails s t group a f a' := by
  cases hr : a.graph.find? (.str t.resolverId) with
  | none => exact Or.inr ⟨_, _, .absent hr⟩
  | some r =>
    cases hn : r.properties.isNull with
    | true => exact Or.inr ⟨_, _, .malformed hr hn⟩
    | false =>
      cases hp : r.properties.entries with
      | error f => exact Or.inr ⟨_, _, .unreadable hr hn hp⟩
      | ok properties =>
        cases hd : r.dependsOn.all Value.isHashable with
        | false => exact Or.inr ⟨_, _, .unhashable hr hn hp hd⟩
        | true =>
          cases hq : Target.requestTemplate (a.hoisted.content? t.resolverId) properties with
          | ok request => exact Or.inl ⟨r, properties, request, hr, hn, hp, hd, hq⟩
          | error f => exact Or.inr ⟨_, _, .template hr hn hp hd hq⟩

/-- How compiling an operation ends. Only a fault of shape comes after a change. -/
theorem compileOperation_cases (s : Settings) (t : Target) (before after : Option String)
    (group : String) (a : Arena) :
    (a.graph.find? (.str t.resolverId) = none ∧
      (compileOperation s t before after group).run a = .error (.absent (.str t.resolverId)) a) ∨
    (∃ r, a.graph.find? (.str t.resolverId) = some r ∧ r.properties.isNull = true ∧
      (compileOperation s t before after group).run a = .error (.malformed t.resolverId) a) ∨
    (∃ f a', (compileOperation s t before after group).run a = .error (.shape f) a') ∨
    ∃ r properties request, Wrappable a t r properties request := by
  rcases wrappable_or_fails s t group a with hw | ⟨f, a', hf⟩
  · exact Or.inr (Or.inr (Or.inr hw))
  · have h : (compileOperation s t before after group).run a = .error f a' :=
      run_compileOperation_of_fails hf
    cases hf with
    | absent hr => exact Or.inl ⟨hr, h⟩
    | malformed hr hn => exact Or.inr (Or.inl ⟨_, hr, hn, h⟩)
    | unreadable | unhashable | template => exact Or.inr (Or.inr (Or.inl ⟨_, _, h⟩))

end Compilation

end ResolverHooks
