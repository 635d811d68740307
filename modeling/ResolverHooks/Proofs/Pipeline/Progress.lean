import ResolverHooks.Proofs.Pipeline.Run

/-!
How far a run gets. Its jobs are performed in order up to the first that fails, which can only be an
operation; a resolver that is missing or malformed makes it fail before it changes anything.
-/
namespace ResolverHooks

namespace Compilation

variable {s : Settings} {a a' b : Arena} {j : Job} {js ks : List Job} {f : CompileFault}

/-- The jobs succeed one after another, and lead from one arena to the other. -/
def Performs (s : Settings) (jobs : List Job) (a a' : Arena) : Prop :=
  (jobs.forM (Job.perform s)).run a = .ok () a'

theorem performs_nil : Performs s [] a a' ↔ a' = a := by
  refine ⟨fun h => ?_, fun h => h ▸ rfl⟩
  cases h
  rfl

theorem performs_cons : Performs s (j :: js) a a' ↔
    ∃ b, (j.perform s).run a = .ok () b ∧ Performs s js b a' := by
  change (j.perform s >>= fun _ => js.forM (Job.perform s)).run a = .ok () a' ↔ _
  refine ⟨fun h => ?_, fun ⟨b, hj, hjs⟩ => (run_bind_of_ok hj).trans hjs⟩
  obtain ⟨_, b, hj, hjs⟩ := run_bind_eq_ok h
  exact ⟨b, hj, hjs⟩

theorem performs_append : Performs s (js ++ ks) a a' ↔
    ∃ b, Performs s js a b ∧ Performs s ks b a' := by
  induction js generalizing a with
  | nil =>
    simp only [List.nil_append, performs_nil]
    exact ⟨fun h => ⟨a, rfl, h⟩, fun ⟨b, hb, h⟩ => hb ▸ h⟩
  | cons j js ih =>
    simp only [List.cons_append, performs_cons, ih]
    constructor
    · rintro ⟨b, hj, c, hjs, hks⟩
      exact ⟨c, ⟨b, hj, hjs⟩, hks⟩
    · rintro ⟨c, ⟨b, hj, hjs⟩, hks⟩
      exact ⟨b, hj, c, hjs, hks⟩

/-- Whether a step succeeds, and its value and the arena behind it have a property. -/
def endsWith {α : Type} (p : α → Arena → Bool) (x : Compilation α) (a : Arena) : Bool :=
  match x.run a with
  | .ok v a' => p v a'
  | .error _ _ => false

theorem exists_of_endsWith {α : Type} {p : α → Arena → Bool} {x : Compilation α}
    (h : endsWith p x a = true) : ∃ v a', x.run a = .ok v a' ∧ p v a' = true := by
  simp only [endsWith] at h
  split at h
  · exact ⟨_, _, ‹_›, h⟩
  · cases h

/-- A failure is that of one job, behind others that are performed. -/
theorem exists_failing_job (h : (js.forM (Job.perform s)).run a = .error f a') :
    ∃ pre j rest b, js = pre ++ j :: rest ∧ Performs s pre a b ∧
      (j.perform s).run b = .error f a' := by
  induction js generalizing a with
  | nil => cases h
  | cons j js ih =>
    change (j.perform s >>= fun _ => js.forM (Job.perform s)).run a = _ at h
    cases hj : (j.perform s).run a with
    | error f' b =>
      rw [run_bind_of_error hj] at h
      cases h
      exact ⟨[], j, js, a, rfl, performs_nil.mpr rfl, hj⟩
    | ok _ b =>
      rw [run_bind_of_ok hj] at h
      obtain ⟨pre, k, rest, c, rfl, hc, hk⟩ := ih h
      exact ⟨j :: pre, k, rest, c, rfl, performs_cons.mpr ⟨b, hj, hc⟩, hk⟩

theorem run_perform_hook (s : Settings) (d : Directive) (entity : String) (stage : Stage)
    (group : String) (a : Arena) : ((Job.hook d entity stage group).perform s).run a =
      .ok () ⟨(a.graph.ensured s d.identity).withHookStep s (d.hookStep entity stage)
        d.identity.dataSourceId (s.groupOr (some group)), a.hoisted⟩ := by
  rw [Job.perform, run_bind_of_ok (run_ensure ..), run_bind_of_ok (run_buildHookStep ..)]
  rfl

section

variable {t : Target} {before after : Option String} {group : String}

theorem run_perform_of_wrappable {r : Resource} {properties : List (Scalar × Value)}
    {request : Value} (hw : Wrappable a t r properties request) :
    ((Job.operation t before after group).perform s).run a =
      .ok () ⟨graphAfter s t before after group a.graph r properties request,
        a.hoisted.discard t.resolverId⟩ := run_bind_of_ok (run_compileOperation hw)

theorem run_perform_operation
    (h : ((Job.operation t before after group).perform s).run a = .ok () a') :
    ∃ r properties request, Wrappable a t r properties request ∧
      a' = ⟨graphAfter s t before after group a.graph r properties request,
        a.hoisted.discard t.resolverId⟩ := by
  rw [Job.perform] at h
  rcases compileOperation_cases s t before after group a with
    ⟨_, hc⟩ | ⟨_, _, _, hc⟩ | ⟨_, _, hc⟩ | ⟨r, properties, request, hw⟩
  · rw [run_bind_of_error hc] at h
    cases h
  · rw [run_bind_of_error hc] at h
    cases h
  · rw [run_bind_of_error hc] at h
    cases h
  · rw [run_bind_of_ok (run_compileOperation hw)] at h
    cases h
    exact ⟨r, properties, request, hw, rfl⟩

/-- An operation that fails for want of a resolver, or of its properties, changes nothing. -/
theorem run_perform_operation_error
    (h : ((Job.operation t before after group).perform s).run a = .error f a') :
    (a' = a ∧ a.graph.find? (.str t.resolverId) = none ∧ f = .absent (.str t.resolverId)) ∨
    (a' = a ∧ (∃ r, a.graph.find? (.str t.resolverId) = some r ∧ r.properties.isNull = true) ∧
      f = .malformed t.resolverId) ∨
    ∃ sf, f = .shape sf := by
  rw [Job.perform] at h
  rcases compileOperation_cases s t before after group a with
    ⟨hr, hc⟩ | ⟨r, hr, hn, hc⟩ | ⟨sf, b, hc⟩ | ⟨r, properties, request, hw⟩
  · rw [run_bind_of_error hc] at h
    cases h
    exact Or.inl ⟨rfl, hr, rfl⟩
  · rw [run_bind_of_error hc] at h
    cases h
    exact Or.inr (Or.inl ⟨rfl, ⟨r, hr, hn⟩, rfl⟩)
  · rw [run_bind_of_error hc] at h
    cases h
    exact Or.inr (Or.inr ⟨sf, rfl⟩)
  · rw [run_bind_of_ok (run_compileOperation hw)] at h
    cases h

end

/-- Only operations fail. -/
theorem operation_of_error (h : (j.perform s).run a = .error f a') :
    ∃ t before after group, j = .operation t before after group := by
  cases j with
  | hook d entity stage group => rw [run_perform_hook] at h; cases h
  | operation t before after group => exact ⟨t, before, after, group, rfl⟩

section

variable {entities : List Entity} {results : List CompiledEntity}

theorem hookOfModel_cases (e : Entity) :
    e.hookOfModel = .ok e.directive ∨ ∃ d, e.hookOfModel = .error d := by
  cases h : e.hookOfModel with
  | ok d => exact Or.inl (by rw [Entity.directive_of_ok h])
  | error d => exact Or.inr ⟨d, rfl⟩

/-- Either all hooks can be read, or there is a first one that cannot. -/
theorem valid_or_refused (es : List Entity) : (∀ e ∈ es, e.hookOfModel = .ok e.directive) ∨
    ∃ earlier e later d, es = earlier ++ e :: later ∧
      (∀ e' ∈ earlier, e'.hookOfModel = .ok e'.directive) ∧ e.hookOfModel = .error d := by
  induction es with
  | nil => exact Or.inl (by simp)
  | cons e es ih =>
    rcases hookOfModel_cases e with he | ⟨d, hd⟩
    · rcases ih with hes | ⟨earlier, e', later, d, rfl, hv, hd⟩
      · exact Or.inl (List.forall_mem_cons.mpr ⟨he, hes⟩)
      · exact Or.inr ⟨e :: earlier, e', later, d, rfl, List.forall_mem_cons.mpr ⟨he, hv⟩, hd⟩
    · exact Or.inr ⟨[], e, es, d, rfl, by simp, hd⟩

/-- The first hook that cannot be read stops a run before anything is compiled. -/
theorem run_transform_of_refused {earlier later : List Entity} {e : Entity} {d : DirectiveFault}
    (hes : entities.filter Entity.isHooked = earlier ++ e :: later)
    (hv : ∀ e' ∈ earlier, e'.hookOfModel = .ok e'.directive) (hd : e.hookOfModel = .error d)
    (s : Settings) (a : Arena) : (transform s entities).run a = .error (.directive d) a := by
  have hrefused : (directed e.hookOfModel).run a = .error (.directive d) a := by
    rw [hd]
    rfl
  have hforM : ((earlier ++ e :: later).forM fun e => do
      let _ ← directed e.hookOfModel).run a = .error (.directive d) a := by
    rw [List.forM_eq_forM, List.forM_append, List.forM_cons]
    refine (run_bind_of_ok (run_forM_directed hv a)).trans (run_bind_of_error ?_)
    exact run_bind_of_error hrefused
  rw [transform, hes, run_bind_of_error hforM]

/-- An invalid directive is found before anything is compiled. -/
theorem valid_or_directive (s : Settings) (entities : List Entity) (a : Arena) :
    (∀ e ∈ entities.filter Entity.isHooked, e.hookOfModel = .ok e.directive) ∨
      ∃ d, (transform s entities).run a = .error (.directive d) a := by
  rcases valid_or_refused (entities.filter Entity.isHooked) with hv | ⟨_, _, _, d, hes, hv, hd⟩
  · exact Or.inl hv
  · exact Or.inr ⟨d, run_transform_of_refused hes hv hd s a⟩

theorem compileEntity_ok {e : Entity} {result : CompiledEntity}
    (h : (compileEntity s e).run a = .ok result a') :
    e.hookOfModel = .ok e.directive ∧ result = e.summary s ∧ Performs s (e.jobs s) a a' := by
  rcases hookOfModel_cases e with hv | ⟨d, hd⟩
  · rw [compileEntity_eq hv] at h
    obtain ⟨_, b, hp, hr⟩ := run_bind_eq_ok h
    cases hr
    exact ⟨hv, rfl, hp⟩
  · have hdirected : (directed e.hookOfModel).run a = .error (.directive d) a := by
      rw [hd]
      rfl
    rw [compileEntity, run_bind_of_error hdirected] at h
    cases h

/-- A run that succeeds performs all of its jobs. -/
theorem transform_ok (h : (transform s entities).run a = .ok results a') :
    (∀ e ∈ entities.filter Entity.isHooked, e.hookOfModel = .ok e.directive) ∧
      results = (entities.filter Entity.isHooked).map (Entity.summary s) ∧
      Performs s (plan s entities) a a' := by
  rcases valid_or_directive s entities a with hv | ⟨d, hd⟩
  · rw [run_transform hv] at h
    obtain ⟨_, b, hp, hr⟩ := run_bind_eq_ok h
    cases hr
    exact ⟨hv, rfl, hp⟩
  · rw [hd] at h
    cases h

/-- A run that does not stop for a directive stops in one of its jobs. -/
theorem transform_error (h : (transform s entities).run a = .error f a')
    (hf : ∀ d, f ≠ .directive d) :
    (∀ e ∈ entities.filter Entity.isHooked, e.hookOfModel = .ok e.directive) ∧
      ((plan s entities).forM (Job.perform s)).run a = .error f a' := by
  rcases valid_or_directive s entities a with hv | ⟨d, hd⟩
  · rw [run_transform hv] at h
    rcases run_bind_eq_error h with h | ⟨_, b, _, hr⟩
    · exact ⟨hv, h⟩
    · cases hr
  · rw [hd] at h
    cases h
    exact absurd rfl (hf d)

end

end Compilation

/-- A resolver as the storage layer makes it. -/
def Resource.stored (entity : String) : Resource where
  kind := .str resolverKind
  properties := .object [("DataSourceName", .str (entity ++ "Table")),
    (requestKey, .str "request"), ("ResponseMappingTemplate", .str "response")]
  dependsOn := []

/-- What the storage layer leaves for entities: their resolvers, and content hoisted for new
items. -/
def Arena.storing (names : List String) : Arena where
  graph := names.foldl (fun g name => Operation.all.foldl (fun g o =>
    g.place "Storage" (Target.resolverIdFor o name) (.stored name)) g) .empty
  hoisted := .ofList (names.map fun name => (Target.resolverIdFor .create name, some "defaults"))

theorem Arena.exists_of_find?_storing {names : List String} {k : Scalar} {r : Resource}
    (h : (Arena.storing names).graph.find? k = some r) : ∃ name, r = .stored name := by
  have hplace : ∀ (g : Graph) (id name : String),
      (∀ k r, g.find? k = some r → ∃ name, r = .stored name) →
      ∀ k r, (g.place "Storage" id (.stored name)).find? k = some r → ∃ name, r = .stored name := by
    intro g id name hg k r hr
    rw [Graph.find?_place] at hr
    split at hr
    · exact ⟨name, (Option.some.inj hr).symm⟩
    · exact hg k r hr
  have hall : ∀ k r, (Arena.storing names).graph.find? k = some r → ∃ name, r = .stored name := by
    refine List.foldlRecOn (motive := fun g : Graph => ∀ k r, g.find? k = some r →
      ∃ name, r = .stored name) names _ (fun k r hr => by cases hr) fun g hg name _ => ?_
    exact List.foldlRecOn (motive := fun g : Graph => ∀ k r, g.find? k = some r →
      ∃ name, r = .stored name) Operation.all _ hg fun g hg o _ => hplace g _ name hg
  exact hall k r h

/-- An entity with a hook before new items are stored, and after items are listed. -/
def Entity.audited (name : String) : Entity where
  name := name
  directives := [("model", none), ("hook", some [(.str "name", .str "audit"),
    (.str "before", .map [(.str "create", .bool true)]),
    (.str "after", .map [(.str "list", .bool true)])])]
  stack := none
  fieldNames := []

end ResolverHooks
