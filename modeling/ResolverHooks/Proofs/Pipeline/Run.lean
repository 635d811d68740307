import ResolverHooks.Proofs.Pipeline.Replacement

/-!
A run as one list of jobs, which is fixed before anything is compiled: for each hooked entity its
hook steps, stage by stage, and then its operations. A run ends at the first job that fails.
-/
namespace ResolverHooks

/-- One thing to do in a run: build the hook step of a stage with its compute resources, or compile
an operation. -/
inductive Job where
  | hook (directive : Directive) (entity : String) (stage : Stage) (group : String)
  | operation (target : Target) (before after : Option String) (group : String)

namespace Job

def perform (s : Settings) : Job → Compilation Unit
  | hook d entity stage group => do
    let dataSourceId ← Compilation.ensure s d.identity
    let _ ← Compilation.buildHookStep s (d.hookStep entity stage) dataSourceId (some group)
  | operation t before after group => do
    let _ ← Compilation.compileOperation s t before after group

def target? : Job → Option Target
  | operation t _ _ _ => some t
  | hook .. => none

end Job

namespace Directive

/-- The hook step that runs at a stage of an operation. -/
def stepId? (d : Directive) (entity : String) (stage : Stage) (o : Operation) : Option String :=
  if (d.stage stage).enabled o then some (d.hookStep entity stage).id else none

/-- The hook steps of an entity. -/
def steps (d : Directive) (entity : String) : List (Stage × String) :=
  d.stages.map fun stage => (stage, (d.hookStep entity stage).id)

theorem mem_stages {d : Directive} {stage : Stage} :
    stage ∈ d.stages ↔ (d.stage stage).anyEnabled = true := by
  simp [stages, Stage.mem_all]

theorem anyEnabled_of_enabled {f : Flags} {o : Operation} (h : f.enabled o = true) :
    f.anyEnabled = true := Flags.anyEnabled_iff.mpr ⟨o, h⟩

theorem lookup_map_of_mem {α β : Type} [BEq α] [LawfulBEq α] (f : α → β) {x : α} {xs : List α}
    (h : x ∈ xs) : (xs.map fun y => (y, f y)).lookup x = some (f x) := by
  induction xs with
  | nil => simp at h
  | cons y ys ih =>
    by_cases hy : x = y
    · simp [hy]
    · have hne : (x == y) = false := by simpa using hy
      simpa [List.lookup_cons, hne] using ih (by simpa [hy] using h)

theorem stepFor_steps (d : Directive) (entity : String) (stage : Stage) (o : Operation) :
    d.stepFor (d.steps entity) stage o = d.stepId? entity stage o := by
  by_cases h : (d.stage stage).enabled o = true
  · have hm := mem_stages.mpr (anyEnabled_of_enabled h)
    simp only [stepFor, stepId?, h, if_true, steps]
    exact lookup_map_of_mem (fun stage => (d.hookStep entity stage).id) hm
  · simp [stepFor, stepId?, h]

end Directive

namespace Entity

/-- The hook of an entity that has one. -/
def directive (e : Entity) : Directive :=
  match e.hookOfModel with
  | .ok d => d
  | .error _ => default

theorem directive_of_ok {e : Entity} {d : Directive} (h : e.hookOfModel = .ok d) :
    e.directive = d := by simp [directive, h]

/-- The functions of an operation's pipeline. -/
def functions (e : Entity) (t : Target) : List String :=
  t.functions (e.directive.stepId? e.name .before t.operation)
    (e.directive.stepId? e.name .after t.operation)

def hookJobs (s : Settings) (e : Entity) : List Job :=
  e.directive.stages.map fun stage => .hook e.directive e.name stage (s.groupOr e.stack)

def operationJob (s : Settings) (e : Entity) (t : Target) : Job :=
  .operation t (e.directive.stepId? e.name .before t.operation)
    (e.directive.stepId? e.name .after t.operation) (s.groupOr e.stack)

def operationJobs (s : Settings) (e : Entity) : List Job := e.targets.map (e.operationJob s)

def jobs (s : Settings) (e : Entity) : List Job := e.hookJobs s ++ e.operationJobs s

def pipelines (e : Entity) : List CompiledOperation :=
  e.targets.map fun t => ⟨t.operation, t.pipelineId, e.functions t⟩

/-- What compiling an entity reports. -/
def summary (s : Settings) (e : Entity) : CompiledEntity :=
  ⟨e.name, s.groupOr e.stack, e.directive.steps e.name, e.pipelines⟩

end Entity

namespace Compilation

variable {α β : Type} {a a' : Arena} {s : Settings}

/-- A step that is done for its effect, where its value is known beforehand. -/
theorem mapM_eq_forM {f : α → Compilation β} {g : α → Compilation Unit} {r : α → β} {xs : List α}
    (h : ∀ x ∈ xs, f x = g x >>= fun _ => pure (r x)) :
    xs.mapM f = xs.forM g >>= fun _ => pure (xs.map r) := by
  induction xs with
  | nil => rfl
  | cons x xs ih =>
    rw [List.mapM_cons, h x List.mem_cons_self, ih fun y hy => h y (List.mem_cons_of_mem _ hy)]
    change _ = (g x >>= fun _ => xs.forM g) >>= fun _ => pure ((x :: xs).map r)
    simp

theorem forM_flatMap (f : α → List β) (g : β → Compilation Unit) (xs : List α) :
    (xs.flatMap f).forM g = xs.forM fun x => (f x).forM g := by
  induction xs with
  | nil => rfl
  | cons x xs ih =>
    rw [List.flatMap_cons]
    change forM (f x ++ xs.flatMap f) g = (f x).forM g >>= fun _ => xs.forM fun x => (f x).forM g
    rw [List.forM_append, ← ih]
    rfl

theorem ext_run {x y : Compilation α} (h : ∀ a, x.run a = y.run a) : x = y := funext h

/-- The ids that an operation gives are known before it is compiled. -/
theorem compileOperation_eq (s : Settings) (t : Target) (before after : Option String)
    (group : String) : compileOperation s t before after group =
      compileOperation s t before after group >>= fun _ =>
        pure (t.pipelineId, t.functions before after) := by
  apply ext_run
  intro a
  rcases compileOperation_cases s t before after group a with
    ⟨_, h⟩ | ⟨_, _, _, h⟩ | ⟨_, _, h⟩ | ⟨r, properties, request, hw⟩
  · rw [run_bind_of_error h, h]
  · rw [run_bind_of_error h, h]
  · rw [run_bind_of_error h, h]
  · rw [run_bind_of_ok (run_compileOperation hw), run_compileOperation hw]
    rfl

theorem buildHookSteps_eq (s : Settings) (d : Directive) (entity group : String) :
    buildHookSteps s d entity group =
      (d.stages.map fun stage => Job.hook d entity stage group).forM (Job.perform s) >>=
        fun _ => pure (d.steps entity) := by
  rw [buildHookSteps, List.forM_eq_forM, List.forM_map]
  apply mapM_eq_forM
  intro stage _
  apply ext_run
  intro a
  simp only [Job.perform, bind_assoc]
  rw [run_bind_of_ok (run_ensure ..), run_bind_of_ok (run_ensure ..),
    run_bind_of_ok (run_buildHookStep ..), run_bind_of_ok (run_buildHookStep ..)]
  rfl

theorem compileOperations_eq (s : Settings) (e : Entity) :
    compileOperations s e.directive (e.directive.steps e.name) (s.groupOr e.stack) e.targets =
      (e.operationJobs s).forM (Job.perform s) >>= fun _ => pure e.pipelines := by
  rw [compileOperations, Entity.operationJobs, List.forM_eq_forM, List.forM_map, Entity.pipelines]
  apply mapM_eq_forM
  intro t _
  simp only [Directive.stepFor_steps, Job.perform, Entity.operationJob]
  rw [compileOperation_eq]
  simp [Entity.functions]

theorem run_directed {e : Entity} {d : Directive} (h : e.hookOfModel = .ok d) (a : Arena) :
    (directed e.hookOfModel).run a = .ok d a := by
  rw [h]
  rfl

theorem compileEntity_eq {e : Entity} (h : e.hookOfModel = .ok e.directive) :
    compileEntity s e = (e.jobs s).forM (Job.perform s) >>= fun _ => pure (e.summary s) := by
  apply ext_run
  intro a
  rw [compileEntity, run_bind_of_ok (run_directed h a)]
  simp only [buildHookSteps_eq, bind_assoc, pure_bind, compileOperations_eq, Entity.jobs,
    List.forM_eq_forM, List.forM_append]
  rfl

/-- The jobs of a run. -/
def plan (s : Settings) (entities : List Entity) : List Job :=
  (entities.filter Entity.isHooked).flatMap (Entity.jobs s)

theorem run_forM_directed {es : List Entity} (h : ∀ e ∈ es, e.hookOfModel = .ok e.directive)
    (a : Arena) :
    (es.forM fun e => do let _ ← directed e.hookOfModel).run a = .ok () a := by
  induction es with
  | nil => rfl
  | cons e es ih =>
    have he : (do let _ ← directed e.hookOfModel : Compilation Unit).run a = .ok () a := by
      rw [run_bind_of_ok (run_directed (h e List.mem_cons_self) a)]
      rfl
    change ((do let _ ← directed e.hookOfModel : Compilation Unit) >>= fun _ =>
      es.forM fun e => do let _ ← directed e.hookOfModel).run a = _
    rw [run_bind_of_ok he, ih fun e' he' => h e' (List.mem_cons_of_mem _ he')]

/-- A run of valid entities is the performance of its jobs. -/
theorem run_transform {entities : List Entity}
    (h : ∀ e ∈ entities.filter Entity.isHooked, e.hookOfModel = .ok e.directive) (a : Arena) :
    (transform s entities).run a = ((plan s entities).forM (Job.perform s) >>= fun _ =>
      pure ((entities.filter Entity.isHooked).map (Entity.summary s))).run a := by
  rw [transform, run_bind_of_ok (run_forM_directed h a), plan, forM_flatMap,
    ← mapM_eq_forM fun e he => compileEntity_eq (h e he)]

end Compilation

end ResolverHooks
