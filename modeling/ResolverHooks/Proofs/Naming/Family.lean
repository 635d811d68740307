import ResolverHooks.Hook.Directive
import ResolverHooks.Pipeline.Compute
import ResolverHooks.Proofs.Naming.LogicalId

/-!
Families of ids, whatever the digest is, as long as it has eight digits. Ids and role names are made
of letters and digits. Resources of different kinds never share an id: hook steps end as wrap steps
do, but open with a letter that no root type starts with.
-/
namespace ResolverHooks

/-- A text of ASCII letters and digits. -/
def IsAlphanumeric (cs : List Char) : Prop := ∀ c ∈ cs, c.isAlphanum = true

instance : DecidablePred IsAlphanumeric := fun cs =>
  List.decidableBAll (fun c : Char => c.isAlphanum = true) cs

theorem isAlphanumeric_append {cs ds : List Char} :
    IsAlphanumeric (cs ++ ds) ↔ IsAlphanumeric cs ∧ IsAlphanumeric ds := List.forall_mem_append

/-- Letters in upper case are letters. Characters of this class are few enough to look at each. -/
theorem isAlphanum_toUpper {c : Char} (h : c.isAlphanum = true) : c.toUpper.isAlphanum = true := by
  have hall : ∀ n ∈ List.range 128, (Char.ofNat n).isAlphanum = true →
      (Char.ofNat n).toUpper.isAlphanum = true := by decide +kernel
  have hlt : c.toNat < 128 := by
    unfold Char.isAlphanum Char.isAlpha Char.isUpper Char.isLower Char.isDigit at h
    simp only [Bool.or_eq_true, Bool.and_eq_true, decide_eq_true_eq, ge_iff_le,
      UInt32.le_iff_toNat_le] at h
    change c.val.toNat < 128
    grind
  have hc := hall c.toNat (List.mem_range.mpr hlt)
  rw [Char.ofNat_toNat] at hc
  exact hc h

theorem IsDigest.isAlphanumeric {text : String} (h : IsDigest text) :
    IsAlphanumeric text.toList := by
  have hall : IsAlphanumeric "0123456789ABCDEF".toList := by decide
  exact fun c hc => hall c (List.contains_iff_mem.mp (h.digits c hc))

namespace LogicalId

variable {digest : String → String}

/-- Whatever a fragment is, its stem keeps nothing but letters and digits. -/
theorem isAlphanumeric_stem (fragment : String) : IsAlphanumeric (stem fragment).toList := by
  have hcapital : ∀ {cs : List Char}, IsAlphanumeric cs → IsAlphanumeric (capitalize cs) := by
    intro cs h
    cases cs with
    | nil => exact h
    | cons c cs =>
      obtain ⟨hc, hcs⟩ := List.forall_mem_cons.mp h
      exact List.forall_mem_cons.mpr ⟨isAlphanum_toUpper hc, hcs⟩
  rw [stem, String.toList_ofList]
  apply hcapital
  intro c hc
  exact (List.mem_filter.mp hc).2

theorem isAlphanumeric_body (k : ResourceKind) (fs : List (Option String)) :
    IsAlphanumeric (body k fs) := by
  have hstems : IsAlphanumeric (String.join (fs.map fun f => stem (f.getD ""))).toList := by
    induction fs with
    | nil => exact List.forall_mem_nil _
    | cons f fs ih =>
      rw [List.map_cons, String.join_cons, String.toList_append]
      exact isAlphanumeric_append.mpr ⟨isAlphanumeric_stem _, ih⟩
  have hopening : IsAlphanumeric k.opening.toList := by cases k <;> decide
  have hending : IsAlphanumeric k.ending.toList := by cases k <;> decide
  exact isAlphanumeric_append.mpr ⟨isAlphanumeric_append.mpr ⟨hopening, hstems⟩, hending⟩

theorem isAlphanumeric_canonicalWith (hd : ∀ text, IsDigest (digest text)) (k : ResourceKind)
    (fs : List (Option String)) : IsAlphanumeric (canonicalWith digest k fs).toList := by
  rw [toList_canonicalWith]
  exact isAlphanumeric_append.mpr ⟨isAlphanumeric_body k fs, (hd _).isAlphanumeric⟩

/-- The part of a role name that can be read. -/
def roleStem (name : String) (region : Option String) (withEnvironment : Bool) : List Char :=
  (stem name ++ stem (region.getD "")).toList.take (roleNameLimit withEnvironment)

theorem toList_roleNameWith (digest : String → String) (name : String) (region : Option String)
    (withEnvironment : Bool) : (roleNameWith digest name region withEnvironment).toList =
      roleStem name region withEnvironment ++
        (digest (material .role [some name, region])).toList ++
        "LambdaRole".toList := by
  simp [roleNameWith, roleStem]

section

variable (hd : ∀ text, IsDigest (digest text)) (name : String) (region : Option String)
  (withEnvironment : Bool)

include hd

theorem isAlphanumeric_roleNameWith :
    IsAlphanumeric (roleNameWith digest name region withEnvironment).toList := by
  have hstem : IsAlphanumeric (roleStem name region withEnvironment) := by
    intro c hc
    have hmem := List.mem_of_mem_take hc
    rw [String.toList_append] at hmem
    exact isAlphanumeric_append.mpr ⟨isAlphanumeric_stem _, isAlphanumeric_stem _⟩ c hmem
  rw [toList_roleNameWith]
  exact isAlphanumeric_append.mpr
    ⟨isAlphanumeric_append.mpr ⟨hstem, (hd _).isAlphanumeric⟩, by decide⟩

/-- Digest and ending take eighteen characters. -/
theorem length_roleNameWith_le : (roleNameWith digest name region withEnvironment).length ≤
    roleNameLimit withEnvironment + 18 := by
  have hstem : (roleStem name region withEnvironment).length ≤ roleNameLimit withEnvironment :=
    List.length_take_le _ _
  have hending : "LambdaRole".toList.length = 10 := rfl
  rw [← String.length_toList, toList_roleNameWith, List.length_append, List.length_append,
    (hd _).length_eq, hending]
  omega

end

/-- What a compilation makes under an id of its own: the shared resources of a function, a step that
calls it at a stage of an entity, and step and pipeline of the field of an operation. -/
inductive Subject where
  | role (name : String) (region : Option String)
  | dataSource (name : String) (region : Option String)
  | hookStep (stage : Stage) (entity hookName : String) (region : Option String)
  | wrapStep (o : Operation) (fieldName : String)
  | pipeline (o : Operation) (fieldName : String)

namespace Subject

def kind : Subject → ResourceKind
  | role _ _ => .role
  | dataSource _ _ => .dataSource
  | hookStep _ _ _ _ => .hookStep
  | wrapStep _ _ => .wrapStep
  | pipeline _ _ => .pipeline

def fragments : Subject → List (Option String)
  | role name region | dataSource name region => [some name, region]
  | hookStep stage entity hookName region => [some stage.word, some entity, some hookName, region]
  | wrapStep o fieldName | pipeline o fieldName => [some o.rootType, some fieldName]

def idWith (digest : String → String) (x : Subject) : String :=
  canonicalWith digest x.kind x.fragments

variable {x y : Subject}

/-- The endings tell the kinds apart, all but hook steps and wrap steps, which their first letters
do. -/
theorem idWith_ne_of_kind_ne (hd : ∀ text, IsDigest (digest text)) (h : x.kind ≠ y.kind) :
    x.idWith digest ≠ y.idWith digest := by
  have hsteps : ∀ {x y : Subject}, x.kind = .hookStep → y.kind = .wrapStep →
      x.idWith digest ≠ y.idWith digest := by
    intro x y hx hy
    cases y with
    | wrapStep o fieldName =>
      rw [idWith, hx]
      exact hookStep_ne_wrapStep hd o fieldName
    | _ => cases hy
  intro heq
  rcases kind_of_canonicalWith_eq hd heq with hk | ⟨hx, hy⟩ | ⟨hx, hy⟩
  · exact h hk
  · exact hsteps hy hx heq.symm
  · exact hsteps hx hy heq

end Subject

/-- The stages of a hook are told apart, whatever entities and functions they belong to. -/
theorem hookStep_ne_of_stage_ne (hd : ∀ text, IsDigest (digest text)) {stage stage' : Stage}
    (h : stage ≠ stage') (fs fs' : List (Option String)) :
    canonicalWith digest .hookStep (some stage.word :: fs) ≠
      canonicalWith digest .hookStep (some stage'.word :: fs') := by
  cases stage with
  | before =>
    cases stage' with
    | before => exact absurd rfl h
    | after => exact hookStep_ne_of_stage hd fs fs'
  | after =>
    cases stage' with
    | before => exact (hookStep_ne_of_stage hd fs' fs).symm
    | after => exact absurd rfl h

/-- How long a role name can be. Behind a hyphen there is room for the id of an API. -/
def roleNameBound (withEnvironment : Bool) : Nat := if withEnvironment then 28 else 37

/-- Whatever fragments and digest are: ids and role names are letters and digits, the families of
ids are apart from each other and from the resolvers of the storage layer, and role names are
short. -/
theorem families_apart (hd : ∀ text, IsDigest (digest text)) :
    (∀ k fs, IsAlphanumeric (canonicalWith digest k fs).toList) ∧
    (∀ name region withEnvironment,
      IsAlphanumeric (roleNameWith digest name region withEnvironment).toList) ∧
    (∀ x y : Subject, x.kind ≠ y.kind → x.idWith digest ≠ y.idWith digest) ∧
    (∀ stage stage' entity entity' hookName hookName' region region', stage ≠ stage' →
      (Subject.hookStep stage entity hookName region).idWith digest ≠
        (Subject.hookStep stage' entity' hookName' region').idWith digest) ∧
    (∀ k fs o entity, canonicalWith digest k fs ≠ Target.resolverIdFor o entity) ∧
    (∀ name region withEnvironment,
      (roleNameWith digest name region withEnvironment).length ≤ roleNameBound withEnvironment ∧
      ∀ apiId : String, apiId.length = 26 →
        (roleNameWith digest name region withEnvironment ++ "-" ++ apiId).length ≤ 64) := by
  refine ⟨isAlphanumeric_canonicalWith hd, isAlphanumeric_roleNameWith hd,
    fun x y => Subject.idWith_ne_of_kind_ne hd, ?_,
    fun k fs => canonicalWith_ne_resolverIdFor hd, ?_⟩
  · intro stage stage' entity entity' hookName hookName' region region' hne
    exact hookStep_ne_of_stage_ne hd hne _ _
  · intro name region withEnvironment
    have hlength := length_roleNameWith_le hd name region withEnvironment
    refine ⟨?_, ?_⟩
    · cases withEnvironment <;> exact hlength
    · intro apiId hapi
      have hlimit : roleNameLimit withEnvironment ≤ 19 := by cases withEnvironment <;> decide
      have hhyphen : "-".length = 1 := rfl
      rw [String.length_append, String.length_append, hapi, hhyphen]
      omega

theorem families_apart_audit :
    let i := Identity.ofNames "customerauditlogger-$\x7benv\x7d" (some "eu-west-1")
    (∀ text, IsDigest (fingerprint text)) ∧
      IsAlphanumeric (hookStep "before" "Todo" i.name i.region).toList ∧
      hookStep "before" "Todo" i.name i.region ≠ wrapStep "Mutation" "createTodo" ∧
      hookStep "before" "Todo" i.name i.region ≠ hookStep "after" "Todo" i.name i.region ∧
      pipeline "Query" "getTodo" ≠ Target.resolverIdFor .get "Todo" ∧
      (roleName i.name i.region true).length ≤ 28 := by
  intro i
  obtain ⟨hids, _, hkinds, hstages, hresolvers, hnames⟩ := families_apart isDigest_fingerprint
  let x := Subject.hookStep .before "Todo" i.name i.region
  exact ⟨isDigest_fingerprint, hids .hookStep x.fragments,
    hkinds x (Subject.wrapStep .create "createTodo") (by decide),
    hstages .before .after "Todo" "Todo" i.name i.name i.region i.region (by decide),
    hresolvers .pipeline _ .get "Todo", (hnames i.name i.region true).1⟩

end LogicalId

end ResolverHooks
