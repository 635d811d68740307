import ResolverHooks.Hook.Directive
import ResolverHooks.Proofs.Document.Schema

/-!
The arguments of a directive: what is accepted, and what an accepted directive means. A null says
the same as nothing for everything but the name. A text may be given as the bytes of its UTF-8 form.
-/
namespace ResolverHooks

namespace Flags

variable {v v' : Value} {es es' : List (Scalar × Value)} {f : Flags} {o : Operation} {b : Bool}

/-- The entries that are accepted for a stage: operations, each with a value that stands for a truth
value, or null. -/
structure IsForm (es : List (Scalar × Value)) : Prop where
  keys : ∀ e ∈ es, ∃ o : Operation, e.1 = .str o.word
  flags : ∀ (o : Operation) v, Entries.given? o.word es = some v → ∃ b, v.Says b

/-- Mappings that differ only in what is null and what is missing. -/
structure SameFlags (es es' : List (Scalar × Value)) : Prop where
  flags : ∀ o : Operation, Entries.given? o.word es = Entries.given? o.word es'
  others : Entries.others (fields.map Operation.word) es =
    Entries.others (fields.map Operation.word) es'

theorem checkFlag_eq (es : List (Scalar × Value)) (o : Operation) : checkFlag es o =
    Checked.at_ (.name o.word) (((Entries.given? o.word es).map Schema.flag).getD (.ok false)) :=
  Schema.field_eq_given rfl fun v hv => by simp [hv]

theorem checkFlag_eq_ok_iff : checkFlag es o = .ok b ↔
    Entries.given? o.word es = Option.none ∧ b = false ∨
      ∃ v, Entries.given? o.word es = some v ∧ v.Says b := by
  simp only [checkFlag_eq, Schema.given_eq_ok_iff, Schema.flag_eq_ok_iff]

theorem exists_checkFlag_iff : (∃ b, checkFlag es o = .ok b) ↔
    ∀ v, Entries.given? o.word es = some v → ∃ b, v.Says b := by
  simp only [checkFlag_eq, Schema.exists_given_iff, Schema.flag_eq_ok_iff]

theorem exists_word_iff {k : Scalar} :
    (∃ n ∈ fields.map Operation.word, k = .str n) ↔ ∃ o : Operation, k = .str o.word := by
  have hall (o : Operation) : o ∈ fields := by cases o <;> decide
  simp only [List.mem_map]
  constructor
  · rintro ⟨_, ⟨o, _, rfl⟩, rfl⟩
    exact ⟨o, rfl⟩
  · rintro ⟨o, rfl⟩
    exact ⟨_, ⟨o, hall o, rfl⟩, rfl⟩

theorem check_eq_ok_iff : check v = .ok f ↔ ∃ es, v.entries = .ok es ∧
    (∀ o, checkFlag es o = .ok (f.enabled o)) ∧ ∀ e ∈ es, ∃ o : Operation, e.1 = .str o.word := by
  have hforall (p : Operation → Prop) :
      (∀ o, p o) ↔ p .get ∧ p .list ∧ p .create ∧ p .update ∧ p .delete := by
    refine ⟨fun h => ⟨h _, h _, h _, h _, h _⟩, ?_⟩
    rintro ⟨hget, hlist, hcreate, hupdate, hdelete⟩ o
    cases o <;> assumption
  rw [check, bind_eq_ok_iff]
  refine exists_congr fun es => and_congr Schema.form_eq_ok_iff ?_
  rw [Checked.fst_both_eq_ok_iff, Schema.noOther_eq_ok_iff, hforall]
  simp only [exists_word_iff, Checked.apply_eq_ok_iff]
  refine and_congr_left fun _ => ?_
  constructor
  · rintro ⟨_, delete,
      ⟨_, update, ⟨_, create, ⟨_, list, ⟨_, get, ⟨⟩, hget, rfl⟩, hlist, rfl⟩, hcreate, rfl⟩,
      hupdate, rfl⟩, hdelete, rfl⟩
    exact ⟨hget, hlist, hcreate, hupdate, hdelete⟩
  · rintro ⟨hget, hlist, hcreate, hupdate, hdelete⟩
    exact ⟨_, _,
      ⟨_, _, ⟨_, _, ⟨_, _, ⟨_, _, rfl, hget, rfl⟩, hlist, rfl⟩, hcreate, rfl⟩, hupdate, rfl⟩,
      hdelete, rfl⟩

theorem exists_check_iff : (∃ f, check v = .ok f) ↔ ∃ es, v.entries = .ok es ∧ IsForm es := by
  simp only [check_eq_ok_iff]
  constructor
  · rintro ⟨f, es, hes, hflags, hkeys⟩
    exact ⟨es, hes, hkeys, fun o => exists_checkFlag_iff.mp ⟨_, hflags o⟩⟩
  · rintro ⟨es, hes, hkeys, hstands⟩
    choose g hg using fun o => exists_checkFlag_iff.mpr (hstands o)
    refine ⟨⟨g .get, g .list, g .create, g .update, g .delete⟩, es, hes, fun o => ?_, hkeys⟩
    cases o <;> exact hg _

/-- An operation is on exactly if its flag is there and says so. -/
theorem enabled_iff (h : check v = .ok f) (hes : v.entries = .ok es) :
    f.enabled o = true ↔ ∃ w, Entries.given? o.word es = some w ∧ w.Says true := by
  obtain ⟨es', hes', hflags, _⟩ := check_eq_ok_iff.mp h
  obtain rfl : es = es' := Except.ok.inj (hes.symm.trans hes')
  constructor
  · intro hon
    rw [← hon]
    rcases checkFlag_eq_ok_iff.mp (hflags o) with ⟨_, hoff⟩ | hw
    · rw [hon] at hoff
      cases hoff
    · exact hw
  · rintro ⟨w, hw, hstands⟩
    have hon : checkFlag es o = .ok true := checkFlag_eq_ok_iff.mpr (Or.inr ⟨w, hw, hstands⟩)
    exact Except.ok.inj ((hflags o).symm.trans hon)

/-- What is checked reads a flag and the other entries alone. -/
theorem check_congr (hes : v.entries = .ok es) (hes' : v'.entries = .ok es')
    (h : SameFlags es es') :
    check v = check v' := by
  have hflag (o : Operation) : checkFlag es o = checkFlag es' o := by
    rw [checkFlag_eq, checkFlag_eq, h.flags]
  rw [check, check, Schema.form_eq_ok_iff.mpr hes, Schema.form_eq_ok_iff.mpr hes']
  simp only [bind, Except.bind, hflag, Schema.noOther_congr h.others]

end Flags

namespace Directive

variable {v v' w : Value} {es es' : List (Scalar × Value)} {d : Directive} {r : Option String}
  {stage : Stage} {entity : String}

/-- A text of blanks only. -/
def IsBlank (v : Value) : Prop := ∃ s, v = .str s ∧ Text.isBlankText s = true

/-- The entries that are accepted: a name, and a region and the flags of both stages unless they are
null. -/
structure IsForm (es : List (Scalar × Value)) : Prop where
  keys : ∀ e ∈ es, ∃ n ∈ fields, e.1 = .str n
  name : ∃ v s, Entries.find? (.str "name") es = some v ∧ v.IsText s ∧ s ≠ ""
  region : ∀ v, Entries.given? "region" es = some v → ∃ s, v.IsText s
  stages : ∀ (stage : Stage) v, Entries.given? stage.word es = some v →
    ∃ fs, v.entries = .ok fs ∧ Flags.IsForm fs

/-- What an accepted directive says of the entries it was read from. -/
structure Means (es : List (Scalar × Value)) (d : Directive) : Prop where
  name : ∃ v, Entries.find? (.str "name") es = some v ∧ v.IsText d.name
  region : ∀ r, d.region = some r → ∃ v, Entries.given? "region" es = some v ∧ v.IsText r
  /-- No region is meant exactly if none is given, or a blank text. -/
  noRegion : d.region = none ↔ ∀ v, Entries.given? "region" es = some v → IsBlank v
  enabled : ∀ stage o, (d.stage stage).enabled o = true ↔
    ∃ v fs w, Entries.given? stage.word es = some v ∧ v.entries = .ok fs ∧
      Entries.given? o.word fs = some w ∧ w.Says true
  anyEnabled : ∀ stage, (d.stage stage).anyEnabled = true ↔ ∃ o, (d.stage stage).enabled o = true

/-- Arguments that differ only in what is null and what is missing. -/
structure SameArguments (es es' : List (Scalar × Value)) : Prop where
  name : Entries.find? (.str "name") es = Entries.find? (.str "name") es'
  region : Entries.given? "region" es = Entries.given? "region" es'
  stages : ∀ stage : Stage, Option.Rel (fun v v' => v = v' ∨
    ∃ fs fs', v.entries = .ok fs ∧ v'.entries = .ok fs' ∧ Flags.SameFlags fs fs')
    (Entries.given? stage.word es) (Entries.given? stage.word es')
  others : Entries.others fields es = Entries.others fields es'

/-- A region that is given is a text, and a blank one means none. -/
theorem checkRegion_eq_ok_iff (hw : w.isNull = false) : checkRegion w = .ok r ↔
    IsBlank w ∧ r = none ∨ ¬ IsBlank w ∧ ∃ s, w.IsText s ∧ r = some s := by
  by_cases hblank : IsBlank w
  · have hnone : checkRegion w = .ok none := by
      obtain ⟨s, rfl, hs⟩ := hblank
      rw [checkRegion, if_pos hs]
    rw [hnone, or_iff_left (fun h => h.1 hblank), and_iff_right hblank, Except.ok.injEq, eq_comm]
  · have htext : checkRegion w = (Schema.text w).map some := by
      rw [checkRegion.eq_def]
      split
      · rename_i s
        have hs : ¬ Text.isBlankText s = true := fun hs => hblank ⟨s, rfl, hs⟩
        rw [if_neg hs]
        rfl
      · simp [Schema.nullable, hw]
    have hmap : (Schema.text w).map some = .ok r ↔ ∃ s, Schema.text w = .ok s ∧ r = some s := by
      cases Schema.text w <;> simp [Except.map, eq_comm]
    rw [htext, hmap, or_iff_right (fun h => hblank h.1), and_iff_right hblank]
    simp only [Schema.text_eq_ok_iff]

theorem exists_checkRegion_iff (hw : w.isNull = false) :
    (∃ r, checkRegion w = .ok r) ↔ ∃ s, w.IsText s := by
  simp only [checkRegion_eq_ok_iff hw]
  constructor
  · rintro ⟨r, ⟨⟨s, rfl, _⟩, _⟩ | ⟨_, s, hs, _⟩⟩
    · exact ⟨s, .itself s⟩
    · exact ⟨s, hs⟩
  · rintro ⟨s, hs⟩
    by_cases hblank : IsBlank w
    · exact ⟨none, Or.inl ⟨hblank, rfl⟩⟩
    · exact ⟨some s, Or.inr ⟨hblank, s, hs, rfl⟩⟩

theorem region_eq (es : List (Scalar × Value)) : Schema.field es "region" (.ok none) checkRegion =
    Checked.at_ (.name "region") (((Entries.given? "region" es).map checkRegion).getD (.ok none)) :=
  Schema.field_eq_given rfl fun _ _ => rfl

theorem checkStage_eq (es : List (Scalar × Value)) (stage : Stage) : checkStage es stage =
    Checked.at_ (.name stage.word)
      (((Entries.given? stage.word es).map Flags.check).getD (.ok .none)) :=
  Schema.field_eq_given (by decide) fun v hv => by simp [hv]

theorem check_eq_ok_iff : check v = .ok d ↔ ∃ es, v.entries = .ok es ∧
    Schema.field es "name" (.fail .required) Schema.nonEmptyText = .ok d.name ∧
    Schema.field es "region" (.ok none) checkRegion = .ok d.region ∧
    (∀ stage, checkStage es stage = .ok (d.stage stage)) ∧
      ∀ e ∈ es, ∃ n ∈ fields, e.1 = .str n := by
  have hforall (p : Stage → Prop) : (∀ stage, p stage) ↔ p .before ∧ p .after := by
    refine ⟨fun h => ⟨h _, h _⟩, ?_⟩
    rintro ⟨hbefore, hafter⟩ stage
    cases stage <;> assumption
  rw [check, bind_eq_ok_iff]
  refine exists_congr fun es => and_congr Schema.form_eq_ok_iff ?_
  rw [Checked.fst_both_eq_ok_iff, Schema.noOther_eq_ok_iff, hforall]
  simp only [Checked.apply_eq_ok_iff]
  constructor
  · rintro
      ⟨⟨_, after, ⟨_, before, ⟨_, region, ⟨_, name, ⟨⟩, hname, rfl⟩, hregion, rfl⟩, hbefore, rfl⟩,
        hafter, rfl⟩,
      hkeys⟩
    exact ⟨hname, hregion, ⟨hbefore, hafter⟩, hkeys⟩
  · rintro ⟨hname, hregion, ⟨hbefore, hafter⟩, hkeys⟩
    exact ⟨⟨_, _, ⟨_, _, ⟨_, _, ⟨_, _, rfl, hname, rfl⟩, hregion, rfl⟩, hbefore, rfl⟩, hafter, rfl⟩,
      hkeys⟩

theorem region_eq_ok_iff : Schema.field es "region" (.ok none) checkRegion = .ok r ↔
    Entries.given? "region" es = none ∧ r = none ∨
      ∃ w, Entries.given? "region" es = some w ∧ checkRegion w = .ok r := by
  rw [region_eq, Schema.given_eq_ok_iff]

theorem exists_region_iff : (∃ r, Schema.field es "region" (.ok none) checkRegion = .ok r) ↔
    ∀ v, Entries.given? "region" es = some v → ∃ s, v.IsText s := by
  simp only [region_eq, Schema.exists_given_iff]
  exact forall_congr' fun v => imp_congr_right fun hv =>
    exists_checkRegion_iff (Entries.isNull_of_given? hv)

theorem checkStage_eq_ok_iff {f : Flags} : checkStage es stage = .ok f ↔
    Entries.given? stage.word es = none ∧ f = .none ∨
      ∃ w, Entries.given? stage.word es = some w ∧ Flags.check w = .ok f := by
  rw [checkStage_eq, Schema.given_eq_ok_iff]

theorem exists_checkStage_iff : (∃ f, checkStage es stage = .ok f) ↔
    ∀ v, Entries.given? stage.word es = some v → ∃ fs, v.entries = .ok fs ∧ Flags.IsForm fs := by
  simp only [checkStage_eq, Schema.exists_given_iff, Flags.exists_check_iff]

/-- What the region of a directive says of the entry it was read from. -/
theorem region_means (h : Schema.field es "region" (.ok none) checkRegion = .ok r) :
    (∀ s, r = some s → ∃ v, Entries.given? "region" es = some v ∧ v.IsText s) ∧
      (r = none ↔ ∀ v, Entries.given? "region" es = some v → IsBlank v) := by
  rcases region_eq_ok_iff.mp h with ⟨hnone, rfl⟩ | ⟨w, hw, hcheck⟩
  · simp [hnone]
  · simp only [hw, Option.some.injEq, forall_eq', exists_eq_left']
    have hw := Entries.isNull_of_given? hw
    rcases (checkRegion_eq_ok_iff hw).mp hcheck with ⟨hblank, rfl⟩ | ⟨hblank, s, hs, rfl⟩
    · exact ⟨fun s hs => absurd hs (by simp), iff_of_true rfl hblank⟩
    · exact ⟨fun s' hs' => Option.some.inj hs' ▸ hs, iff_of_false (by simp) hblank⟩

theorem stage_enabled_iff {f : Flags} {o : Operation} (h : checkStage es stage = .ok f) :
    f.enabled o = true ↔ ∃ v fs w, Entries.given? stage.word es = some v ∧ v.entries = .ok fs ∧
      Entries.given? o.word fs = some w ∧ w.Says true := by
  rcases checkStage_eq_ok_iff.mp h with ⟨hnone, rfl⟩ | ⟨v, hv, hcheck⟩
  · refine iff_of_false (by cases o <;> decide) ?_
    rintro ⟨v, _, _, hv, _⟩
    exact absurd (hv.symm.trans hnone) (by simp)
  · obtain ⟨fs, hfs, _⟩ := Flags.check_eq_ok_iff.mp hcheck
    rw [Flags.enabled_iff hcheck hfs]
    constructor
    · rintro ⟨w, hw, hstands⟩
      exact ⟨v, fs, w, hv, hfs, hw, hstands⟩
    · rintro ⟨v', fs', w, hv', hfs', hw, hstands⟩
      obtain rfl : v = v' := Option.some.inj (hv.symm.trans hv')
      obtain rfl : fs = fs' := Except.ok.inj (hfs.symm.trans hfs')
      exact ⟨w, hw, hstands⟩

theorem isForm_of_check (h : check v = .ok d) :
    ∃ es, v.entries = .ok es ∧ IsForm es ∧ Means es d := by
  obtain ⟨es, hes, hname, hregion, hstages, hkeys⟩ := check_eq_ok_iff.mp h
  obtain ⟨w, hw, hname⟩ := Schema.field_required_eq_ok_iff.mp hname
  obtain ⟨htext, hne⟩ := Schema.nonEmptyText_eq_ok_iff.mp hname
  obtain ⟨hsome, hnone⟩ := region_means hregion
  have hform : IsForm es :=
    ⟨hkeys, ⟨w, _, hw, htext, hne⟩, exists_region_iff.mp ⟨_, hregion⟩,
      fun stage => exists_checkStage_iff.mp ⟨_, hstages stage⟩⟩
  refine ⟨es, hes, hform, ⟨w, hw, htext⟩, hsome, hnone,
    fun stage o => stage_enabled_iff (hstages stage), fun _ => Flags.anyEnabled_iff⟩

theorem exists_check_of_isForm (hes : v.entries = .ok es) (h : IsForm es) :
    ∃ d, check v = .ok d := by
  obtain ⟨w, name, hw, htext, hne⟩ := h.name
  have hname : Schema.field es "name" (.fail .required) Schema.nonEmptyText = .ok name :=
    Schema.field_required_eq_ok_iff.mpr ⟨w, hw, Schema.nonEmptyText_eq_ok_iff.mpr ⟨htext, hne⟩⟩
  obtain ⟨region, hregion⟩ := exists_region_iff.mpr h.region
  choose f hf using fun stage => exists_checkStage_iff.mpr (h.stages stage)
  refine ⟨⟨name, region, f .before, f .after⟩,
    check_eq_ok_iff.mpr ⟨es, hes, hname, hregion, ?_, h.keys⟩⟩
  rintro (_ | _) <;> exact hf _

theorem check_congr (hes : v.entries = .ok es) (hes' : v'.entries = .ok es')
    (h : SameArguments es es') :
    check v = check v' := by
  have hname : Schema.field es "name" (.fail .required) Schema.nonEmptyText =
      Schema.field es' "name" (.fail .required) Schema.nonEmptyText := by
    rw [Schema.field, Schema.field, h.name]
  have hregion : Schema.field es "region" (.ok none) checkRegion =
      Schema.field es' "region" (.ok none) checkRegion := by
    rw [region_eq, region_eq, h.region]
  have hstage (stage : Stage) : checkStage es stage = checkStage es' stage := by
    have hrel := h.stages stage
    rw [checkStage_eq, checkStage_eq]
    generalize Entries.given? stage.word es = x at hrel ⊢
    generalize Entries.given? stage.word es' = x' at hrel ⊢
    cases hrel with
    | none => rfl
    | some hsame =>
      rcases hsame with rfl | ⟨fs, fs', hfs, hfs', hflags⟩
      · rfl
      · rw [Option.map_some, Option.map_some, Flags.check_congr hfs hfs' hflags]
  rw [check, check, Schema.form_eq_ok_iff.mpr hes, Schema.form_eq_ok_iff.mpr hes']
  simp only [bind, Except.bind, hname, hregion, hstage, Schema.noOther_congr h.others]

theorem ofArguments_eq (hes : v.entries = .ok es) :
    ofArguments v entity = (check v).mapError (.arguments entity) := by
  have hkept : (if v.isTruthy then v else .map []) = v := by
    cases v with
    | map es => cases es <;> rfl
    | _ => cases hes
  rw [ofArguments, hkept]

/-- No value but a mapping is accepted, as nothing has a name. -/
theorem entries_of_ofArguments (h : ofArguments v entity = .ok d) : ∃ es, v.entries = .ok es := by
  rw [ofArguments, mapError_eq_ok_iff] at h
  split at h
  · obtain ⟨es, hes, _⟩ := isForm_of_check h
    exact ⟨es, hes⟩
  · obtain ⟨es, hes, hform, _⟩ := isForm_of_check h
    obtain rfl : [] = es := Except.ok.inj hes
    obtain ⟨_, _, hname, _⟩ := hform.name
    cases hname

/-- Arguments are accepted exactly in their form, and a directive means what they say. Whatever else
is given, the fault is one of the arguments of this entity. Writing null or nothing makes no
difference. -/
theorem ofArguments_meaning (v : Value) (entity : String) :
    ((∃ d, ofArguments v entity = .ok d) ↔ ∃ es, v.entries = .ok es ∧ IsForm es) ∧
      (∀ d es, ofArguments v entity = .ok d → v.entries = .ok es → Means es d) ∧
      (∀ fault, ofArguments v entity = .error fault →
        ∃ problems, fault = .arguments entity problems) ∧
      ∀ v' es es', v.entries = .ok es → v'.entries = .ok es' → SameArguments es es' →
        ofArguments v entity = ofArguments v' entity := by
  have hread {d : Directive} {es : List (Scalar × Value)} (h : ofArguments v entity = .ok d)
      (hes : v.entries = .ok es) : IsForm es ∧ Means es d := by
    rw [ofArguments_eq hes, mapError_eq_ok_iff] at h
    obtain ⟨es', hes', hmeans⟩ := isForm_of_check h
    obtain rfl : es = es' := Except.ok.inj (hes.symm.trans hes')
    exact hmeans
  refine ⟨⟨?_, ?_⟩, fun d es h hes => (hread h hes).2, fun fault h => ?_,
    fun v' es es' hes hes' hsame => ?_⟩
  · rintro ⟨d, hd⟩
    obtain ⟨es, hes⟩ := entries_of_ofArguments hd
    exact ⟨es, hes, (hread hd hes).1⟩
  · rintro ⟨es, hes, hform⟩
    obtain ⟨d, hd⟩ := exists_check_of_isForm hes hform
    exact ⟨d, by rw [ofArguments_eq hes, mapError_eq_ok_iff, hd]⟩
  · rw [ofArguments] at h
    cases hcheck : check (if v.isTruthy then v else .map []) with
    | ok d =>
      rw [hcheck] at h
      cases h
    | error problems =>
      rw [hcheck] at h
      exact ⟨problems, (Except.error.inj h).symm⟩
  · rw [ofArguments_eq hes, ofArguments_eq hes', check_congr hes hes' hsame]

/-- A name may be given as bytes, which are no text. -/
theorem encodedName_accepted :
    ofArguments (.object [("name", .scalar (.bytes [102, 110]))]) "A" =
        .ok ⟨"fn", none, .none, .none⟩ ∧
      ∀ s, Value.scalar (.bytes [102, 110]) ≠ .str s := by
  exact ⟨by decide +kernel, fun s h => nomatch h⟩

example : ofArguments (.object [("name", .str "audit"), ("region", .null),
    ("before", .object [("create", .str "YES"), ("list", .null)])]) "Todo" =
      .ok ⟨"audit", none, ⟨false, false, true, false, false⟩, .none⟩ := by decide +kernel

end Directive

end ResolverHooks
