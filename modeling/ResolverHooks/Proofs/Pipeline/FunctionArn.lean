import ResolverHooks.Pipeline.Compute
import ResolverHooks.Proofs.Resource.Substitution

/-!
The resource name of a hook function, whose name may mention the environment. With an environment
the mention is bound wherever it stands. Without one it is dropped, but only behind a hyphen: any
other mention stays and is bound to nothing.
-/
namespace ResolverHooks.FunctionArn

open Substitution

variable {cs r x : List Char} {c before : Char} {name : String} {region : Option String}
    {s : Settings}

/-- What stands in the placeholder for the environment. -/
def environmentName : List Char := "env".toList

theorem environmentMark_eq : environmentMark = ['$', '\x7b', 'e', 'n', 'v', '\x7d'] := rfl

theorem spelled_environmentName : spelled environmentName = environmentMark := rfl

theorem mentionsEnvironment_iff :
    mentionsEnvironment cs = true ↔ environmentName ∈ placeholders cs := by
  have hfree : '\x7d' ∉ environmentName := by decide
  have hmark : mentionsEnvironment cs = true ↔ environmentMark <:+: cs := by
    induction cs with
    | nil => decide
    | cons c cs ih =>
      rw [mentionsEnvironment, Bool.or_eq_true, List.isPrefixOf_iff_prefix, ih, List.infix_cons_iff]
  rw [hmark, mem_placeholders_iff, and_iff_right hfree, spelled_environmentName]

/-! Dropping the mentions behind hyphens. -/

theorem dropEnding_ending (cs : List Char) :
    dropEnding 0 (environmentEnding ++ cs) = dropEnding 0 cs := rfl

theorem dropEnding_cons (h : ¬ environmentEnding <+: c :: cs) :
    dropEnding 0 (c :: cs) = c :: dropEnding 0 cs := by
  rw [← List.isPrefixOf_iff_prefix] at h
  rw [dropEnding, if_neg (Nat.lt_irrefl 0), if_neg h]

/-- A mention that does not stand behind a hyphen is kept. -/
theorem dropEnding_mark (cs : List Char) :
    dropEnding 0 (environmentMark ++ cs) = environmentMark ++ dropEnding 0 cs := rfl

theorem mem_of_mem_dropEnding {skip : Nat} (h : c ∈ dropEnding skip cs) : c ∈ cs := by
  induction cs generalizing skip with
  | nil => exact h
  | cons d cs ih =>
    rw [dropEnding] at h
    split at h
    · exact List.mem_cons_of_mem _ (ih h)
    · split at h
      · exact List.mem_cons_of_mem _ (ih h)
      · rcases List.mem_cons.mp h with rfl | h
        · exact List.mem_cons_self
        · exact List.mem_cons_of_mem _ (ih h)

/-- A text is read from its start, one ending or else one character at a time. -/
theorem ending_induction {P : List Char → Prop} (nil : P [])
    (ending : ∀ cs, P cs → P (environmentEnding ++ cs))
    (cons : ∀ c cs, ¬ environmentEnding <+: c :: cs → P cs → P (c :: cs))
    (cs : List Char) : P cs := by
  induction hn : cs.length using Nat.strongRecOn generalizing cs with
  | ind n ih =>
    cases cs with
    | nil => exact nil
    | cons c cs =>
      by_cases h : environmentEnding <+: c :: cs
      · obtain ⟨rest, hrest⟩ := h
        have hlt : rest.length < n := by
          rw [← hn, ← hrest, List.length_append]
          exact Nat.lt_add_of_pos_left (by decide)
        rw [← hrest]
        exact ending rest (ih _ hlt rest rfl)
      · exact cons c cs h (ih _ (by simp [← hn]) cs rfl)

/-- The environment is mentioned other than behind a hyphen, in a text with the character `before`
before it. -/
def MentionsLoosely (before : Char) (cs : List Char) : Prop :=
  ∃ a b, cs = a ++ environmentMark ++ b ∧ a.getLastD before ≠ '-'

theorem mentionsLoosely_cons : MentionsLoosely before (c :: cs) ↔
    before ≠ '-' ∧ environmentMark <+: c :: cs ∨ MentionsLoosely c cs := by
  constructor
  · rintro ⟨a, b, h, hlast⟩
    cases a with
    | nil => exact Or.inl ⟨hlast, b, h.symm⟩
    | cons d a =>
      obtain ⟨rfl, hcs⟩ := List.cons.inj h
      rw [List.getLastD_cons] at hlast
      exact Or.inr ⟨a, b, hcs, hlast⟩
  · rintro (⟨hne, b, h⟩ | ⟨a, b, h, hlast⟩)
    · exact ⟨[], b, h.symm, hne⟩
    · exact ⟨c :: a, b, congrArg (c :: ·) h, by rwa [List.getLastD_cons]⟩

/-- Inside an ending the environment is mentioned behind its hyphen alone. -/
theorem mentionsLoosely_ending :
    MentionsLoosely before (environmentEnding ++ cs) ↔ MentionsLoosely '\x7d' cs := by
  simp [environmentEnding, environmentMark_eq, mentionsLoosely_cons]

/-- A loose mention outlives the dropping. -/
theorem mem_placeholders_dropEnding (h : MentionsLoosely before cs) :
    environmentName ∈ placeholders (dropEnding 0 cs) := by
  have hkept : environmentMark <:+: dropEnding 0 cs := by
    induction cs using ending_induction generalizing before with
    | nil =>
      obtain ⟨a, b, hnil, _⟩ := h
      simp [environmentMark_eq] at hnil
    | ending cs ih =>
      rw [dropEnding_ending]
      exact ih (mentionsLoosely_ending.mp h)
    | cons c cs hc ih =>
      rcases mentionsLoosely_cons.mp h with ⟨_, rest, hmark⟩ | hrest
      · rw [← hmark, dropEnding_mark]
        exact (List.prefix_append _ _).isInfix
      · rw [dropEnding_cons hc]
        exact List.infix_cons (ih hrest)
  exact mem_placeholders_iff.mpr ⟨by decide, hkept⟩

/-- Where a placeholder starts after the dropping, the name had its own placeholder. -/
theorem mark_prefix_of_opens (hcs : ∀ y ∈ placeholders (c :: cs), y = environmentName)
    (hending : ¬ environmentEnding <+: cs) (hc : c = '$')
    (hhead : (dropEnding 0 cs).head? = some '\x7b') (hmem : '\x7d' ∈ dropEnding 0 cs) :
    environmentMark <+: c :: cs := by
  cases cs with
  | nil => cases hhead
  | cons d cs =>
    rw [dropEnding_cons hending] at hhead hmem
    obtain rfl : d = '\x7b' := Option.some.inj hhead
    have hbrace : '\x7d' ∈ '\x7b' :: cs := List.mem_cons_of_mem _
      (mem_of_mem_dropEnding ((List.mem_cons.mp hmem).resolve_left (by decide)))
    have hname : cs.takeWhile (· != '\x7d') = environmentName := by
      apply hcs
      rw [placeholders, if_pos ⟨hc, rfl, hbrace⟩]
      exact List.mem_cons_self
    rw [← spelled_environmentName]
    exact (spelled_prefix_iff (by decide)).mpr ⟨⟨hc, rfl, hbrace⟩, hname⟩

/-- Dropping makes no placeholder, unless it joins a dollar sign to a brace. -/
theorem mentionsLoosely_of_mem_placeholders (hcs : ∀ y ∈ placeholders cs, y = environmentName)
    (hdollar : ¬ ('$' :: environmentEnding) <:+: cs)
    (hbefore : before = '-' → ¬ environmentMark <+: cs)
    (hx : x ∈ placeholders (dropEnding 0 cs)) :
    x = environmentName ∧ MentionsLoosely before cs := by
  -- the scan decides what is kept, so the induction follows it; `before` is the character it has
  -- just passed
  induction cs using ending_induction generalizing before with
  | nil => cases hx
  | ending cs ih =>
    have hsuffix : cs <:+: environmentEnding ++ cs := (List.suffix_append _ _).isInfix
    have hbrace : '\x7d' = '-' → ¬ environmentMark <+: cs := fun h => absurd h (by decide)
    rw [dropEnding_ending] at hx
    obtain ⟨hname, hloose⟩ := ih (fun y hy => hcs y (placeholders_mono hsuffix hy))
      (fun h => hdollar (h.trans hsuffix)) hbrace hx
    exact ⟨hname, mentionsLoosely_ending.mpr hloose⟩
  | cons c cs hc ih =>
    have hsuffix : cs <:+: c :: cs := (List.suffix_cons c cs).isInfix
    have hhyphen : c = '-' → ¬ environmentMark <+: cs := by
      rintro rfl ⟨rest, hrest⟩
      exact hc ⟨rest, congrArg ('-' :: ·) hrest⟩
    have htail := ih (fun y hy => hcs y (placeholders_mono hsuffix hy))
      (fun h => hdollar (h.trans hsuffix)) hhyphen
    rw [dropEnding_cons hc, placeholders] at hx
    split at hx
    -- a dollar sign that is kept opens a placeholder only where it stood in front of the same brace
    · rename_i hopen
      have hending : ¬ environmentEnding <+: cs := by
        rintro ⟨rest, hrest⟩
        exact hdollar ⟨[], rest, by rw [hopen.1, ← hrest]; rfl⟩
      have hmark := mark_prefix_of_opens hcs hending hopen.1 hopen.2.1 hopen.2.2
      have hkept : spelled environmentName <+: c :: dropEnding 0 cs := by
        obtain ⟨rest, hrest⟩ := hmark
        rw [← dropEnding_cons hc, ← hrest, dropEnding_mark]
        exact List.prefix_append _ _
      have hname : x = environmentName := by
        rcases List.mem_cons.mp hx with rfl | hx
        · exact ((spelled_prefix_iff (by decide)).mp hkept).2
        · exact (htail hx).1
      exact ⟨hname, mentionsLoosely_cons.mpr (Or.inl ⟨fun h => hbefore h hmark, hmark⟩)⟩
    · obtain ⟨hname, hloose⟩ := htail hx
      exact ⟨hname, mentionsLoosely_cons.mpr (Or.inr hloose)⟩

/-! The text in front of the name. -/

def beforeRegion : List Char := "arn:aws:lambda:".toList

/-- The region as it stands in the text. -/
def regionText (region : Option String) : List Char :=
  ((region.filter (· != "")).getD regionMark).toList

def behindRegion : List Char := ":".toList ++ accountMark.toList ++ ":function:".toList

/-- All that stands before the name. -/
def beforeName (region : Option String) : List Char :=
  beforeRegion ++ (regionText region ++ behindRegion)

theorem toList_key (name : String) (region : Option String) :
    (key name region).toList = beforeName region ++ name.toList := by
  have hkey : key name region =
      "arn:aws:lambda:" ++ (region.filter (· != "")).getD regionMark ++ ":" ++
        accountMark ++ ":function:" ++ name := rfl
  have hbefore : beforeName region = "arn:aws:lambda:".toList ++
      (((region.filter (· != "")).getD regionMark).toList ++
        (":".toList ++ accountMark.toList ++ ":function:".toList)) := rfl
  rw [hkey, hbefore]
  simp only [String.toList_append, List.append_assoc]

/-- Whatever a region leaves open, the placeholder for the account closes it. -/
theorem placeholders_key (name : String) (region : Option String) :
    placeholders (key name region).toList =
    placeholders (beforeName region) ++ placeholders name.toList := by
  have hbehind : IsComplete behindRegion ∧ '\x7d' ∈ behindRegion ∧
      behindRegion.getLast? = some ':' := by
    decide +kernel
  have hcomplete : IsComplete (beforeName region) := by
    rw [beforeName, ← List.append_assoc]
    exact IsComplete.append_of_mem _ hbehind.1 hbehind.2.1
  have hlast : (beforeName region).getLast? = some ':' := by
    rw [beforeName, ← List.append_assoc, List.getLast?_append, hbehind.2.2]
    rfl
  rw [toList_key]
  apply hcomplete.placeholders_append
  rw [hlast]
  exact fun h => absurd h (by decide)

/-- The region opens no placeholder, not even one that it leaves open. -/
def IsSealed (region : Option String) : Prop := ∀ r ∈ region, ¬ opening <:+: r.toList

instance : DecidablePred IsSealed := fun region => inferInstanceAs
  (Decidable (∀ r ∈ region, ¬ opening <:+: r.toList))

/-- Whatever a placeholder without an end is, the one for the account is read as part of it. -/
theorem mem_takeWhile_behindRegion (hr : '\x7d' ∉ r) :
    '$' ∈ (r ++ behindRegion).takeWhile (· != '\x7d') := by
  obtain ⟨y, tail, hbehind, hclosed, hdollar⟩ :
      ∃ y tail, behindRegion = y ++ '\x7d' :: tail ∧ '\x7d' ∉ y ∧ '$' ∈ y :=
    ⟨":$\x7bAWS::AccountId".toList, ":function:".toList, by decide +kernel⟩
  have hfree : '\x7d' ∉ r ++ y := fun h => (List.mem_append.mp h).elim hr hclosed
  rw [hbehind, ← List.append_assoc, takeWhile_closing hfree]
  exact List.mem_append_right r hdollar

/-- A region without placeholders adds none, unless it leaves one open. -/
theorem mem_placeholders_region (hr : placeholders r = [])
    (hx : x ∈ placeholders (r ++ behindRegion)) :
    IsPseudo x ∧ x ≠ environmentName ∨ opening <:+: r ∧ '$' ∈ x := by
  induction r with
  | nil =>
    have hall : ∀ x ∈ placeholders behindRegion, IsPseudo x ∧ x ≠ environmentName := by
      decide +kernel
    exact Or.inl (hall x hx)
  | cons c r ih =>
    have hclosed : ¬ (c = '$' ∧ r.head? = some '\x7b' ∧ '\x7d' ∈ r) := by
      intro h
      rw [placeholders, if_pos h] at hr
      cases hr
    rw [placeholders, if_neg hclosed] at hr
    have hlater : x ∈ placeholders (r ++ behindRegion) →
        IsPseudo x ∧ x ≠ environmentName ∨ opening <:+: c :: r ∧ '$' ∈ x :=
      fun h => (ih hr h).imp_right (And.imp_left List.infix_cons)
    rw [List.cons_append, placeholders] at hx
    split at hx
    · rename_i hopen
      rcases List.mem_cons.mp hx with rfl | hx
      · cases r with
        | nil => exact absurd hopen.2.1 (by decide +kernel)
        | cons d r =>
          obtain rfl : d = '\x7b' := Option.some.inj hopen.2.1
          have hfree : '\x7d' ∉ r := fun h => hclosed ⟨hopen.1, rfl, List.mem_cons_of_mem _ h⟩
          have hstart : opening <+: c :: '\x7b' :: r := ⟨r, by rw [hopen.1]; rfl⟩
          exact Or.inr ⟨hstart.isInfix, mem_takeWhile_behindRegion hfree⟩
      · exact hlater hx
    · exact hlater hx

theorem exists_placeholder_of_opening (hr : placeholders r = []) (h : opening <:+: r) :
    ∃ x ∈ placeholders (r ++ behindRegion), '$' ∈ x := by
  obtain ⟨a, b, rfl⟩ := h
  have hfree : '\x7d' ∉ b := by
    intro hmem
    have hin := placeholders_mono (List.suffix_append a (opening ++ b)).isInfix
      (takeWhile_mem_placeholders hmem)
    rw [← List.append_assoc, hr] at hin
    cases hin
  have hend : '\x7d' ∈ b ++ behindRegion := List.mem_append_right b (by decide +kernel)
  refine ⟨_, placeholders_mono ?_ (takeWhile_mem_placeholders hend),
    mem_takeWhile_behindRegion hfree⟩
  rw [List.append_assoc, List.append_assoc]
  exact (List.suffix_append a _).isInfix

theorem placeholders_beforeName (region : Option String) :
    placeholders (beforeName region) = placeholders (regionText region ++ behindRegion) := by
  have hbefore : IsComplete beforeRegion ∧ placeholders beforeRegion = [] ∧
      beforeRegion.getLast? = some ':' := by
    decide +kernel
  have hjoin : beforeRegion.getLast? = some '$' →
      (regionText region ++ behindRegion).head? ≠ some '\x7b' := by
    rw [hbefore.2.2]
    exact fun h => absurd h (by decide)
  rw [beforeName, hbefore.1.placeholders_append hjoin, hbefore.2.1, List.nil_append]

theorem regionText_cases (region : Option String) :
    regionText region = regionMark.toList ∧ IsSealed region ∨
      ∃ r, region = some r ∧ regionText region = r.toList := by
  cases region with
  | none => exact Or.inl ⟨rfl, fun r hr => nomatch hr⟩
  | some r =>
    by_cases hr : r = ""
    · subst hr
      exact Or.inl ⟨rfl, by decide⟩
    · have hkept : (some r).filter (· != "") = some r := by
        simp [hr]
      exact Or.inr ⟨r, rfl, by rw [regionText, hkept, Option.getD_some]⟩

/-- What stands before the name mentions the environment nowhere, and is filled by every deployment
if the region is sealed. -/
theorem mem_placeholders_beforeName (hregion : ∀ r ∈ region, placeholders r.toList = [])
    (hx : x ∈ placeholders (beforeName region)) :
    x ≠ environmentName ∧ (IsSealed region → IsPseudo x) := by
  rw [placeholders_beforeName] at hx
  rcases regionText_cases region with ⟨htext, _⟩ | ⟨r, rfl, htext⟩
  · have hall : ∀ x ∈ placeholders (regionMark.toList ++ behindRegion), x ≠ environmentName ∧
        IsPseudo x := by
      decide +kernel
    rw [htext] at hx
    exact ⟨(hall x hx).1, fun _ => (hall x hx).2⟩
  · rw [htext] at hx
    rcases mem_placeholders_region (hregion r rfl) hx with ⟨hpseudo, hname⟩ | ⟨hopen, hdollar⟩
    · exact ⟨hname, fun _ => hpseudo⟩
    · refine ⟨?_, fun hsealed => absurd hopen (hsealed r rfl)⟩
      rintro rfl
      exact absurd hdollar (by decide)

theorem isSealed_of_forall (hregion : ∀ r ∈ region, placeholders r.toList = [])
    (h : ∀ x ∈ placeholders (beforeName region), IsPseudo x ∨ x = environmentName) :
    IsSealed region := by
  rcases regionText_cases region with ⟨_, hsealed⟩ | ⟨r, rfl, htext⟩
  · exact hsealed
  · intro r' hr' hopen
    obtain rfl : r = r' := Option.some.inj hr'
    obtain ⟨x, hx, hdollar⟩ := exists_placeholder_of_opening (hregion r rfl) hopen
    rw [placeholders_beforeName, htext] at h
    rcases h x hx with hpseudo | rfl
    · exact not_isPseudo_of_mem hdollar hpseudo
    · exact absurd hdollar (by decide)

/-! Both texts. -/

/-- The text for deployments with an environment. -/
def withEnvironment (name : String) (region : Option String) (s : Settings) : Substitution :=
  ⟨key name region, bindings name s⟩

/-- The text for deployments without one. -/
def plain (name : String) (region : Option String) : Substitution :=
  ⟨key (withoutEnvironment name) region, []⟩

theorem eq_environmentName_of_bound {b : Scalar × Value} (hb : b ∈ bindings name s)
    (hbound : b.1 = .str (String.ofList x)) : x = environmentName := by
  rw [bindings] at hb
  split at hb
  · obtain rfl := List.mem_singleton.mp hb
    have htext : "env" = String.ofList x := Scalar.str.inj hbound
    rw [environmentName, htext, String.toList_ofList]
  · cases hb

theorem withEnvironment_isClosed_iff (hname : ∀ x ∈ placeholders name.toList, x = environmentName)
    (hregion : ∀ r ∈ region, placeholders r.toList = []) :
    (withEnvironment name region s).IsClosed ↔ IsSealed region := by
  have hplaceholders : placeholders (withEnvironment name region s).template.toList =
    placeholders (beforeName region) ++ placeholders name.toList := placeholders_key name region
  rw [Substitution.IsClosed, hplaceholders]
  constructor
  · intro hclosed
    refine isSealed_of_forall hregion fun x hx =>
      (hclosed x (List.mem_append_left _ hx)).imp_right ?_
    rintro ⟨b, hb, hbound⟩
    exact eq_environmentName_of_bound hb hbound
  · intro hsealed x hx
    rcases List.mem_append.mp hx with hx | hx
    · exact Or.inl ((mem_placeholders_beforeName hregion hx).2 hsealed)
    · obtain rfl := hname x hx
      refine Or.inr ⟨(.str "env", Intrinsic.ref (.str s.envParameter)), ?_, rfl⟩
      have hmentions : referencesEnvironment name = true := mentionsEnvironment_iff.mpr hx
      change _ ∈ bindings name s
      rw [bindings, if_pos hmentions]
      exact List.mem_singleton_self _

theorem plain_isClosed_iff (name : String) (hregion : ∀ r ∈ region, placeholders r.toList = []) :
    (plain name region).IsClosed ↔
      IsSealed region ∧ ∀ x ∈ placeholders (withoutEnvironment name).toList, IsPseudo x := by
  have hplaceholders : placeholders (plain name region).template.toList =
    placeholders (beforeName region) ++ placeholders (withoutEnvironment name).toList :=
      placeholders_key _ region
  have hunbound (x : List Char) :
      (IsPseudo x ∨ ∃ b ∈ (plain name region).bindings, b.1 = .str (String.ofList x)) ↔
        IsPseudo x :=
    or_iff_left fun ⟨_, hb, _⟩ => nomatch hb
  simp only [Substitution.IsClosed, hplaceholders, hunbound, List.mem_append, or_imp, forall_and]
  refine and_congr_left fun _ => ⟨fun h => ?_, fun h x hx => ?_⟩
  · exact isSealed_of_forall hregion fun x hx => Or.inl (h x hx)
  · exact (mem_placeholders_beforeName hregion hx).2 h

theorem plain_mentionsEnvironment_iff (name : String)
    (hregion : ∀ r ∈ region, placeholders r.toList = []) :
    mentionsEnvironment (plain name region).template.toList = true ↔
      environmentName ∈ placeholders (withoutEnvironment name).toList := by
  have hplaceholders : placeholders (plain name region).template.toList =
    placeholders (beforeName region) ++ placeholders (withoutEnvironment name).toList :=
      placeholders_key _ region
  rw [mentionsEnvironment_iff, hplaceholders, List.mem_append]
  exact or_iff_right fun h => (mem_placeholders_beforeName hregion h).1 rfl

/-- With an environment the text is closed, wherever the name mentions it, if the region is sealed.
Without one the name must be closed as well once the endings are dropped. A mention other than
behind a hyphen keeps it open, and is the only thing that does, unless dropping an ending joins a
dollar sign to what follows. A colon stands in front of the name. -/
theorem value_isClosed_iff (hname : ∀ x ∈ placeholders name.toList, x = environmentName)
    (hregion : ∀ r ∈ region, placeholders r.toList = []) :
    value name region s = Intrinsic.ifElse (.str s.envCondition)
        (withEnvironment name region s).value (plain name region).value ∧
      ((withEnvironment name region s).IsClosed ↔ IsSealed region) ∧
      ((plain name region).IsClosed ↔
        IsSealed region ∧ ∀ x ∈ placeholders (withoutEnvironment name).toList, IsPseudo x) ∧
      (MentionsLoosely ':' name.toList →
        mentionsEnvironment (plain name region).template.toList = true) ∧
      (¬ ('$' :: environmentEnding) <:+: name.toList →
        ((plain name region).IsClosed ↔ IsSealed region ∧ ¬ MentionsLoosely ':' name.toList) ∧
        (mentionsEnvironment (plain name region).template.toList = true ↔
          MentionsLoosely ':' name.toList)) := by
  have hdropped : (withoutEnvironment name).toList = dropEnding 0 name.toList :=
    String.toList_ofList
  have hclosed := plain_isClosed_iff name hregion
  have hmentions := plain_mentionsEnvironment_iff name hregion
  rw [hdropped] at hclosed hmentions ⊢
  have hkept : MentionsLoosely ':' name.toList →
      environmentName ∈ placeholders (dropEnding 0 name.toList) := mem_placeholders_dropEnding
  refine ⟨rfl, withEnvironment_isClosed_iff hname hregion, hclosed,
    fun h => hmentions.mpr (hkept h), ?_⟩
  intro hdollar
  have honly (x : List Char) (hx : x ∈ placeholders (dropEnding 0 name.toList)) :
      x = environmentName ∧ MentionsLoosely ':' name.toList :=
    mentionsLoosely_of_mem_placeholders hname hdollar (fun h => absurd h (by decide)) hx
  constructor
  · rw [hclosed]
    refine and_congr_right fun _ =>
      ⟨fun hall hloose => ?_, fun htight x hx => absurd (honly x hx).2 htight⟩
    exact absurd (hall _ (hkept hloose)) (by decide +kernel)
  · rw [hmentions]
    exact ⟨fun h => (honly _ h).2, hkept⟩

/-- The ending of the usual form leaves both texts closed. -/
theorem value_isClosed_audit :
    (withEnvironment "audit-$\x7benv\x7d" (some "eu-west-1") {}).IsClosed ∧
      (plain "audit-$\x7benv\x7d" (some "eu-west-1")).IsClosed := by
  have hname : ∀ x ∈ placeholders "audit-$\x7benv\x7d".toList, x = environmentName := by
    decide +kernel
  have hregion : ∀ r ∈ some "eu-west-1", placeholders r.toList = [] := by decide +kernel
  obtain ⟨_, hwith, hplain, _⟩ := value_isClosed_iff (s := {}) hname hregion
  exact ⟨hwith.mpr (by decide +kernel), hplain.mpr (by decide +kernel)⟩

/-- A mention behind any other sign stays in the text for deployments without an environment, bound
to nothing. -/
theorem underscored_stays_open :
    (∀ x ∈ placeholders "audit_$\x7benv\x7d".toList, x = environmentName) ∧
      value "audit_$\x7benv\x7d" none {} = Intrinsic.ifElse (.str "HasEnvironmentParameter")
        (withEnvironment "audit_$\x7benv\x7d" none {}).value
        (plain "audit_$\x7benv\x7d" none).value ∧
      ¬ (plain "audit_$\x7benv\x7d" none).IsClosed ∧
      mentionsEnvironment (plain "audit_$\x7benv\x7d" none).template.toList = true := by
  exact ⟨by decide +kernel, rfl, by decide +kernel, by decide +kernel⟩

end ResolverHooks.FunctionArn
