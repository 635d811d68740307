import ResolverHooks.Proofs.Resource.Check
import ResolverHooks.Resource.Diagram

/-!
What the Mermaid diagram of a graph shows. There is a line for each dependency between two
resources, and one for each resource that takes part in none of these, so that nothing is left out.
The lines can be read back, as long as no id looks like more than one line or like an arrow.
-/
namespace ResolverHooks

/-- What a line of a diagram says: that an id depends on another one, or just that it is there. -/
inductive Stroke where
  | arrow (dependency id : String)
  | node (id : String)
deriving DecidableEq, Repr

namespace Stroke

def line : Stroke → String
  | arrow dependency id => "    " ++ dependency ++ " --> " ++ id
  | node id => "    " ++ id

/-- The text of a diagram: a header, and a line for each stroke. -/
def diagram (strokes : List Stroke) : String := lines ("graph TD" :: strokes.map line)

/-! Reading a diagram. -/

def arrowHead : List Char := ['-', '-', '>']

def arrowSign : List Char := ' ' :: (arrowHead ++ [' '])

/-- What stands before the first arrow, and what stands behind it. -/
def cutAtArrow : List Char → Option (List Char × List Char)
  | [] => none
  | c :: rest =>
    if arrowSign <+: c :: rest then some ([], rest.drop 4)
    else (cutAtArrow rest).map fun parts => (c :: parts.1, parts.2)

/-- What a line says behind its four blanks. -/
def ofBody (body : List Char) : Stroke :=
  match cutAtArrow body with
  | some (dependency, id) => arrow (String.ofList dependency) (String.ofList id)
  | none => node (String.ofList body)

def ofLine (line : List Char) : Stroke := ofBody (line.drop 4)

def ofDiagram (text : String) : List Stroke := (text.toList.splitOn '\n').tail.map ofLine

/-- An id that fits into a line and has no arrow in it. -/
def IsLabel (id : String) : Prop := '\n' ∉ id.toList ∧ ¬ arrowHead <:+: id.toList

def IsPlain : Stroke → Prop
  | arrow dependency id => IsLabel dependency ∧ IsLabel id
  | node id => IsLabel id

variable {a b cs : List Char} {s : Stroke} {strokes : List Stroke}

theorem cutAtArrow_of_not_infix (h : ¬ arrowHead <:+: cs) : cutAtArrow cs = none := by
  induction cs with
  | nil => rfl
  | cons c cs ih =>
    have hrest : ¬ arrowHead <:+: cs := fun hin => h (hin.trans (List.suffix_cons c cs).isInfix)
    have hsign : ¬ arrowSign <+: c :: cs := by
      intro hprefix
      have hhead : arrowHead <:+: arrowSign := ⟨[' '], [' '], rfl⟩
      exact h (hhead.trans hprefix.isInfix)
    rw [cutAtArrow, if_neg hsign, ih hrest, Option.map_none]

/-- Where an arrow stands behind a text, none starts inside the text: its head would be in the text,
or would have a blank in it. -/
theorem not_prefix_append_arrowSign {c : Char} (h : ¬ arrowHead <:+: c :: a) :
    ¬ arrowSign <+: c :: a ++ arrowSign ++ b := by
  intro hprefix
  match a with
  | [] => simp [arrowSign, arrowHead, List.cons_prefix_cons] at hprefix
  | [d] => simp [arrowSign, arrowHead, List.cons_prefix_cons] at hprefix
  | [d, e] => simp [arrowSign, arrowHead, List.cons_prefix_cons] at hprefix
  | d :: e :: f :: rest =>
    simp only [arrowSign, arrowHead, List.cons_append, List.cons_prefix_cons] at hprefix
    obtain ⟨_, rfl, rfl, rfl, _⟩ := hprefix
    exact h ⟨[c], rest, rfl⟩

theorem cutAtArrow_append (h : ¬ arrowHead <:+: a) (b : List Char) :
    cutAtArrow (a ++ arrowSign ++ b) = some (a, b) := by
  induction a with
  | nil => rfl
  | cons c a ih =>
    have hrest : ¬ arrowHead <:+: a := fun hin => h (hin.trans (List.suffix_cons c a).isInfix)
    have hstart := not_prefix_append_arrowSign (b := b) h
    rw [List.cons_append, List.cons_append] at hstart ⊢
    rw [cutAtArrow, if_neg hstart, ih hrest]
    rfl

theorem ofLine_line (h : s.IsPlain) : ofLine s.line.toList = s := by
  cases s with
  | arrow dependency id =>
    have hbody : (line (arrow dependency id)).toList.drop 4 =
        dependency.toList ++ arrowSign ++ id.toList := by
      simp [line, arrowSign, arrowHead]
    rw [ofLine, hbody, ofBody, cutAtArrow_append h.1.2]
    simp
  | node id =>
    have hbody : (line (node id)).toList.drop 4 = id.toList := by simp [line]
    rw [ofLine, hbody, ofBody, cutAtArrow_of_not_infix h.2]
    simp

theorem not_mem_line (h : s.IsPlain) : '\n' ∉ s.line.toList := by
  cases s with
  | arrow dependency id => simp [line, h.1.1, h.2.1]
  | node id => simp [line, h.1]

/-- A diagram of plain strokes can be read back from its lines. -/
theorem ofDiagram_diagram (h : ∀ s ∈ strokes, s.IsPlain) :
    ofDiagram (diagram strokes) = strokes := by
  have hlines : (diagram strokes).toList =
      ['\n'].intercalate ("graph TD".toList :: strokes.map fun s => s.line.toList) := by
    simp [diagram, lines, Function.comp_def]
  have hfree : ∀ l ∈ "graph TD".toList :: strokes.map fun s => s.line.toList, '\n' ∉ l := by
    intro l hl
    rcases List.mem_cons.mp hl with rfl | hl
    · decide
    · obtain ⟨s, hs, rfl⟩ := List.mem_map.mp hl
      exact not_mem_line (h s hs)
  calc ofDiagram (diagram strokes)
      = (strokes.map fun s => s.line.toList).map ofLine := by
        rw [ofDiagram, hlines, List.splitOn_intercalate '\n' hfree (List.cons_ne_nil _ _),
          List.tail_cons]
    _ = strokes.map id := by
        rw [List.map_map]
        exact List.map_congr_left fun s hs => ofLine_line (h s hs)
    _ = strokes := List.map_id strokes

end Stroke

namespace Graph

variable {g : Graph} {k : Scalar} {r : Resource} {dep : Value}

/-- The dependencies on resources, occurrence by occurrence. -/
def arrows (g : Graph) : List (Scalar × Value) := g.allDependencies.filter fun e => g.isPresent e.2

def isolated (g : Graph) : List Scalar :=
  (g.resources.entries.filter fun e => g.isIsolated e.1 e.2).map Prod.fst

/-- A dependency starts from a resource, or leads to it. -/
def Touches (e : Scalar × Value) (k : Scalar) : Prop :=
  e.1.key = k.key ∨ e.2.same (.scalar k) = true

/-- The lines of a diagram, by what they say. -/
def strokesOf (arrows : List (Scalar × Value)) (nodes : List Scalar) : List Stroke :=
  arrows.map (fun e => .arrow e.2.display e.1.display) ++ nodes.map fun k => .node k.display

/-- A diagram shows a graph by these arrows and nodes. -/
structure Depicts (g : Graph) (text : String) (arrows : List (Scalar × Value))
    (nodes : List Scalar) : Prop where
  text_eq : text = Stroke.diagram (strokesOf arrows nodes)
  /-- The lines say this and nothing else, if no id looks like several lines or like an arrow. -/
  readable : (∀ s ∈ strokesOf arrows nodes, s.IsPlain) →
    Stroke.ofDiagram text = strokesOf arrows nodes
  arrows_eq : arrows = g.allDependencies.filter fun e => g.isPresent e.2
  nodes_sublist : nodes.Sublist g.ids
  nodup_nodes : (keysOf nodes).Nodup
  mem_nodes : ∀ k, k ∈ nodes ↔ k ∈ g.ids ∧ ∀ e ∈ arrows, ¬ Touches e k
  /-- Every resource is shown. -/
  covers : ∀ k ∈ g.ids, k ∈ nodes ∨ ∃ e ∈ arrows, Touches e k
  /-- Nothing is shown that is no resource. -/
  known : ∀ e ∈ arrows, e.1 ∈ g.ids ∧ ∃ k ∈ g.ids, e.2.same (.scalar k) = true

/-- Graphs that can be drawn: whatever is listed as a dependency can be looked up, and all ids have
a text. -/
structure IsDrawable (g : Graph) : Prop where
  lookUp : g.canLookUpAll = true
  texts : ∀ k ∈ g.ids, k.hasText = true

theorem IsTextual.isDrawable (hg : g.IsTextual) : g.IsDrawable := by
  refine ⟨hg.canLookUpAll, ?_⟩
  intro k hk
  obtain ⟨e, he, rfl⟩ := List.mem_map.mp hk
  obtain ⟨id, hid⟩ := hg.ids e he
  rw [hid]
  rfl

theorem mem_arrows_iff : (k, dep) ∈ g.arrows ↔
    ∃ r, (k, r) ∈ g.resources.entries ∧ dep ∈ r.dependsOn ∧ g.isPresent dep = true := by
  simp only [arrows, allDependencies, List.mem_filter, List.mem_flatMap, List.mem_map]
  constructor
  · rintro ⟨⟨e, he, d, hd, heq⟩, hp⟩
    obtain ⟨rfl, rfl⟩ := Prod.mk.inj heq
    exact ⟨e.2, he, hd, hp⟩
  · rintro ⟨r, hr, hd, hp⟩
    exact ⟨⟨(k, r), hr, dep, hd, rfl⟩, hp⟩

/-- What is written under one key is one resource. -/
theorem eq_of_mem_entries {k' : Scalar} {r' : Resource} (hr : (k, r) ∈ g.resources.entries)
    (hr' : (k', r') ∈ g.resources.entries) (hk : k'.key = k.key) : r' = r := by
  have hfind := Entries.find?_of_mem g.resources.nodup hr
  have hfind' := Entries.find?_of_mem g.resources.nodup hr'
  rw [Entries.find?_congr hk, hfind] at hfind'
  exact (Option.some.inj hfind').symm

/-- Dependencies on a resource that is there are present, however they spell its id. -/
theorem isPresent_of_same (hr : (k, r) ∈ g.resources.entries) (h : dep.same (.scalar k) = true) :
    g.isPresent dep = true := by
  cases dep with
  | scalar d =>
    have hkey : d.key = k.key := Scalar.same_iff.mp (by simpa [Value.same] using h)
    apply isPresent_iff.mpr
    refine ⟨d, rfl, contains_iff.mpr ⟨r, ?_⟩⟩
    exact (Entries.find?_congr hkey).trans (Entries.find?_of_mem g.resources.nodup hr)
  | _ => simp [Value.same] at h

/-- A resource needs nothing that is there exactly if no arrow starts from it. -/
theorem presentDependencies_eq_nil_iff (hr : (k, r) ∈ g.resources.entries) :
    g.presentDependencies r = [] ↔ ∀ e ∈ g.arrows, e.1.key ≠ k.key := by
  constructor
  · intro hnil e he hkey
    obtain ⟨r', hr', hdep, hp⟩ := mem_arrows_iff.mp he
    obtain ⟨d, hd, hc⟩ := isPresent_iff.mp hp
    obtain rfl := eq_of_mem_entries hr hr' hkey
    have hmem : d.key ∈ keysOf (g.presentDependencies r') :=
      mem_presentDependencies.mpr ⟨d, rfl, hd ▸ hdep, hc⟩
    rw [hnil] at hmem
    cases hmem
  · intro hnone
    rw [List.eq_nil_iff_forall_not_mem]
    intro d hd
    obtain ⟨d', _, hdep, hc⟩ := mem_presentDependencies.mp (List.mem_map_of_mem hd)
    have harrow : (k, .scalar d') ∈ g.arrows :=
      mem_arrows_iff.mpr ⟨r, hr, hdep, isPresent_iff.mpr ⟨d', rfl, hc⟩⟩
    exact hnone _ harrow rfl

/-- Nothing lists a resource exactly if no arrow leads to it. -/
theorem dependents_eq_nil_iff (hr : (k, r) ∈ g.resources.entries) :
    g.dependents (.scalar k) = [] ↔ ∀ e ∈ g.arrows, ¬ e.2.same (.scalar k) = true := by
  rw [dependents, List.map_eq_nil_iff, List.filter_eq_nil_iff]
  constructor
  · intro hnone e he hsame
    obtain ⟨r', hr', hdep, _⟩ := mem_arrows_iff.mp he
    exact hnone (e.1, r') hr' (List.any_eq_true.mpr ⟨e.2, hdep, hsame⟩)
  · intro hnone e he hany
    obtain ⟨dep, hdep, hsame⟩ := List.any_eq_true.mp hany
    have harrow : (e.1, dep) ∈ g.arrows :=
      mem_arrows_iff.mpr ⟨e.2, he, hdep, isPresent_of_same hr hsame⟩
    exact hnone _ harrow hsame

/-- Both tests together find the resources that take part in no arrow. -/
theorem isIsolated_iff (hr : (k, r) ∈ g.resources.entries) :
    g.isIsolated k r = true ↔ ∀ e ∈ g.arrows, ¬ Touches e k := by
  rw [isIsolated, Bool.and_eq_true, List.isEmpty_iff, List.isEmpty_iff,
    presentDependencies_eq_nil_iff hr, dependents_eq_nil_iff hr]
  constructor
  · rintro ⟨hsource, htarget⟩ e he (hkey | hsame)
    · exact hsource e he hkey
    · exact htarget e he hsame
  · intro hnone
    exact ⟨fun e he hkey => hnone e he (Or.inl hkey), fun e he hsame => hnone e he (Or.inr hsame)⟩

theorem isolated_sublist (g : Graph) : g.isolated.Sublist g.ids := List.filter_sublist.map _

theorem mem_isolated_iff : k ∈ g.isolated ↔ k ∈ g.ids ∧ ∀ e ∈ g.arrows, ¬ Touches e k := by
  constructor
  · intro hk
    obtain ⟨e, he, rfl⟩ := List.mem_map.mp hk
    obtain ⟨he, hisolated⟩ := List.mem_filter.mp he
    exact ⟨List.mem_map_of_mem he, (isIsolated_iff he).mp hisolated⟩
  · rintro ⟨hk, hnone⟩
    obtain ⟨e, he, rfl⟩ := List.mem_map.mp hk
    exact List.mem_map_of_mem (List.mem_filter.mpr ⟨he, (isIsolated_iff he).mpr hnone⟩)

theorem known_of_mem_arrows {e : Scalar × Value} (he : e ∈ g.arrows) :
    e.1 ∈ g.ids ∧ ∃ k ∈ g.ids, e.2.same (.scalar k) = true := by
  obtain ⟨r, hr, _, hp⟩ := mem_arrows_iff.mp he
  obtain ⟨d, hd, hc⟩ := isPresent_iff.mp hp
  obtain ⟨r', hfind⟩ := contains_iff.mp hc
  obtain ⟨k, hk, hmem⟩ := Entries.mem_of_find? hfind
  refine ⟨List.mem_map_of_mem hr, k, List.mem_map_of_mem hmem, ?_⟩
  rw [hd, Value.same, Scalar.same_comm]
  exact hk

theorem edgeLines_append_nodeLines (g : Graph) :
    g.edgeLines ++ g.nodeLines = (strokesOf g.arrows g.isolated).map Stroke.line := by
  have hedges : g.edgeLines = g.arrows.map fun e =>
      "    " ++ e.2.display ++ " --> " ++ e.1.display := by
    rw [edgeLines, arrows, allDependencies, List.filter_flatMap, List.map_flatMap]
    refine congrArg (fun f => g.resources.entries.flatMap f) (funext fun e => ?_)
    rw [List.filter_map, List.map_map]
    rfl
  rw [hedges, nodeLines, strokesOf, isolated, List.map_append, List.map_map,
    List.map_map, List.map_map]
  rfl

theorem depicts (g : Graph) :
    g.Depicts (Stroke.diagram (strokesOf g.arrows g.isolated)) g.arrows g.isolated where
  text_eq := rfl
  readable := Stroke.ofDiagram_diagram
  arrows_eq := rfl
  nodes_sublist := g.isolated_sublist
  nodup_nodes := by
    have hids : (keysOf g.ids).Nodup := by
      rw [keysOf, ids, Table.keys, List.map_map]
      exact g.resources.nodup
    exact hids.sublist (g.isolated_sublist.map _)
  mem_nodes _ := mem_isolated_iff
  covers k hk := by
    by_cases hnone : ∀ e ∈ g.arrows, ¬ Touches e k
    · exact Or.inl (mem_isolated_iff.mpr ⟨hk, hnone⟩)
    · push Not at hnone
      exact Or.inr hnone
  known _ := known_of_mem_arrows

/-- A graph whose ids and dependencies are texts has a diagram, and so has every other one whose
dependencies can be looked up and whose ids have texts. It shows the dependencies between resources,
and the resources without any. -/
theorem mermaid_outcome (g : Graph) :
    (g.IsTextual → g.IsDrawable) ∧
    (g.IsDrawable → ∃ text arrows nodes, g.mermaid = .ok text ∧ g.Depicts text arrows nodes) ∧
    (¬ g.IsDrawable → g.mermaid = .error (if g.canLookUpAll then .tooLong else .unhashable)) := by
  refine ⟨IsTextual.isDrawable, ?_, ?_⟩
  · rintro ⟨hlookUp, htexts⟩
    refine ⟨_, _, _, ?_, g.depicts⟩
    have hids : g.ids.all Scalar.hasText = true := List.all_eq_true.mpr htexts
    rw [mermaid, if_pos hlookUp, List.cons_append, edgeLines_append_nodeLines, sayable, hids]
    rfl
  · intro hnot
    rw [mermaid]
    by_cases hlookUp : g.canLookUpAll = true
    · have hids : ¬ g.ids.all Scalar.hasText = true :=
        fun h => hnot ⟨hlookUp, List.all_eq_true.mp h⟩
      rw [if_pos hlookUp, if_pos hlookUp, sayable, if_neg]
      simpa using hids
    · rw [if_neg hlookUp, if_neg hlookUp]

/-- A self-dependency, a dependency on what is missing, one that is listed twice, and a resource
alone. -/
example :
    ((((Graph.empty.insert (.str "TodoTable")
      ⟨.str "", .null, [.str "TodoTable", .str "TodoLog"]⟩).insert
    (.str "TodoRole") ⟨.str "", .null, [.str "TodoTable", .str "TodoTable"]⟩).insert
    (.str "TodoTopic") ⟨.str "", .null, [.str "TodoLog"]⟩).mermaid).toOption =
    some ("graph TD\n    TodoTable --> TodoTable\n    TodoTable --> TodoRole\n" ++
      "    TodoTable --> TodoRole\n    TodoTopic") := by
  decide

end Graph

end ResolverHooks
