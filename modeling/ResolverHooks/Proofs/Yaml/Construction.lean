import ResolverHooks.Proofs.Document.Table
import ResolverHooks.Proofs.Yaml.Composition
import ResolverHooks.Yaml.Reading

/-!
What the nodes of a JSON text hold. A collection waits until its members are there, so the invariant
speaks of those that no longer wait: they hold what their nodes say, and so does each of their
members in turn.
-/
namespace ResolverHooks.Yaml

variable {ns : Nodes} {id : NodeId} {s : Scalar} {v : Value} {ids : List NodeId}
    {pairs : List (NodeId × NodeId)}

theorem run_bind_of_ok {σ ε α β : Type} {m : StateT σ (Except ε) α} {f : α → StateT σ (Except ε) β}
    {a b : σ} {x : α}
    (h : m.run a = .ok (x, b)) : (m >>= f).run a = (f x).run b := by
  rw [StateT.run_bind, h]
  rfl

theorem run_get_bind {σ ε β : Type} {f : σ → StateT σ (Except ε) β} {a : σ} :
    (get >>= f).run a = (f a).run a := rfl

theorem node_eq {x : Node} (h : ns[id]? = some x) : ns.node id = x := by
  rw [Nodes.node, h]
  rfl

theorem tag_eq {tag : Tag} {content : Content} (h : ns[id]? = some ⟨tag, content⟩) :
    ns.tag id = tag := by
  rw [Nodes.tag, node_eq h]

theorem content_eq {tag : Tag} {content : Content} (h : ns[id]? = some ⟨tag, content⟩) :
    ns.content id = content := by
  rw [Nodes.content, node_eq h]

/-- What the text of a scalar is recognised as. -/
def tagOf : Scalar → Tag
  | .null => .null
  | .bool _ => .bool
  | .int _ => .int
  | .float d => if d.hasPoint then .float else .str
  | _ => .str

theorem scalarTag_eq (hs : s.IsJson) : scalarTag none (!s.isQuoted) s.written = tagOf s := by
  cases s with
  | null =>
    clear hs
    decide
  | bool b =>
    clear hs
    cases b <;> decide
  | int i => exact plainTag_int i
  | float d =>
    show plainTag (NumberLayout.json.text d) = _
    rw [plainTag_float hs, tagOf]
    simp [Double.hasPoint]
  | str s => rfl
  | date d => cases hs
  | moment m => cases hs
  | bytes bs => cases hs

/-- The node of a scalar is read as the scalar, but for the doubles without a point. -/
theorem scalarOf_eq (hs : s.IsJson) (h : ns[id]? = some (scalarNode s)) :
    Assembling.scalarOf ns id = .ok s.reread := by
  have htext : Assembling.scalarText ns (ns.size + 1) id = .ok s.written := by
    rw [Assembling.scalarText, content_eq h]
  have htag : ns.tag id = tagOf s := by rw [tag_eq h, scalarTag_eq hs]
  rw [Assembling.scalarOf, htext, htag]
  cases s with
  | null => rfl
  | bool b => cases b <;> rfl
  | int i =>
    show (do return Scalar.int (← integerOf (toString i)) : Except Fault Scalar) = _
    rw [integerOf_toString hs]
    rfl
  | float d =>
    rw [Scalar.reread, tagOf]
    cases d.hasPoint with
    | true =>
      show (do return Scalar.float (← realOf (id + 1) (NumberLayout.json.text d)) :
        Except Fault Scalar) = _
      rw [realOf_text hs]
      rfl
    | false => rfl
  | str s => rfl
  | date d => cases hs
  | moment m => cases hs
  | bytes bs => cases hs

/-! What the nodes say. -/

/-- A node of a JSON text. -/
def IsGood (ns : Nodes) (id : NodeId) : Prop := ∃ v : Value, v.IsJson ∧ Stands ns id v

/-- The key that the node of a text is. -/
def keyOf (ns : Nodes) (id : NodeId) : Scalar :=
  match ns.content id with
  | .scalar text => .str text
  | _ => .null

/-- What a node holds in the end. -/
def heldOf (ns : Nodes) (id : NodeId) : Held :=
  match ns.content id with
  | .scalar _ => .scalar ((Assembling.scalarOf ns id).toOption.getD .null)
  | .sequence ids => .seq ids
  | .mapping pairs => .map (pairs.map fun p => (keyOf ns p.1, p.2))

/-- The members of a collection that a value is made of. -/
def membersOf (ns : Nodes) (id : NodeId) : List NodeId :=
  match ns.content id with
  | .scalar _ => []
  | .sequence ids => ids
  | .mapping pairs => pairs.map Prod.snd

theorem heldOf_scalar (hs : s.IsJson) (h : ns[id]? = some (scalarNode s)) :
    heldOf ns id = .scalar s.reread := by
  rw [heldOf, content_eq h, scalarOf_eq hs h]
  rfl

theorem heldOf_seq (h : ns[id]? = some ⟨.seq, .sequence ids⟩) : heldOf ns id = .seq ids := by
  rw [heldOf, content_eq h]

theorem heldOf_map (h : ns[id]? = some ⟨.map, .mapping pairs⟩) :
    heldOf ns id = .map (pairs.map fun p => (keyOf ns p.1, p.2)) := by
  rw [heldOf, content_eq h]

theorem isCollection_scalar (hs : s.IsJson) (h : ns[id]? = some (scalarNode s)) :
    Assembling.isCollection (ns.tag id) = false := by
  rw [tag_eq h, scalarTag_eq hs]
  cases s with
  | float d =>
    rw [tagOf]
    cases d.hasPoint <;> rfl
  | _ => rfl

theorem keyOf_eq {k : String} (h : ns[id]? = some (scalarNode (.str k))) :
    keyOf ns id = .str k := by
  rw [keyOf, content_eq h]
  rfl

/-- Lists that go together entry by entry are mapped to the same list. -/
theorem map_eq_map_of_zip {α β γ : Type} {as : List α} {bs : List β} {f : α → γ} {g : β → γ}
    (hlen : as.length = bs.length) (h : ∀ p ∈ as.zip bs, f p.1 = g p.2) : as.map f = bs.map g := by
  calc
    as.map f = ((as.zip bs).map Prod.fst).map f := by rw [List.map_fst_zip (Nat.le_of_eq hlen)]
    _ = ((as.zip bs).map Prod.snd).map g := by
      rw [List.map_map, List.map_map]
      exact List.map_congr_left h
    _ = bs.map g := by rw [List.map_snd_zip (Nat.le_of_eq hlen.symm)]

theorem exists_mem_zip {α β : Type} {as : List α} {bs : List β} (hlen : as.length = bs.length)
    {a : α} (h : a ∈ as) :
    ∃ b ∈ bs, (a, b) ∈ as.zip bs := by
  rw [← List.map_fst_zip (Nat.le_of_eq hlen)] at h
  obtain ⟨⟨a, b⟩, hp, rfl⟩ := List.mem_map.mp h
  exact ⟨b, (List.of_mem_zip hp).2, hp⟩

/-- A node of a JSON text is a scalar or a collection of such nodes. -/
theorem IsGood.cases (h : IsGood ns id) :
    (∃ s : Scalar, s.IsJson ∧ ns[id]? = some (scalarNode s)) ∨
    (∃ ids, ns[id]? = some ⟨.seq, .sequence ids⟩ ∧ ∀ i ∈ ids, IsGood ns i) ∨
    ∃ pairs, ns[id]? = some ⟨.map, .mapping pairs⟩ ∧ (pairs.map fun p => (keyOf ns p.1).key).Nodup ∧
      ∀ p ∈ pairs, (∃ k, IsBasicText k ∧ ns[p.1]? = some (scalarNode (.str k))) ∧
        IsGood ns p.2 := by
  obtain ⟨v, hv, hstands⟩ := h
  cases hstands with
  | scalar hnode =>
    cases hv with
    | scalar hs => exact Or.inl ⟨_, hs, hnode⟩
  | @seq _ ids items hnode hlen _ hitems =>
    cases hv with
    | seq hv =>
      refine Or.inr (Or.inl ⟨ids, hnode, fun i hi => ?_⟩)
      obtain ⟨v, hmem, hp⟩ := exists_mem_zip hlen hi
      exact ⟨v, hv v hmem, hitems _ hp⟩
  | @map _ pairs entries hnode hlen _ hkeys hvalues =>
    cases hv with
    | map hk hnodup hv =>
      refine Or.inr (Or.inr ⟨pairs, hnode, ?_, fun p hp => ?_⟩)
      · have hsame : (pairs.map fun p => (keyOf ns p.1).key) = entries.map fun e => e.1.key := by
          refine map_eq_map_of_zip hlen fun q hq => ?_
          obtain ⟨k, hk, _⟩ := hk q.2 (List.of_mem_zip hq).2
          have hkey := hkeys q hq
          rw [hk] at hkey
          rw [keyOf_eq hkey, hk]
        rw [hsame]
        exact hnodup
      · obtain ⟨e, hmem, hq⟩ := exists_mem_zip hlen hp
        obtain ⟨k, hk, hbasic⟩ := hk e hmem
        have hkey := hkeys _ hq
        rw [hk] at hkey
        exact ⟨⟨k, hbasic, hkey⟩, e.2, hv e hmem, hvalues _ hq⟩

/-! The state of the assembly. -/

namespace Assembling

variable {a a' a'' : Assembly} {cur : Option NodeId} {h : Held} {x : Option Held} {w : List NodeId}

/-- Something is held for a node. -/
def IsHeld (a : Assembly) (id : NodeId) : Prop := ∃ h, a.held[id]? = some (some h)

/-- What has still to be done: nodes that hold nothing, and collections that wait. -/
def remaining (a : Assembly) : Nat := a.held.countP Option.isNone + a.waiting.length

/-- What every state of the assembly has, while the collection `cur` is being given its contents. -/
structure Sound (ns : Nodes) (cur : Option NodeId) (a : Assembly) : Prop where
  nodes : a.nodes = ns
  levels : 0 < a.levels
  size : a.held.size = ns.size
  waiting : ∀ id ∈ a.waiting, IsGood ns id ∧ isCollection (ns.tag id) = true
  /-- A node that neither waits nor is being seen to holds what it says, and so far its members hold
  something. -/
  held : ∀ id, IsGood ns id → ∀ h, a.held[id]? = some (some h) →
    id ∈ a.waiting ∨ some id = cur ∨ (h = heldOf ns id ∧ ∀ i ∈ membersOf ns id, IsHeld a i)

/-- Nothing is taken back. -/
structure Advances (a a' : Assembly) : Prop where
  held : ∀ (id : NodeId) (h : Held), a.held[id]? = some (some h) → a'.held[id]? = some (some h)
  remaining : remaining a' ≤ remaining a

theorem Advances.refl (a : Assembly) : Advances a a := ⟨fun _ _ h => h, Nat.le_refl _⟩

theorem Advances.trans (h : Advances a a') (h' : Advances a' a'') : Advances a a'' :=
  ⟨fun id x hx => h'.held id x (h.held id x hx), Nat.le_trans h'.remaining h.remaining⟩

theorem Advances.isHeld (h : Advances a a') (hid : IsHeld a id) :
    IsHeld a' id := hid.imp fun x hx => h.held id x hx

/-- The state once something is held for a node, and the node waits if it has to. -/
def holding (a : Assembly) (id : NodeId) (h : Held) (w : List NodeId) : Assembly :=
  { a with held := a.held.setIfInBounds id (some h), waiting := a.waiting ++ w }

theorem getElem?_holding (hid : id < a.held.size) (i : NodeId) :
    (holding a id h w).held[i]? = if id = i then some (some h) else a.held[i]? := by
  show (a.held.setIfInBounds id (some h))[i]? = _
  rw [Array.getElem?_setIfInBounds, if_pos hid]

theorem countP_hold (hid : id < a.held.size) :
    (a.held.setIfInBounds id (some h)).countP Option.isNone =
    a.held.countP Option.isNone - if a.held[id].isNone = true then 1 else 0 := by
  rw [Array.setIfInBounds, dif_pos hid, Array.countP_set]
  simp

/-- A node that holds nothing yet comes to hold something. -/
theorem advances_holding (hfree : a.held[id]? = some none) (hw : w.length ≤ 1) :
    Advances a (holding a id h w) := by
  obtain ⟨hid, hnone⟩ := Array.getElem?_eq_some_iff.mp hfree
  refine ⟨fun i x hx => ?_, ?_⟩
  · rw [getElem?_holding hid, if_neg]
    · exact hx
    · rintro rfl
      cases hfree.symm.trans hx
  · have hpos : 0 < a.held.countP Option.isNone := by
      rw [Array.countP_pos_iff]
      exact ⟨a.held[id], Array.getElem_mem hid, by rw [hnone]; rfl⟩
    have hcount := countP_hold (h := h) hid
    rw [hnone] at hcount
    show (a.held.setIfInBounds id (some h)).countP Option.isNone + (a.waiting ++ w).length ≤
      a.held.countP Option.isNone + a.waiting.length
    rw [hcount, List.length_append]
    simp only [Option.isNone_none, if_true]
    omega

theorem Sound.holding (hs : Sound ns cur a) (hfree : a.held[id]? = some none)
    (hw : (w = [] ∧ h = heldOf ns id ∧ membersOf ns id = []) ∨
      (w = [id] ∧ IsGood ns id ∧ isCollection (ns.tag id) = true)) :
        Sound ns cur (holding a id h w) := by
  obtain ⟨hid, _⟩ := Array.getElem?_eq_some_iff.mp hfree
  have hadvances : Advances a (Assembling.holding a id h w) := by
    refine advances_holding hfree ?_
    rcases hw with ⟨rfl, _⟩ | ⟨rfl, _⟩ <;> simp
  refine ⟨hs.nodes, hs.levels, ?_, ?_, ?_⟩
  · rw [← hs.size]
    exact Array.size_setIfInBounds
  · intro i hi
    rcases List.mem_append.mp hi with hi | hi
    · exact hs.waiting i hi
    · rcases hw with ⟨rfl, _⟩ | ⟨rfl, hgood⟩
      · cases hi
      · rw [List.mem_singleton.mp hi]
        exact hgood
  · intro i hgood x hx
    rw [getElem?_holding hid] at hx
    split at hx
    · rename_i heq
      subst heq
      obtain rfl : h = x := Option.some.inj (Option.some.inj hx)
      rcases hw with ⟨rfl, hheld, hmembers⟩ | ⟨rfl, _⟩
      · refine Or.inr (Or.inr ⟨hheld, fun j hj => ?_⟩)
        rw [hmembers] at hj
        cases hj
      · exact Or.inl (List.mem_append_right _ List.mem_cons_self)
    · rcases hs.held i hgood x hx with hwait | hcur | ⟨hheld, hmembers⟩
      · exact Or.inl (List.mem_append_left _ hwait)
      · exact Or.inr (Or.inl hcur)
      · exact Or.inr (Or.inr ⟨hheld, fun j hj => hadvances.isHeld (hmembers j hj)⟩)

/-! One node. -/

theorem IsGood.lt_size (hg : IsGood ns id) : id < ns.size := by
  obtain ⟨v, _, hstands⟩ := hg
  exact hstands.lt_size

/-- Either something is held for a node already, or nothing is. -/
theorem Sound.held_or_free (hs : Sound ns cur a) (hg : IsGood ns id) :
    (∃ h, a.held[id]? = some (some h)) ∨ a.held[id]? = some none := by
  have hid : id < a.held.size := by
    rw [hs.size]
    exact IsGood.lt_size hg
  rw [Array.getElem?_eq_getElem hid]
  cases a.held[id] with
  | none => exact Or.inr rfl
  | some h => exact Or.inl ⟨h, rfl⟩

theorem run_held? (hid : a.held[id]? = some x) : (held? id).run a = .ok (x, a) := by
  show Except.ok ((a.held[id]?).join, a) = _
  rw [hid]
  rfl

theorem run_prepare_of_held (hid : a.held[id]? = some (some h)) :
    (prepare id).run a = .ok ((), a) := by
  rw [prepare, run_bind_of_ok (run_held? hid)]
  rfl

theorem run_prepare_collection (hid : a.held[id]? = some none)
    (hc : isCollection (a.nodes.tag id) = true) :
    (prepare id).run a = .ok ((), holding a id (.seq []) [id]) := by
  rw [prepare, run_bind_of_ok (run_held? hid)]
  show (if isCollection (a.nodes.tag id) then _ else _ : Assembling Unit).run a = _
  rw [if_pos hc]
  rfl

theorem run_prepare_scalar (hid : a.held[id]? = some none)
    (hc : isCollection (a.nodes.tag id) = false)
    (hscalar : scalarOf a.nodes id = .ok s) :
    (prepare id).run a = .ok ((), holding a id (.scalar s) []) := by
  rw [prepare, run_bind_of_ok (run_held? hid)]
  show (if isCollection (a.nodes.tag id) then _ else _ : Assembling Unit).run a = _
  rw [hc, hscalar, holding, List.append_nil]
  rfl

theorem run_complete_of_held {fuel : Nat} {path : List NodeId} (hid : a.held[id]? = some (some h)) :
    (complete (fuel + 1) path id).run a = .ok ((), a) := by
  rw [complete, run_bind_of_ok (run_held? hid)]
  rfl

theorem run_complete_scalar {fuel : Nat} (hid : a.held[id]? = some none)
    (hc : isCollection (a.nodes.tag id) = false)
    (hscalar : scalarOf a.nodes id = .ok s) :
    (complete (fuel + 1) [] id).run a = .ok ((), holding a id (.scalar s) []) := by
  rw [complete, run_bind_of_ok (run_held? hid)]
  show (if isCollection (a.nodes.tag id) then _ else _ : Assembling Unit).run a = _
  rw [hc, hscalar, holding, List.append_nil]
  rfl

/-- Preparing a node leaves something held for it. -/
theorem Sound.prepare (hs : Sound ns cur a) (hg : IsGood ns id) :
    ∃ a', (Assembling.prepare id).run a = .ok ((), a') ∧ Sound ns cur a' ∧ Advances a a' ∧
      IsHeld a' id := by
  rcases hs.held_or_free hg with ⟨h, hid⟩ | hid
  · exact ⟨a, run_prepare_of_held hid, hs, .refl a, h, hid⟩
  have hlt := (Array.getElem?_eq_some_iff.mp hid).1
  rcases hg.cases with ⟨s, hjson, hnode⟩ | hcollection
  · have htag := isCollection_scalar hjson hnode
    refine ⟨_, run_prepare_scalar hid (by rwa [hs.nodes])
      (by rw [hs.nodes]; exact scalarOf_eq hjson hnode), ?_, ?_, ?_⟩
    · refine hs.holding hid (Or.inl ⟨rfl, (heldOf_scalar hjson hnode).symm, ?_⟩)
      rw [membersOf, content_eq hnode]
    · exact advances_holding hid (by simp)
    · exact ⟨_, by rw [getElem?_holding hlt, if_pos rfl]⟩
  · have htag : isCollection (ns.tag id) = true := by
      rcases hcollection with ⟨ids, hnode, _⟩ | ⟨pairs, hnode, _⟩ <;> (rw [tag_eq hnode]; rfl)
    refine ⟨_, run_prepare_collection hid (by rwa [hs.nodes]),
      hs.holding hid (Or.inr ⟨rfl, hg, htag⟩), advances_holding hid (by simp), ?_⟩
    exact ⟨_, by rw [getElem?_holding hlt, if_pos rfl]⟩

/-- A key is looked at whole, and it is a text. -/
theorem Sound.key {k : String} (fuel : Nat) (hs : Sound ns cur a) (hk : IsBasicText k)
    (hnode : ns[id]? = some (scalarNode (.str k)))
    (hcur : ∀ i ∈ cur, isCollection (ns.tag i) = true) :
    ∃ a', (Assembling.key (complete (fuel + 1) []) id).run a = .ok (.str k, a') ∧ Sound ns cur a' ∧
      Advances a a' := by
  have hg : IsGood ns id := ⟨.str k, .scalar hk, .scalar hnode⟩
  have htag : isCollection (ns.tag id) = false := isCollection_scalar (s := .str k) hk hnode
  have hheld : heldOf ns id = .scalar (.str k) := heldOf_scalar (s := .str k) hk hnode
  have hread : ∀ b : Assembly, b.held[id]? = some (some (.scalar (.str k))) →
      (complete (fuel + 1) [] id).run a = .ok ((), b) →
      (Assembling.key (complete (fuel + 1) []) id).run a = .ok (.str k, b) := by
    intro b hb hrun
    rw [Assembling.key, run_bind_of_ok hrun, run_bind_of_ok (run_held? hb)]
    rfl
  rcases hs.held_or_free hg with ⟨h, hid⟩ | hid
  · have hsay : h = .scalar (.str k) := by
      rcases hs.held id hg h hid with hwait | hc | ⟨rfl, _⟩
      · rw [(hs.waiting id hwait).2] at htag
        cases htag
      · rw [hcur id hc.symm] at htag
        cases htag
      · exact hheld
    exact ⟨a, hread a (hsay ▸ hid) (run_complete_of_held hid), hs, .refl a⟩
  · have hlt := (Array.getElem?_eq_some_iff.mp hid).1
    refine ⟨Assembling.holding a id (.scalar (.str k)) [],
      hread _ (by rw [getElem?_holding hlt, if_pos rfl]) ?_, ?_, advances_holding hid (by simp)⟩
    · refine run_complete_scalar hid (by rwa [hs.nodes]) ?_
      rw [hs.nodes]
      exact scalarOf_eq (s := .str k) hk hnode
    · refine hs.holding hid (Or.inl ⟨rfl, hheld.symm, ?_⟩)
      rw [membersOf, content_eq hnode]

/-! One collection. -/

theorem Sound.forM_prepare (hs : Sound ns cur a) (hg : ∀ i ∈ ids, IsGood ns i) :
    ∃ a', (ids.forM Assembling.prepare).run a = .ok ((), a') ∧ Sound ns cur a' ∧ Advances a a' ∧
      ∀ i ∈ ids, IsHeld a' i := by
  induction ids generalizing a with
  | nil => exact ⟨a, rfl, hs, .refl a, fun i hi => absurd hi List.not_mem_nil⟩
  | cons i is ih =>
    obtain ⟨a₁, hrun, hs₁, hadvances, hheld⟩ := hs.prepare (hg i List.mem_cons_self)
    obtain ⟨a₂, hrun', hs₂, hadvances', hall⟩ := ih hs₁ fun j hj => hg j (List.mem_cons_of_mem i hj)
    refine ⟨a₂, ?_, hs₂, hadvances.trans hadvances', ?_⟩
    · show StateT.run (Assembling.prepare i >>= fun _ => is.forM Assembling.prepare) a = _
      rw [run_bind_of_ok hrun, hrun']
    · exact List.forall_mem_cons.mpr ⟨hadvances'.isHeld hheld, hall⟩

/-- Texts bring nothing in, whatever merging would do. -/
theorem run_mergeEntries (flatten : NodeId → Merging Unit) (hkeys : ∀ p ∈ pairs, ns.tag p.1 = .str)
    (front : List (NodeId × NodeId)) :
    (Merging.mergeEntries flatten id front pairs).run ns = .ok ([], ns) := by
  induction pairs generalizing front with
  | nil => rfl
  | cons p ps ih =>
    have htag := hkeys p List.mem_cons_self
    have hplain : (Merging.plainKey p.1).run ns = .ok ((), ns) := by
      rw [Merging.plainKey]
      show (if ns.tag p.1 = .value then _ else _ : Merging Unit).run ns = _
      rw [htag]
      rfl
    rw [Merging.mergeEntries]
    show (if ns.tag p.1 = .merge then _ else _ : Merging _).run ns = _
    rw [htag, if_neg (by simp), run_bind_of_ok hplain]
    exact ih (fun q hq => hkeys q (List.mem_cons_of_mem p hq)) (p :: front)

/-- A mapping whose keys are texts has no merge keys. -/
theorem merge_eq {levels : Nat} (hlevels : 0 < levels)
    (hnode : ns[id]? = some ⟨.map, .mapping pairs⟩)
    (hkeys : ∀ p ∈ pairs, ns.tag p.1 = .str) : ns.merge levels id = .ok ns := by
  obtain ⟨levels, rfl⟩ := Nat.exists_eq_succ_of_ne_zero (Nat.ne_of_gt hlevels)
  have hown : (Merging.entries id).run ns = .ok (pairs, ns) := by
    have hsome : ns.entries? id = some pairs := by rw [Nodes.entries?, content_eq hnode]
    rw [Merging.entries, run_get_bind]
    simp only [hsome]
    rfl
  rw [Nodes.merge, Merging.flatten, run_bind_of_ok hown,
    run_bind_of_ok (run_mergeEntries _ hkeys [])]
  rfl

/-- The entries of a mapping are taken one after another; their keys are all different. -/
theorem Sound.foldlM_entries (fuel : Nat) (hs : Sound ns cur a)
    (hcur : ∀ i ∈ cur, isCollection (ns.tag i) = true)
    (hpairs : ∀ p ∈ pairs, (∃ k, IsBasicText k ∧ ns[p.1]? = some (scalarNode (.str k))) ∧
      IsGood ns p.2)
    (es : List (Scalar × NodeId))
    (hnodup : (Entries.keyList (es ++ pairs.map fun p => (keyOf ns p.1, p.2))).Nodup) :
    ∃ a', (pairs.foldlM (fun es (k, v) => do
          let s ← Assembling.key (complete (fuel + 1) []) k
          Assembling.prepare v
          return Entries.insert s v es) es : Assembling (List (Scalar × NodeId))).run a =
        .ok (es ++ pairs.map fun p => (keyOf ns p.1, p.2), a') ∧
      Sound ns cur a' ∧ Advances a a' ∧ ∀ p ∈ pairs, IsHeld a' p.2 := by
  induction pairs generalizing a es with
  | nil =>
    refine ⟨a, ?_, hs, .refl a, fun p hp => absurd hp List.not_mem_nil⟩
    rw [List.map_nil, List.append_nil]
    rfl
  | cons p ps ih =>
    obtain ⟨⟨k, hk, hnode⟩, hgood⟩ := hpairs p List.mem_cons_self
    obtain ⟨a₁, hkey, hs₁, hadvances₁⟩ := hs.key fuel hk hnode hcur
    obtain ⟨a₂, hprepare, hs₂, hadvances₂, hheld⟩ := hs₁.prepare hgood
    have hsplit : es ++ (p :: ps).map (fun p => (keyOf ns p.1, p.2)) =
        (es ++ [(.str k, p.2)]) ++ ps.map fun p => (keyOf ns p.1, p.2) := by
      rw [List.map_cons, keyOf_eq hnode]
      simp
    rw [hsplit] at hnodup ⊢
    have hnew : Entries.insert (.str k) p.2 es = es ++ [(.str k, p.2)] := by
      refine Entries.insert_of_find?_none (Entries.find?_of_not_mem fun hmem => ?_)
      rw [Entries.keyList, List.map_append, List.map_append, List.append_assoc, List.nodup_append]
        at hnodup
      exact hnodup.2.2 _ hmem _ (List.mem_append_left _ List.mem_cons_self) rfl
    obtain ⟨a₃, hrest, hs₃, hadvances₃, hall⟩ :=
      ih hs₂ (fun q hq => hpairs q (List.mem_cons_of_mem p hq)) _ hnodup
    refine ⟨a₃, ?_, hs₃, (hadvances₁.trans hadvances₂).trans hadvances₃, ?_⟩
    · have hstep : (do
          let s ← Assembling.key (complete (fuel + 1) []) p.1
          Assembling.prepare p.2
          return Entries.insert s p.2 es : Assembling (List (Scalar × NodeId))).run a =
            .ok (es ++ [(.str k, p.2)], a₂) := by
        rw [run_bind_of_ok hkey, run_bind_of_ok hprepare, hnew]
        rfl
      rw [List.foldlM_cons, run_bind_of_ok hstep]
      exact hrest
    · exact List.forall_mem_cons.mpr ⟨hadvances₃.isHeld hheld, hall⟩

theorem Sound.run_items (hs : Sound ns cur a) (hnode : ns[id]? = some ⟨.seq, .sequence ids⟩) :
    (items id).run a = .ok (ids, a) := by
  have hsome : a.nodes.items? id = some ids := by
    rw [hs.nodes, Nodes.items?, content_eq hnode]
  rw [items, run_get_bind]
  simp only [hsome]
  rfl

/-- The entries of a mapping are those of its node, because it has no merge keys. -/
theorem Sound.entries (fuel : Nat) (hs : Sound ns cur a)
    (hcur : ∀ i ∈ cur, isCollection (ns.tag i) = true)
    (hnode : ns[id]? = some ⟨.map, .mapping pairs⟩)
    (hnodup : (pairs.map fun p => (keyOf ns p.1).key).Nodup)
    (hpairs : ∀ p ∈ pairs, (∃ k, IsBasicText k ∧ ns[p.1]? = some (scalarNode (.str k))) ∧
      IsGood ns p.2) :
    ∃ a', (Assembling.entries (complete (fuel + 1) []) Assembling.prepare id).run a =
        .ok (pairs.map fun p => (keyOf ns p.1, p.2), a') ∧
      Sound ns cur a' ∧ Advances a a' ∧ ∀ p ∈ pairs, IsHeld a' p.2 := by
  have hkeys : (Entries.keyList ([] ++ pairs.map fun p => (keyOf ns p.1, p.2))).Nodup := by
    rw [List.nil_append, Entries.keyList, List.map_map]
    exact hnodup
  obtain ⟨a₁, hrun, hsound⟩ := hs.foldlM_entries fuel hcur hpairs [] hkeys
  refine ⟨a₁, ?_, hsound⟩
  have hsome : a.nodes.entries? id = some pairs := by
    rw [hs.nodes, Nodes.entries?, content_eq hnode]
  have hmerge : a.nodes.merge a.levels id = .ok a.nodes := by
    rw [hs.nodes]
    refine merge_eq hs.levels hnode fun p hp => ?_
    obtain ⟨⟨k, _, hkey⟩, _⟩ := hpairs p hp
    exact tag_eq hkey
  have hmerged : (liftM (a.nodes.merge a.levels id) : Assembling Nodes).run a =
      .ok (a.nodes, a) := by
    rw [hmerge]
    rfl
  rw [Assembling.entries, run_get_bind]
  simp only [isMapping, hsome, Option.isSome_some, Bool.not_true, Bool.false_eq_true, if_false]
  rw [run_bind_of_ok hmerged]
  show StateT.run (((a.nodes.entries? id).getD []).foldlM _ []) a = _
  rw [hsome]
  exact hrun

/-- A collection gets its contents: what its node says, with something held for each member. -/
theorem Sound.contents (fuel : Nat) (hs : Sound ns cur a)
    (hcur : ∀ i ∈ cur, isCollection (ns.tag i) = true)
    (hg : IsGood ns id) (hc : isCollection (ns.tag id) = true) :
    ∃ a', (Assembling.contents (complete (fuel + 1) []) Assembling.prepare id).run a =
      .ok (heldOf ns id, a') ∧
      Sound ns cur a' ∧ Advances a a' ∧ ∀ i ∈ membersOf ns id, IsHeld a' i := by
  rcases hg.cases with ⟨s, hjson, hnode⟩ | ⟨ids, hnode, hids⟩ | ⟨pairs, hnode, hnodup, hpairs⟩
  · rw [isCollection_scalar hjson hnode] at hc
    cases hc
  · obtain ⟨a₁, hrun, hs₁, hadvances, hheld⟩ := hs.forM_prepare hids
    refine ⟨a₁, ?_, hs₁, hadvances, ?_⟩
    · have htag : a.nodes.tag id = .seq := by rw [hs.nodes, tag_eq hnode]
      rw [Assembling.contents, run_get_bind]
      simp only [htag]
      show StateT.run (items id >>= fun ids => ids.forM Assembling.prepare >>= fun _ =>
        pure (Held.seq ids)) a = _
      rw [run_bind_of_ok (hs.run_items hnode), run_bind_of_ok hrun, heldOf_seq hnode]
      rfl
    · rw [membersOf, content_eq hnode]
      exact hheld
  · obtain ⟨a₁, hrun, hs₁, hadvances, hheld⟩ := hs.entries fuel hcur hnode hnodup hpairs
    refine ⟨a₁, ?_, hs₁, hadvances, ?_⟩
    · have htag : a.nodes.tag id = .map := by rw [hs.nodes, tag_eq hnode]
      rw [Assembling.contents, run_get_bind]
      simp only [htag]
      show StateT.run (Assembling.entries (complete (fuel + 1) []) Assembling.prepare id >>=
        fun es => pure (Held.map es)) a = _
      rw [run_bind_of_ok hrun, heldOf_map hnode]
      rfl
    · rw [membersOf, content_eq hnode]
      intro i hi
      obtain ⟨p, hp, rfl⟩ := List.mem_map.mp hi
      exact hheld p hp

/-! All collections. -/

/-- The collection that has waited longest is taken up. -/
theorem Sound.takeUp {rest : List NodeId} (hs : Sound ns none a) (hw : a.waiting = id :: rest) :
    Sound ns (some id) { a with waiting := rest } := by
  refine ⟨hs.nodes, hs.levels, hs.size, fun i hi => hs.waiting i (hw ▸ List.mem_cons_of_mem id hi),
    fun i hg x hx => ?_⟩
  rcases hs.held i hg x hx with hwait | hcur | hdone
  · rw [hw] at hwait
    rcases List.mem_cons.mp hwait with rfl | hwait
    · exact Or.inr (Or.inl rfl)
    · exact Or.inl hwait
  · cases hcur
  · exact Or.inr (Or.inr hdone)

/-- A collection that has its contents no longer waits. -/
theorem Sound.finish (hs : Sound ns (some id) a) (hg : IsGood ns id)
    (hmembers : ∀ i ∈ membersOf ns id, IsHeld a i) :
    Sound ns none (Assembling.holding a id (heldOf ns id) []) ∧
      remaining (Assembling.holding a id (heldOf ns id) []) ≤ remaining a ∧
      ∀ i, IsHeld a i → IsHeld (Assembling.holding a id (heldOf ns id) []) i := by
  have hlt : id < a.held.size := by
    rw [hs.size]
    exact IsGood.lt_size hg
  have hheld : ∀ i, IsHeld a i → IsHeld (Assembling.holding a id (heldOf ns id) []) i := by
    intro i ⟨x, hx⟩
    rw [IsHeld, getElem?_holding hlt]
    split
    · exact ⟨_, rfl⟩
    · exact ⟨x, hx⟩
  refine ⟨⟨hs.nodes, hs.levels, ?_, ?_, ?_⟩, ?_, hheld⟩
  · rw [← hs.size]
    exact Array.size_setIfInBounds
  · intro i hi
    rcases List.mem_append.mp hi with hi | hi
    · exact hs.waiting i hi
    · cases hi
  · intro i hgood x hx
    rw [getElem?_holding hlt] at hx
    split at hx
    · rename_i heq
      subst heq
      obtain rfl := Option.some.inj (Option.some.inj hx)
      exact Or.inr (Or.inr ⟨rfl, fun j hj => hheld j (hmembers j hj)⟩)
    · rename_i hne
      rcases hs.held i hgood x hx with hwait | hcur | ⟨hsay, hmore⟩
      · exact Or.inl (List.mem_append_left _ hwait)
      · exact absurd (Option.some.inj hcur).symm hne
      · exact Or.inr (Or.inr ⟨hsay, fun j hj => hheld j (hmore j hj)⟩)
  · show (a.held.setIfInBounds id _).countP Option.isNone + (a.waiting ++ []).length ≤ _
    rw [countP_hold hlt, List.append_nil]
    exact Nat.add_le_add_right (Nat.sub_le _ _) _

/-- After as many rounds as there is work, no collection waits. -/
theorem Sound.settle {rounds : Nat} (hs : Sound ns none a) (hr : remaining a ≤ rounds) :
    ∃ a', (Assembling.settle rounds).run a = .ok ((), a') ∧ Sound ns none a' ∧ a'.waiting = [] ∧
      ∀ i, IsHeld a i → IsHeld a' i := by
  induction rounds generalizing a with
  | zero =>
    have hempty : a.waiting = [] := by
      rw [← List.length_eq_zero_iff]
      rw [remaining] at hr
      omega
    exact ⟨a, rfl, hs, hempty, fun _ h => h⟩
  | succ rounds ih =>
    have hget : (get : Assembling Assembly).run a = .ok (a, a) := rfl
    rw [Assembling.settle, run_bind_of_ok hget]
    cases hw : a.waiting with
    | nil => exact ⟨a, rfl, hs, hw, fun _ h => h⟩
    | cons id rest =>
      obtain ⟨hg, hc⟩ := hs.waiting id (hw ▸ List.mem_cons_self)
      obtain ⟨b, hrun, hsb, hadvances, hmembers⟩ := (hs.takeUp hw).contents a.nodes.size
        (fun i hi => by rwa [← Option.some.inj hi]) hg hc
      obtain ⟨hsc, hremaining, hheld⟩ := hsb.finish hg hmembers
      have hless : remaining { a with waiting := rest } < remaining a := by
        rw [remaining, remaining, hw]
        simp
      obtain ⟨a', hrest, hs', hdone, hkeep⟩ := ih hsc (by have := hadvances.remaining; omega)
      refine ⟨a', ?_, hs', hdone, fun i hi => hkeep i (hheld i (hadvances.isHeld hi))⟩
      have hmodify : (modify fun a => { a with waiting := rest } : Assembling Unit).run a =
          .ok ((), { a with waiting := rest }) := rfl
      have hget' : (get : Assembling Assembly).run { a with waiting := rest } =
          .ok ({ a with waiting := rest }, { a with waiting := rest }) := rfl
      have hhold : (hold id (heldOf ns id)).run b =
          .ok ((), Assembling.holding b id (heldOf ns id) []) := by
        rw [Assembling.holding, List.append_nil]
        rfl
      simp only
      rw [run_bind_of_ok hmodify, run_bind_of_ok hget', run_bind_of_ok hrun, run_bind_of_ok hhold]
      exact hrest

end Assembling

/-! The value. -/

open Assembling (Sound IsHeld remaining)

/-- The nodes of a JSON text are assembled: what is held for the root and for all members is what
their nodes say. -/
theorem assemble_eq (hg : IsGood ns 0) : ∃ held, NodeGraph.assemble ⟨ns, 0⟩ = .ok held ∧
    (∃ h, held[0]? = some (some h)) ∧ ∀ id, IsGood ns id → ∀ h, held[id]? = some (some h) →
      h = heldOf ns id ∧ ∀ i ∈ membersOf ns id, ∃ h, held[i]? = some (some h) := by
  have hstart : Sound ns none ⟨ns, ns.mergeLevels, .replicate ns.size none, []⟩ := by
    refine ⟨rfl, Nat.succ_pos _, Array.size_replicate, fun i hi => absurd hi List.not_mem_nil,
      fun i _ x hx => ?_⟩
    obtain ⟨_, hnone⟩ := Array.getElem?_eq_some_iff.mp hx
    rw [Array.getElem_replicate] at hnone
    cases hnone
  obtain ⟨a, hprepare, hs, hadvances, hroot⟩ := hstart.prepare hg
  have hremaining : remaining a ≤ ns.size := by
    refine Nat.le_trans hadvances.remaining ?_
    rw [remaining]
    exact Nat.le_trans Array.countP_le_size (Nat.le_of_eq Array.size_replicate)
  obtain ⟨a', hsettle, hs', hdone, hkeep⟩ := hs.settle hremaining
  refine ⟨a'.held, ?_, hkeep 0 hroot, fun id hgood h hid => ?_⟩
  · rw [NodeGraph.assemble]
    simp only
    rw [run_bind_of_ok hprepare, hsettle]
    rfl
  · rcases hs'.held id hgood h hid with hwait | hcur | hsay
    · rw [hdone] at hwait
      cases hwait
    · cases hcur
    · exact hsay

/-- A member lies behind its collection, so no path leads back to it. -/
theorem findIdx?_path {path : List (Option NodeId)} (hpath : ∀ x ∈ path, ∃ i, x = some i ∧ i < id) :
    path.findIdx? (· == some id) = none := by
  rw [List.findIdx?_eq_none_iff]
  intro x hx
  obtain ⟨i, rfl, hlt⟩ := hpath x hx
  rw [beq_eq_false_iff_ne]
  rintro heq
  obtain rfl := Option.some.inj heq
  exact absurd hlt (Nat.lt_irrefl i)

theorem path_cons {path : List (Option NodeId)} {i : NodeId}
    (hpath : ∀ x ∈ path, ∃ j, x = some j ∧ j < id)
    (hi : id < i) : ∀ x ∈ some id :: path, ∃ j, x = some j ∧ j < i := by
  rintro x (_ | ⟨_, hx⟩)
  · exact ⟨id, rfl, hi⟩
  · obtain ⟨j, rfl, hj⟩ := hpath x hx
    exact ⟨j, rfl, Nat.lt_trans hj hi⟩

/-- The value of a node that stands for one, read out of what the nodes hold. -/
theorem valueOf_eq {held : Array (Option Held)}
    (hall : ∀ id, IsGood ns id → ∀ h, held[id]? = some (some h) →
      h = heldOf ns id ∧ ∀ i ∈ membersOf ns id, ∃ h, held[i]? = some (some h))
    (hv : v.IsJson) (hstands : Stands ns id v) (hid : ∃ h, held[id]? = some (some h)) {fuel : Nat}
    {path : List (Option NodeId)} (hfuel : ns.size < fuel + id)
    (hpath : ∀ x ∈ path, ∃ i, x = some i ∧ i < id) :
    valueOf held fuel path id = v.reread := by
  have hlt := Nat.succ_le_of_lt hstands.lt_size
  obtain ⟨fuel, rfl⟩ : ∃ n, fuel = n + 1 := ⟨fuel - 1, by omega⟩
  induction hstands generalizing fuel path with
  | @scalar id s hnode =>
    obtain ⟨h, hid⟩ := hid
    cases hv with
    | scalar hs =>
      obtain ⟨rfl, _⟩ := hall id ⟨_, .scalar hs, .scalar hnode⟩ h hid
      rw [valueOf, findIdx?_path hpath, hid, heldOf_scalar hs hnode]
      rfl
  | @seq id ids items hnode hlen hbehind hitems ih =>
    obtain ⟨h, hid⟩ := hid
    cases hv with
    | seq hv =>
      obtain ⟨rfl, hmembers⟩ := hall id ⟨_, .seq hv, .seq hnode hlen hbehind hitems⟩ h hid
      rw [membersOf, content_eq hnode] at hmembers
      rw [valueOf, findIdx?_path hpath, hid, heldOf_seq hnode, Value.reread, Value.rereadItems_eq]
      show Value.seq (ids.map (valueOf held fuel (some id :: path))) = _
      rw [map_eq_map_of_zip hlen fun p hp => ?_]
      have hbehind := Nat.succ_le_of_lt (hbehind p hp)
      have hlt := Nat.succ_le_of_lt (hitems p hp).lt_size
      obtain ⟨fuel, rfl⟩ : ∃ n, fuel = n + 1 := ⟨fuel - 1, by omega⟩
      exact ih p hp (hv p.2 (List.of_mem_zip hp).2) (hmembers p.1 (List.of_mem_zip hp).1)
        (path_cons hpath hbehind)
        hlt fuel (by omega)
  | @map id pairs entries hnode hlen hbehind hkeys hvalues ih =>
    obtain ⟨h, hid⟩ := hid
    cases hv with
    | map hk hnodup hv =>
      obtain ⟨rfl, hmembers⟩ :=
        hall id ⟨_, .map hk hnodup hv, .map hnode hlen hbehind hkeys hvalues⟩ h hid
      rw [membersOf, content_eq hnode] at hmembers
      rw [valueOf, findIdx?_path hpath, hid, heldOf_map hnode, Value.reread, Value.rereadEntries_eq]
      show Value.map ((pairs.map _).map fun e : Scalar × NodeId =>
        (e.1, valueOf held fuel (some id :: path) e.2)) = _
      rw [List.map_map, map_eq_map_of_zip hlen fun p hp => ?_]
      have hbehind := Nat.succ_le_of_lt (hbehind p hp).2
      have hlt := Nat.succ_le_of_lt (hvalues p hp).lt_size
      obtain ⟨k, hk, _⟩ := hk p.2 (List.of_mem_zip hp).2
      have hkey := hkeys p hp
      rw [hk] at hkey
      obtain ⟨fuel, rfl⟩ : ∃ n, fuel = n + 1 := ⟨fuel - 1, by omega⟩
      have hvalue : valueOf held (fuel + 1) (some id :: path) p.1.2 = p.2.2.reread :=
        ih p hp (hv p.2 (List.of_mem_zip hp).2)
          (hmembers p.1.2 (List.mem_map_of_mem (List.of_mem_zip hp).1))
          (path_cons hpath hbehind) hlt fuel (by omega)
      show (keyOf ns p.1.1, valueOf held (fuel + 1) (some id :: path) p.1.2) = _
      rw [keyOf_eq hkey, hvalue, hk]

/-- What is read from the text of a collection with short keys. -/
theorem value_of_hasShortKeys {cs : List Char} (hv : v.IsJson) (hs : v.scalar? = none)
    (hc : Json.chars 0 v = .ok cs) (hshort : v.hasShortKeys = true) :
    Stream.value ⟨cs, none⟩ = .ok v.reread := by
  obtain ⟨ns, hcompose, hstands⟩ := compose_of_hasShortKeys hv hs hc hshort
  obtain ⟨held, hassemble, hroot, hall⟩ := assemble_eq ⟨v, hv, hstands⟩
  have hvalue : valueOf held (ns.size + 1) [] 0 = v.reread :=
    valueOf_eq hall hv hstands hroot (by omega) fun x hx => absurd hx List.not_mem_nil
  rw [Stream.value, hcompose]
  show NodeGraph.value ⟨ns, 0⟩ = _
  rw [NodeGraph.value, hassemble, ← hvalue]
  rfl

theorem value_of_longKey {cs : List Char} (hv : v.IsJson) (hs : v.scalar? = none)
    (hc : Json.chars 0 v = .ok cs) (hlong : v.hasShortKeys = false) :
    Stream.value ⟨cs, none⟩ = .error .malformed := by
  rw [Stream.value, compose_of_longKey hv hs hc hlong]
  rfl

end ResolverHooks.Yaml
