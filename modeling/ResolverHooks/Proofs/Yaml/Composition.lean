import ResolverHooks.Proofs.Yaml.Scan
import ResolverHooks.Yaml.Composition

/-!
Composing nodes from the tokens of a JSON text. Each value gets a node, in front of the nodes of its
members. A key that has no mark in front of it is taken for an entry without a value, and the colon
behind it does not fit.
-/
namespace ResolverHooks.Yaml

variable {l l' : Lexer} {t : Token} {ts us : List Token}

namespace Lexer

theorem dropStale_dropStale {c : Cursor} {k k' : Option KeyMark} (h : dropStale c k = .ok k') :
    dropStale c k' = .ok k' := by
  cases k with
  | none =>
    obtain rfl := Except.ok.inj h
    rfl
  | some m =>
    rw [dropStale] at h
    split at h
    · split at h
      · cases h
      · obtain rfl := Except.ok.inj h
        rfl
    · rename_i hs
      obtain rfl := Except.ok.inj h
      rw [dropStale, if_neg hs]

theorem mapM_dropStale_dropStale {c : Cursor} {ks ks' : List (Option KeyMark)}
    (h : ks.mapM (dropStale c) = .ok ks') :
    ks'.mapM (dropStale c) = .ok ks' := by
  induction ks generalizing ks' with
  | nil =>
    obtain rfl := Except.ok.inj h
    rfl
  | cons k ks ih =>
    rw [List.mapM_cons] at h
    cases hk : dropStale c k with
    | error f =>
      rw [hk] at h
      cases h
    | ok k' =>
      cases hks : ks.mapM (dropStale c) with
      | error f =>
        rw [hk, hks] at h
        cases h
      | ok more =>
        rw [hk, hks] at h
        obtain rfl := Except.ok.inj h
        rw [List.mapM_cons, dropStale_dropStale hk, ih hks]
        rfl

theorem forgetStale_iff :
    l.forgetStale = .ok l' ↔ ∃ key outerKeys, dropStale l.cursor l.key = .ok key ∧
    l.outerKeys.mapM (dropStale l.cursor) = .ok outerKeys ∧ l' = { l with key, outerKeys } := by
  rw [forgetStale]
  cases dropStale l.cursor l.key with
  | error f => simp [bind, Except.bind]
  | ok key =>
    cases l.outerKeys.mapM (dropStale l.cursor) with
    | error f => simp [bind, Except.bind]
    | ok outerKeys => simp [bind, Except.bind, pure, Except.pure, eq_comm]

theorem forgetStale_forgetStale (h : l.forgetStale = .ok l') : l'.forgetStale = .ok l' := by
  obtain ⟨key, outerKeys, hk, hks, rfl⟩ := forgetStale_iff.mp h
  exact forgetStale_iff.mpr
    ⟨key, outerKeys, dropStale_dropStale hk, mapM_dropStale_dropStale hks, rfl⟩

/-- What has been looked at can be looked at again. -/
theorem fill_fill {n m : Nat} (h : l.fill n = .ok l') : l'.fill (m + 1) = .ok l' := by
  induction n generalizing l with
  | zero => cases h
  | succ n ih =>
    rw [fill] at h
    split at h
    · rename_i hd
      obtain rfl := Except.ok.inj h
      exact fill_of_done hd m
    · split at h
      · cases hs : l.step with
        | error f =>
          rw [hs] at h
          cases h
        | ok next =>
          rw [hs] at h
          exact ih h
      · rename_i hd hq
        cases hf : l.forgetStale with
        | error f =>
          rw [hf] at h
          cases h
        | ok fresh =>
          rw [hf] at h
          simp only [bind, Except.bind] at h
          split at h
          · cases hs : fresh.step with
            | error f =>
              rw [hs] at h
              cases h
            | ok next =>
              rw [hs] at h
              exact ih h
          · rename_i hp
            obtain rfl := Except.ok.inj h
            have hsame : fresh.queue = l.queue ∧ fresh.done = l.done := by
              obtain ⟨_, _, _, _, rfl⟩ := forgetStale_iff.mp hf
              exact ⟨rfl, rfl⟩
            rw [fill, hsame.1, hsame.2, if_neg hd, if_neg hq, forgetStale_forgetStale hf]
            simp only [bind, Except.bind]
            rw [if_neg hp]
            rfl

/-- The tokens that are handed out, the first of which has been looked at. -/
def Seen (l : Lexer) (ts : List Token) : Prop :=
  ∃ t us, ts = t :: us ∧ l.peek = .ok (t, l) ∧ Ahead l.skip us

theorem Seen.ahead (h : l.Seen ts) : l.Ahead ts := by
  obtain ⟨t, us, rfl, hpeek, hrest⟩ := h
  exact .cons hpeek hrest

theorem Ahead.peek (h : l.Ahead (t :: ts)) : ∃ l', l.peek = .ok (t, l') ∧ l'.Seen (t :: ts) := by
  cases h with
  | @cons _ l' _ _ hpeek hrest =>
    refine ⟨l', hpeek, t, ts, rfl, ?_, hrest⟩
    rw [Lexer.peek] at hpeek ⊢
    cases hf : l.fill (l.cursor.rest.length + 3) with
    | error f =>
      rw [hf] at hpeek
      cases hpeek
    | ok next =>
      rw [hf] at hpeek
      obtain ⟨rfl, rfl⟩ := Prod.mk.inj (Except.ok.inj hpeek)
      rw [fill_fill hf]
      rfl

end Lexer

namespace Composing

open Lexer (Ahead Seen)

variable {α β : Type} {m m' m'' : Composing α} {f : α → Composing β} {a : α} {b : β}
    {P Q R : Lexer → Prop}
  {ns ns' ns'' : Nodes}

/-- A part of composing comes to another one, with the tokens that are left and the nodes so far. -/
def Leads (m : Composing α) (P : Lexer → Prop) (ns : Nodes) (m' : Composing α) (Q : Lexer → Prop)
    (ns' : Nodes) : Prop :=
  ∀ s : Source, P s.lexer → s.nodes = ns → ∃ s', m.run s = m'.run s' ∧ Q s'.lexer ∧ s'.nodes = ns'

/-- A part of composing that comes to a result. -/
def Gives (m : Composing α) (P : Lexer → Prop) (ns : Nodes) (a : α) (Q : Lexer → Prop)
    (ns' : Nodes) : Prop :=
  Leads m P ns (pure a) Q ns'

/-- A part of composing that ends with a fault. -/
def Fails (m : Composing α) (P : Lexer → Prop) (ns : Nodes) : Prop :=
  ∀ s : Source, P s.lexer → s.nodes = ns → m.run s = .error .malformed

theorem Leads.refl (m : Composing α) : Leads m P ns m P ns := fun s hP hs => ⟨s, rfl, hP, hs⟩

theorem Leads.trans (h : Leads m P ns m' Q ns') (h' : Leads m' Q ns' m'' R ns'') :
    Leads m P ns m'' R ns'' := by
  intro s hP hs
  obtain ⟨s', hrun, hQ, hs'⟩ := h s hP hs
  obtain ⟨s'', hrun', hR, hs''⟩ := h' s' hQ hs'
  exact ⟨s'', hrun.trans hrun', hR, hs''⟩

theorem Leads.bind (h : Leads m P ns m' Q ns') (f : α → Composing β) :
    Leads (m >>= f) P ns (m' >>= f) Q ns' := by
  intro s hP hs
  obtain ⟨s', hrun, hQ, hs'⟩ := h s hP hs
  exact ⟨s', by rw [StateT.run_bind, StateT.run_bind, hrun], hQ, hs'⟩

theorem Leads.fails (h : Leads m P ns m' Q ns') (h' : Fails m' Q ns') : Fails m P ns := by
  intro s hP hs
  obtain ⟨s', hrun, hQ, hs'⟩ := h s hP hs
  exact hrun.trans (h' s' hQ hs')

theorem Leads.of_imp (h : Leads m Q ns m' R ns') (hPQ : ∀ l, P l → Q l) : Leads m P ns m' R ns' :=
  fun s hP hs => h s (hPQ _ hP) hs

theorem Gives.leads (h : Gives m P ns a Q ns') (f : α → Composing β) :
    Leads (m >>= f) P ns (f a) Q ns' :=
  Leads.bind h f

theorem Gives.bind (h : Gives m P ns a Q ns') (h' : Gives (f a) Q ns' b R ns'') :
    Gives (m >>= f) P ns b R ns'' :=
  (h.leads f).trans h'

theorem Fails.bind (h : Fails m P ns) (f : α → Composing β) : Fails (m >>= f) P ns := by
  intro s hP hs
  rw [StateT.run_bind, h s hP hs]
  rfl

theorem Leads.gives (h : Leads m P ns m' Q ns') (h' : Gives m' Q ns' a R ns'') :
    Gives m P ns a R ns'' := h.trans h'

theorem gives_pure (a : α) : Gives (pure a) P ns a P ns := fun s hP hs => ⟨s, rfl, hP, hs⟩

theorem fails_fail : Fails (fail : Composing α) P ns := fun _ _ _ => rfl

theorem gives_peek : Gives peek (Ahead · (t :: ts)) ns t (Seen · (t :: ts)) ns := by
  intro s hs hns
  obtain ⟨l', hpeek, hseen⟩ := hs.peek
  refine ⟨{ s with lexer := l' }, ?_, hseen, hns⟩
  have hrun : peek.run s = s.lexer.peek >>= fun r => .ok (r.1, { s with lexer := r.2 }) := by
    simp [peek, liftM, monadLift, MonadLift.monadLift, StateT.run_lift]
    rfl
  rw [hrun, hpeek]
  rfl

theorem gives_skip : Gives skip (Seen · (t :: ts)) ns () (Ahead · ts) ns := by
  rintro s ⟨t', us, heq, _, hrest⟩ hns
  obtain ⟨rfl, rfl⟩ := List.cons.inj heq
  exact ⟨{ s with lexer := s.lexer.skip }, rfl, hrest, hns⟩

theorem gives_take (t : Token) (ts : List Token) (ns : Nodes) :
    Gives (take t) (Ahead · (t :: ts)) ns true (Ahead · ts) ns := by
  refine gives_peek.bind ?_
  rw [if_pos rfl]
  exact gives_skip.bind (gives_pure true)

theorem gives_take_of_ne {t' : Token} (h : t' ≠ t) :
    Gives (take t) (Ahead · (t' :: ts)) ns false (Ahead · (t' :: ts)) ns := by
  refine gives_peek.bind ?_
  rw [if_neg h]
  exact (gives_pure false).of_imp fun _ => Seen.ahead

theorem gives_isNext (us : List Token) (t : Token) (ts : List Token) (ns : Nodes) :
    Gives (isNext us) (Ahead · (t :: ts)) ns (us.contains t) (Ahead · (t :: ts)) ns :=
  gives_peek.bind ((gives_pure _).of_imp fun _ => Seen.ahead)

theorem gives_add (tag : Tag) (content : Content) (ns : Nodes) :
    Gives (add none tag content) P ns ns.size P (ns.push ⟨tag, content⟩) := by
  rintro s hP rfl
  exact ⟨{ s with nodes := s.nodes.push ⟨tag, content⟩ }, rfl, hP, rfl⟩

theorem gives_fill (id : NodeId) (content : Content) (ns : Nodes) :
    Gives (fill id content) P ns id P (ns.setContent id content) := by
  rintro s hP rfl
  exact ⟨_, rfl, hP, rfl⟩

/-- What nodes begin with here: neither an alias nor properties. -/
def startsNode : Token → Bool
  | .scalar _ _ | .flowSequence | .flowMapping => true
  | _ => false

theorem gives_properties (h : startsNode t = true) :
    Gives properties (Ahead · (t :: ts)) ns ⟨none, none⟩ (Ahead · (t :: ts)) ns := by
  refine gives_peek.bind ?_
  cases t with
  | scalar | flowSequence | flowMapping => exact (gives_pure _).of_imp fun _ => Seen.ahead
  | _ => cases h

theorem gives_scalarNode (fuel : Nat) (place : Place) (text : String) (plain : Bool)
    (ts : List Token) (ns : Nodes) :
    Gives (node (fuel + 1) place) (Ahead · (.scalar text plain :: ts)) ns ns.size (Ahead · ts)
      (ns.push ⟨scalarTag none plain text, .scalar text⟩) := by
  rw [node]
  refine gives_peek.bind (Leads.of_imp ?_ fun _ => Seen.ahead)
  refine (gives_properties rfl).bind ((gives_pure none).bind (gives_peek.bind ?_))
  exact gives_skip.bind ((gives_pure ()).bind (gives_add _ _ ns))

theorem leads_sequenceNode (fuel : Nat) (place : Place) (ts : List Token) (ns : Nodes) :
    Leads (node (fuel + 1) place) (Ahead · (.flowSequence :: ts)) ns
      (flowItems fuel true [] >>= fun ids => fill ns.size (.sequence ids)) (Ahead · ts)
      (ns.push ⟨.seq, .sequence []⟩) := by
  rw [node]
  refine (gives_peek.leads _).trans (Leads.of_imp ?_ fun _ => Seen.ahead)
  refine ((gives_properties rfl).leads _).trans
    (((gives_pure none).leads _).trans ((gives_peek.leads _).trans ?_))
  exact ((gives_pure ()).leads _).trans ((gives_skip.leads _).trans ((gives_add _ _ ns).leads _))

theorem leads_mappingNode (fuel : Nat) (place : Place) (ts : List Token) (ns : Nodes) :
    Leads (node (fuel + 1) place) (Ahead · (.flowMapping :: ts)) ns
      (flowEntries fuel true [] >>= fun pairs => fill ns.size (.mapping pairs)) (Ahead · ts)
      (ns.push ⟨.map, .mapping []⟩) := by
  rw [node]
  refine (gives_peek.leads _).trans (Leads.of_imp ?_ fun _ => Seen.ahead)
  refine ((gives_properties rfl).leads _).trans
    (((gives_pure none).leads _).trans ((gives_peek.leads _).trans ?_))
  exact ((gives_pure ()).leads _).trans ((gives_skip.leads _).trans ((gives_add _ _ ns).leads _))

/-! Collections. -/

/-- Nodes that come behind others. -/
structure Extends (ns ns' : Nodes) : Prop where
  size : ns.size ≤ ns'.size
  same : ∀ i < ns.size, ns'[i]? = ns[i]?

theorem Extends.refl (ns : Nodes) : Extends ns ns := ⟨Nat.le_refl _, fun _ _ => rfl⟩

theorem Extends.trans (h : Extends ns ns') (h' : Extends ns' ns'') : Extends ns ns'' :=
  ⟨Nat.le_trans h.size h'.size, fun i hi =>
    (h'.same i (Nat.lt_of_lt_of_le hi h.size)).trans (h.same i hi)⟩

theorem Extends.push (ns : Nodes) (x : Node) : Extends ns (ns.push x) :=
  ⟨by simp, fun i hi => by rw [Array.getElem?_push_lt hi, Array.getElem?_eq_getElem hi]⟩

theorem getElem?_setContent (ns : Nodes) (id i : NodeId) (content : Content) :
    (ns.setContent id content)[i]? =
      if id = i then (ns[i]?).map fun x => { x with content } else ns[i]? := by
  rw [Nodes.setContent, Array.getElem?_setIfInBounds]
  split
  · rename_i heq
    subst heq
    split
    · rename_i hlt
      rw [Nodes.node, Array.getElem?_eq_getElem hlt]
      rfl
    · rename_i hlt
      rw [Array.getElem?_eq_none (Nat.le_of_not_lt hlt)]
      rfl
  · rfl

theorem size_setContent (ns : Nodes) (id : NodeId) (content : Content) :
    (ns.setContent id content).size = ns.size :=
  Array.size_setIfInBounds

end Composing

/-- The node of a scalar. -/
def scalarNode (s : Scalar) : Node := ⟨scalarTag none (!s.isQuoted) s.written, .scalar s.written⟩

/-- A node stands for a value. The nodes of the members come behind the one of their collection. -/
inductive Stands (ns : Nodes) : NodeId → Value → Prop where
  | scalar {id : NodeId} {s : Scalar} : ns[id]? = some (scalarNode s) → Stands ns id (.scalar s)
  | seq {id : NodeId} {ids : List NodeId} {items : List Value} :
      ns[id]? = some ⟨.seq, .sequence ids⟩ → ids.length = items.length →
      (∀ p ∈ ids.zip items, id < p.1) → (∀ p ∈ ids.zip items, Stands ns p.1 p.2) →
      Stands ns id (.seq items)
  | map {id : NodeId} {pairs : List (NodeId × NodeId)} {entries : List (Scalar × Value)} :
      ns[id]? = some ⟨.map, .mapping pairs⟩ → pairs.length = entries.length →
      (∀ p ∈ pairs.zip entries, id < p.1.1 ∧ id < p.1.2) →
      (∀ p ∈ pairs.zip entries, ns[p.1.1]? = some (scalarNode p.2.1)) →
      (∀ p ∈ pairs.zip entries, Stands ns p.1.2 p.2.2) → Stands ns id (.map entries)

namespace Stands

variable {ns ns' : Nodes} {id : NodeId} {v : Value}

theorem lt_size (h : Stands ns id v) : id < ns.size := by
  cases h with
  | scalar h => exact (Array.getElem?_eq_some_iff.mp h).1
  | seq h => exact (Array.getElem?_eq_some_iff.mp h).1
  | map h => exact (Array.getElem?_eq_some_iff.mp h).1

/-- What comes before a node does not matter to it, and neither does what comes behind all of
them. -/
theorem congr (h : Stands ns id v) (hsame : ∀ i, id ≤ i → i < ns.size → ns'[i]? = ns[i]?) :
    Stands ns' id v := by
  have hlt := h.lt_size
  induction h with
  | scalar hnode => exact .scalar ((hsame _ (Nat.le_refl _) hlt).trans hnode)
  | seq hnode hlen hbehind hitems ih =>
    refine .seq ((hsame _ (Nat.le_refl _) hlt).trans hnode) hlen hbehind fun p hp => ?_
    exact ih p hp (fun i hi => hsame i (Nat.le_trans (Nat.le_of_lt (hbehind p hp)) hi))
      (hitems p hp).lt_size
  | map hnode hlen hbehind hkeys hvalues ih =>
    refine .map ((hsame _ (Nat.le_refl _) hlt).trans hnode) hlen hbehind
      (fun p hp => ?_) fun p hp => ?_
    · have hkey := hkeys p hp
      exact (hsame _ (Nat.le_of_lt (hbehind p hp).1)
        (Array.getElem?_eq_some_iff.mp hkey).1).trans hkey
    · exact ih p hp (fun i hi => hsame i (Nat.le_trans (Nat.le_of_lt (hbehind p hp).2) hi))
        (hvalues p hp).lt_size

theorem of_extends (h : Stands ns id v) (he : Composing.Extends ns ns') : Stands ns' id v :=
  h.congr fun i _ hi => he.same i hi

end Stands

namespace Composing

open Lexer (Ahead Seen tokens itemTokens entryTokens keyTokens scalarToken)

variable {ns ns' ns'' : Nodes} {v : Value}

/-- A value is composed to a node that stands for it. -/
def Lays (v : Value) : Prop :=
  ∀ (fuel : Nat) (place : Place) (ns : Nodes) (ts : List Token), (tokens v).length ≤ fuel →
    ∃ ns', Gives (node fuel place) (Ahead · (tokens v ++ ts)) ns ns.size (Ahead · ts) ns' ∧
      Stands ns' ns.size v ∧ Extends ns ns'

theorem tokens_cons (hv : v.IsJson) : ∃ t ts, tokens v = t :: ts ∧ startsNode t = true := by
  cases hv with
  | scalar _ => exact ⟨_, _, rfl, rfl⟩
  | seq _ => exact ⟨_, _, rfl, rfl⟩
  | map _ _ _ => exact ⟨_, _, rfl, rfl⟩

theorem ne_of_startsNode (h : startsNode t = true) {t' : Token}
    (h' : startsNode t' = false) : t ≠ t' := by
  rintro rfl
  rw [h] at h'
  cases h'

/-- What separates an entry from the one in front of it. -/
def separator (first : Bool) : List Token := if first then [] else [.comma]

section

variable {fuel : Nat}

/-- An item of a sequence is a node, with the rest of the sequence behind it. -/
theorem leads_item (first : Bool) (ht : startsNode t = true) (acc : List NodeId) :
    Leads (flowItems (fuel + 1) first acc) (Ahead · (separator first ++ t :: ts)) ns
      (node fuel .flow >>= fun id => flowItems fuel false (id :: acc)) (Ahead · (t :: ts)) ns := by
  have hend : t ≠ .flowSequenceEnd := ne_of_startsNode ht rfl
  have hkey : [Token.key].contains t = false := by simpa using (ne_of_startsNode ht rfl : t ≠ .key)
  have hitem := gives_isNext [Token.key] t ts ns
  rw [hkey] at hitem
  rw [flowItems]
  cases first with
  | true =>
    exact ((gives_take_of_ne hend).leads _).trans
      ((hitem.leads _).trans ((gives_take_of_ne hend).leads _))
  | false =>
    refine ((gives_take_of_ne (show Token.comma ≠ .flowSequenceEnd by simp)).leads _).trans ?_
    refine ((gives_take .comma _ ns).leads _).trans ?_
    exact (hitem.leads _).trans ((gives_take_of_ne hend).leads _)

theorem gives_lastItem (acc : List NodeId) (first : Bool) (fuel : Nat) :
    Gives (flowItems (fuel + 1) first acc) (Ahead · (.flowSequenceEnd :: ts)) ns acc.reverse
      (Ahead · ts) ns := by
  rw [flowItems]
  exact (gives_take .flowSequenceEnd ts ns).bind (gives_pure _)

theorem leads_nodeUnless {place : Place} {us : List Token} (ht : us.contains t = false) :
    Leads (nodeUnless (fuel + 1) us place) (Ahead · (t :: ts)) ns (node fuel place)
      (Ahead · (t :: ts)) ns := by
  have hnext := gives_isNext us t ts ns
  rw [ht] at hnext
  rw [nodeUnless]
  exact hnext.leads _

/-- An entry of a mapping, its key with a mark, is the node of the value, with the rest of the
mapping behind it. -/
theorem leads_entry {text : String} (first : Bool) (ht : startsNode t = true)
    (acc : List (NodeId × NodeId)) :
    Leads (flowEntries (fuel + 3) first acc)
      (Ahead · (separator first ++ .key :: .scalar text false :: .value :: t :: ts)) ns
      (node fuel .flow >>= fun w => flowEntries (fuel + 2) false ((ns.size, w) :: acc))
        (Ahead · (t :: ts))
      (ns.push ⟨.str, .scalar text⟩) := by
  have hkey : Gives (nodeUnless (fuel + 2) [.value, .comma, .flowMappingEnd] .flow)
      (Ahead · (.scalar text false :: .value :: t :: ts)) ns ns.size (Ahead · (.value :: t :: ts))
      (ns.push ⟨.str, .scalar text⟩) :=
    (leads_nodeUnless (by simp)).trans (gives_scalarNode fuel .flow text false _ ns)
  have hvalue : Leads (flowValue (fuel + 2) .flowMappingEnd) (Ahead · (.value :: t :: ts))
      (ns.push ⟨.str, .scalar text⟩) (node fuel .flow) (Ahead · (t :: ts))
      (ns.push ⟨.str, .scalar text⟩) := by
    have hends : [Token.comma, .flowMappingEnd].contains t = false := by
      simpa using And.intro (ne_of_startsNode ht rfl : t ≠ .comma)
        (ne_of_startsNode ht rfl : t ≠ .flowMappingEnd)
    rw [flowValue]
    exact ((gives_take .value _ _).leads _).trans (leads_nodeUnless hends)
  rw [flowEntries]
  cases first with
  | true =>
    refine ((gives_take_of_ne (show Token.key ≠ .flowMappingEnd by simp)).leads _).trans ?_
    exact ((gives_take .key _ ns).leads _).trans ((hkey.leads _).trans (hvalue.bind _))
  | false =>
    refine ((gives_take_of_ne (show Token.comma ≠ .flowMappingEnd by simp)).leads _).trans ?_
    refine ((gives_take .comma _ ns).leads _).trans ?_
    exact ((gives_take .key _ ns).leads _).trans ((hkey.leads _).trans (hvalue.bind _))

/-- Without its mark a key is an entry of its own, and the colon behind it does not fit. -/
theorem fails_entry (first : Bool) (text : String) (acc : List (NodeId × NodeId))
    (ts : List Token) :
    Fails (flowEntries fuel first acc)
      (Ahead · (separator first ++ .scalar text false :: .value :: ts)) ns := by
  have hcolon : ∀ (fuel : Nat) (acc : List (NodeId × NodeId)) (ns : Nodes),
      Fails (flowEntries fuel false acc) (Ahead · (.value :: ts)) ns := by
    intro fuel acc ns
    cases fuel with
    | zero => exact fails_fail
    | succ fuel =>
      rw [flowEntries]
      refine ((gives_take_of_ne (show Token.value ≠ .flowMappingEnd by simp)).leads _).fails ?_
      exact ((gives_take_of_ne (show Token.value ≠ .comma by simp)).leads _).fails
        (fails_fail.bind _)
  have hentry : ∀ (fuel : Nat) (acc : List (NodeId × NodeId)),
      Fails (node fuel .flow >>= fun k => emptyNode >>= fun w =>
        flowEntries fuel false ((k, w) :: acc))
        (Ahead · (.scalar text false :: .value :: ts)) ns := by
    intro fuel acc
    cases fuel with
    | zero => exact fails_fail
    | succ fuel =>
      refine ((gives_scalarNode fuel .flow text false _ ns).leads _).fails ?_
      exact ((gives_add _ _ _).leads _).fails (hcolon _ _ _)
  cases fuel with
  | zero => exact fails_fail
  | succ fuel =>
    rw [flowEntries]
    have hmark : ∀ t', t' = Token.key ∨ t' = .flowMappingEnd → Token.scalar text false ≠ t' := by
      rintro t' (rfl | rfl) <;> simp
    have hmiss : ∀ t', t' = Token.key ∨ t' = .flowMappingEnd → Gives (take t')
        (Ahead · (.scalar text false :: .value :: ts)) ns false
        (Ahead · (.scalar text false :: .value :: ts)) ns :=
      fun t' h => gives_take_of_ne (hmark t' h)
    cases first with
    | true =>
      refine ((hmiss _ (Or.inr rfl)).leads _).fails ?_
      exact ((hmiss _ (Or.inl rfl)).leads _).fails
        (((hmiss _ (Or.inr rfl)).leads _).fails (hentry fuel acc))
    | false =>
      refine ((gives_take_of_ne (show Token.comma ≠ .flowMappingEnd by simp)).leads _).fails ?_
      refine ((gives_take .comma _ ns).leads _).fails ?_
      exact ((hmiss _ (Or.inl rfl)).leads _).fails
        (((hmiss _ (Or.inr rfl)).leads _).fails (hentry fuel acc))

theorem gives_lastEntry (acc : List (NodeId × NodeId)) (first : Bool) (fuel : Nat) :
    Gives (flowEntries (fuel + 1) first acc) (Ahead · (.flowMappingEnd :: ts)) ns acc.reverse
      (Ahead · ts) ns := by
  rw [flowEntries]
  exact (gives_take .flowMappingEnd ts ns).bind (gives_pure _)

end

/-! Values. -/

theorem drop_itemTokens (first : Bool) (x : Value) (xs : List Value) :
    (itemTokens (x :: xs)).drop first.toNat = separator first ++ (tokens x ++ itemTokens xs) := by
  cases first <;> rfl

theorem drop_entryTokens (first : Bool) (e : Scalar × Value) (es : List (Scalar × Value)) :
    (entryTokens (e :: es)).drop first.toNat =
      separator first ++ (keyTokens e.1 ++ (tokens e.2 ++ entryTokens es)) := by
  cases first <;> rfl

/-- The items of a sequence are composed one after another. -/
theorem gives_items {items : List Value} (hjson : ∀ v ∈ items, v.IsJson)
    (hlays : ∀ v ∈ items, Lays v)
    (first : Bool) (fuel : Nat) (acc : List NodeId) (ns : Nodes) (ts : List Token)
    (hfuel : ((itemTokens items).drop first.toNat).length < fuel) :
    ∃ ns' ids, Gives (flowItems fuel first acc)
        (Ahead · ((itemTokens items).drop first.toNat ++ .flowSequenceEnd :: ts)) ns
        (acc.reverse ++ ids)
        (Ahead · ts) ns' ∧
      List.Forall₂ (fun id v => ns.size ≤ id ∧ Stands ns' id v) ids items ∧ Extends ns ns' := by
  induction items generalizing first fuel acc ns with
  | nil =>
    obtain ⟨fuel, rfl⟩ := Nat.exists_eq_succ_of_ne_zero (Nat.ne_zero_of_lt hfuel)
    refine ⟨ns, [], ?_, .nil, .refl ns⟩
    have hnil : (itemTokens []).drop first.toNat = [] := List.drop_nil
    rw [hnil, List.append_nil]
    exact gives_lastItem acc first fuel
  | cons x xs ih =>
    obtain ⟨t, more, hx, ht⟩ := tokens_cons (hjson x List.mem_cons_self)
    rw [drop_itemTokens] at hfuel ⊢
    obtain ⟨fuel, rfl⟩ := Nat.exists_eq_succ_of_ne_zero (Nat.ne_zero_of_lt hfuel)
    have hlen : (tokens x).length + (itemTokens xs).length ≤ fuel := by
      simp only [List.length_append] at hfuel
      omega
    have hpos : 0 < (tokens x).length := by rw [hx]; exact Nat.succ_pos _
    obtain ⟨ns₁, hnode, hstands, hext⟩ := hlays x List.mem_cons_self fuel .flow ns
      (itemTokens xs ++ .flowSequenceEnd :: ts) (by omega)
    obtain ⟨ns₂, ids, hitems, hall, hext'⟩ := ih (fun v hv => hjson v (List.mem_cons_of_mem x hv))
      (fun v hv => hlays v (List.mem_cons_of_mem x hv)) false fuel (ns.size :: acc) ns₁ (by
        show (itemTokens xs).length < fuel
        omega)
    refine ⟨ns₂, ns.size :: ids, ?_, .cons ⟨Nat.le_refl _, hstands.of_extends hext'⟩ ?_,
      hext.trans hext'⟩
    · rw [hx] at hnode ⊢
      have := (leads_item first ht acc).gives (hnode.bind hitems)
      simpa using this
    · exact hall.imp fun id v h => ⟨Nat.le_trans hext.size h.1, h.2⟩

theorem keyTokens_of_isShortKey {k : String} (h : (Scalar.str k).isShortKey = true) :
    keyTokens (.str k) = [.key, .scalar k false, .value] := by
  rw [keyTokens, h]
  rfl

/-- The entries of a mapping are composed one after another, the key of each in front of its
value. -/
theorem gives_entries {entries : List (Scalar × Value)}
    (hkeys : ∀ e ∈ entries, ∃ k, e.1 = .str k ∧ (Scalar.str k).isShortKey = true)
    (hjson : ∀ e ∈ entries, e.2.IsJson) (hlays : ∀ e ∈ entries, Lays e.2)
    (first : Bool) (fuel : Nat) (acc : List (NodeId × NodeId)) (ns : Nodes) (ts : List Token)
    (hfuel : ((entryTokens entries).drop first.toNat).length < fuel) :
    ∃ ns' pairs, Gives (flowEntries fuel first acc)
        (Ahead · ((entryTokens entries).drop first.toNat ++ .flowMappingEnd :: ts)) ns
        (acc.reverse ++ pairs)
        (Ahead · ts) ns' ∧
      List.Forall₂ (fun p e => (ns.size ≤ p.1 ∧ ns.size ≤ p.2) ∧ ns'[p.1]? = some (scalarNode e.1) ∧
        Stands ns' p.2 e.2) pairs entries ∧ Extends ns ns' := by
  induction entries generalizing first fuel acc ns with
  | nil =>
    obtain ⟨fuel, rfl⟩ := Nat.exists_eq_succ_of_ne_zero (Nat.ne_zero_of_lt hfuel)
    refine ⟨ns, [], ?_, .nil, .refl ns⟩
    have hnil : (entryTokens []).drop first.toNat = [] := List.drop_nil
    rw [hnil, List.append_nil]
    exact gives_lastEntry acc first fuel
  | cons e es ih =>
    obtain ⟨k, hk, hshort⟩ := hkeys e List.mem_cons_self
    obtain ⟨t, more, hx, ht⟩ := tokens_cons (hjson e List.mem_cons_self)
    rw [drop_entryTokens, hk, keyTokens_of_isShortKey hshort] at hfuel ⊢
    have hlen : (tokens e.2).length + (entryTokens es).length + 3 < fuel := by
      simp only [List.length_append, List.length_cons, List.length_nil] at hfuel
      omega
    obtain ⟨fuel, rfl⟩ : ∃ n, fuel = n + 3 := ⟨fuel - 3, by omega⟩
    obtain ⟨ns₁, hnode, hstands, hext⟩ := hlays e List.mem_cons_self fuel .flow
      (ns.push ⟨.str, .scalar k⟩) (entryTokens es ++ .flowMappingEnd :: ts) (by omega)
    obtain ⟨ns₂, pairs, hentries, hall, hext'⟩ := ih
      (fun e' he => hkeys e' (List.mem_cons_of_mem e he))
      (fun e' he => hjson e' (List.mem_cons_of_mem e he))
      (fun e' he => hlays e' (List.mem_cons_of_mem e he)) false
      (fuel + 2) ((ns.size, (ns.push ⟨.str, .scalar k⟩).size) :: acc) ns₁ (by
        show (entryTokens es).length < fuel + 2
        omega)
    have hpush := Extends.push ns ⟨.str, .scalar k⟩
    have hkey : ns₂[ns.size]? = some (scalarNode e.1) := by
      have hlt : ns.size < (ns.push ⟨.str, .scalar k⟩).size := by simp
      rw [hext'.same _ (Nat.lt_of_lt_of_le hlt hext.size), hext.same _ hlt,
        Array.getElem?_push_size, hk]
      rfl
    refine ⟨ns₂, (ns.size, (ns.push ⟨.str, .scalar k⟩).size) :: pairs, ?_,
      .cons ⟨⟨Nat.le_refl _, hpush.size⟩, hkey, hstands.of_extends hext'⟩ ?_,
      (hpush.trans hext).trans hext'⟩
    · rw [hx] at hnode ⊢
      have := (leads_entry first ht acc).gives (hnode.bind hentries)
      simpa using this
    · have hsize := (hpush.trans hext).size
      exact hall.imp fun p e h => ⟨⟨Nat.le_trans hsize h.1.1, Nat.le_trans hsize h.1.2⟩, h.2⟩

/-- The nodes once a collection has got its contents. -/
theorem getElem?_collection {tag : Tag} {content content' : Content}
    (h : Extends (ns.push ⟨tag, content⟩) ns') (i : NodeId) :
    (ns'.setContent ns.size content')[i]? =
      if ns.size = i then some ⟨tag, content'⟩ else ns'[i]? := by
  have hnode : ns'[ns.size]? = some ⟨tag, content⟩ := by
    rw [h.same _ (by simp), Array.getElem?_push_size]
  rw [getElem?_setContent]
  split
  · rename_i heq
    rw [← heq, hnode]
    rfl
  · rfl

theorem extends_collection {tag : Tag} {content content' : Content}
    (h : Extends (ns.push ⟨tag, content⟩) ns') :
    Extends ns (ns'.setContent ns.size content') := by
  have hext := (Extends.push ns _).trans h
  refine ⟨by rw [size_setContent]; exact hext.size, fun i hi => ?_⟩
  rw [getElem?_collection h, if_neg (Nat.ne_of_gt hi), hext.same i hi]

/-- A sequence stands at the node in front of its items, once it has got them. -/
theorem stands_sequence {items : List Value} {ids : List NodeId} {content : Content}
    (hext : Extends (ns.push ⟨.seq, content⟩) ns')
    (hall : List.Forall₂ (fun id v => (ns.push ⟨.seq, content⟩).size ≤ id ∧ Stands ns' id v)
      ids items) :
    Stands (ns'.setContent ns.size (.sequence ids)) ns.size (.seq items) := by
  obtain ⟨hlen, hzip⟩ := List.forall₂_iff_zip.mp hall
  have hbehind : ∀ p ∈ ids.zip items, ns.size < p.1 := fun p hp => by
    have := (hzip hp).1
    simpa [Nat.succ_le_iff] using this
  refine .seq ?_ hlen hbehind fun p hp => ?_
  · rw [getElem?_collection hext, if_pos rfl]
  · refine (hzip hp).2.congr fun i hi _ => ?_
    rw [getElem?_collection hext, if_neg (Nat.ne_of_lt (Nat.lt_of_lt_of_le (hbehind p hp) hi))]

/-- A mapping stands at the node in front of its keys and values, once it has got them. -/
theorem stands_mapping {entries : List (Scalar × Value)} {pairs : List (NodeId × NodeId)}
    {content : Content} (hext : Extends (ns.push ⟨.map, content⟩) ns')
    (hall : List.Forall₂ (fun p e => ((ns.push ⟨.map, content⟩).size ≤ p.1 ∧
        (ns.push ⟨.map, content⟩).size ≤ p.2) ∧ ns'[p.1]? = some (scalarNode e.1) ∧
      Stands ns' p.2 e.2) pairs entries) :
    Stands (ns'.setContent ns.size (.mapping pairs)) ns.size (.map entries) := by
  obtain ⟨hlen, hzip⟩ := List.forall₂_iff_zip.mp hall
  have hbehind : ∀ p ∈ pairs.zip entries, ns.size < p.1.1 ∧ ns.size < p.1.2 := fun p hp => by
    have := (hzip hp).1
    simpa [Nat.succ_le_iff] using this
  refine .map ?_ hlen hbehind (fun p hp => ?_) fun p hp => ?_
  · rw [getElem?_collection hext, if_pos rfl]
  · rw [getElem?_collection hext, if_neg (Nat.ne_of_lt (hbehind p hp).1)]
    exact (hzip hp).2.1
  · refine (hzip hp).2.2.congr fun i hi _ => ?_
    rw [getElem?_collection hext, if_neg (Nat.ne_of_lt (Nat.lt_of_lt_of_le (hbehind p hp).2 hi))]

/-- A value whose keys are short is composed. -/
theorem lays (hv : v.IsJson) (hshort : v.hasShortKeys = true) : Lays v := by
  induction hv with
  | scalar hs =>
    rename_i s
    intro fuel place ns ts hfuel
    obtain ⟨fuel, rfl⟩ := Nat.exists_eq_succ_of_ne_zero (Nat.ne_of_gt hfuel)
    refine ⟨_, gives_scalarNode fuel place s.written (!s.isQuoted) ts ns, .scalar ?_, .push ns _⟩
    rw [Array.getElem?_push_size]
    rfl
  | seq hitems ih =>
    rename_i items
    intro fuel place ns ts hfuel
    have hshort : ∀ v ∈ items, v.hasShortKeys = true := by
      rw [Value.hasShortKeys, Value.allScalars, Value.allItems_eq, List.all_eq_true] at hshort
      exact hshort
    rw [tokens] at hfuel ⊢
    simp only [List.length_cons, List.length_append, List.length_nil] at hfuel
    obtain ⟨fuel, rfl⟩ := Nat.exists_eq_succ_of_ne_zero (Nat.ne_zero_of_lt hfuel)
    obtain ⟨ns', ids, hgives, hall, hext⟩ := gives_items hitems
      (fun v hv => ih v hv (hshort v hv)) true fuel []
      (ns.push ⟨.seq, .sequence []⟩) ts (by
        show ((itemTokens items).drop 1).length < fuel
        omega)
    refine ⟨_, ?_, stands_sequence hext hall, extends_collection hext⟩
    have := (leads_sequenceNode fuel place _ ns).gives (hgives.bind (gives_fill ns.size _ ns'))
    simpa using this
  | map hkeys hnodup hvalues ih =>
    rename_i entries
    intro fuel place ns ts hfuel
    have hshort : ∀ e ∈ entries, e.1.isShortKey = true ∧ e.2.hasShortKeys = true := by
      rw [Value.hasShortKeys, Value.allScalars, Value.allEntries_eq, List.all_eq_true] at hshort
      exact fun e he => Bool.and_eq_true_iff.mp (hshort e he)
    have hkeys : ∀ e ∈ entries, ∃ k, e.1 = .str k ∧ (Scalar.str k).isShortKey = true := by
      intro e he
      obtain ⟨k, hk, _⟩ := hkeys e he
      exact ⟨k, hk, hk ▸ (hshort e he).1⟩
    rw [tokens] at hfuel ⊢
    simp only [List.length_cons, List.length_append, List.length_nil] at hfuel
    obtain ⟨fuel, rfl⟩ := Nat.exists_eq_succ_of_ne_zero (Nat.ne_zero_of_lt hfuel)
    obtain ⟨ns', pairs, hgives, hall, hext⟩ := gives_entries hkeys hvalues
      (fun e he => ih e he (hshort e he).2) true
      fuel [] (ns.push ⟨.map, .mapping []⟩) ts (by
        show ((entryTokens entries).drop 1).length < fuel
        omega)
    refine ⟨_, ?_, stands_mapping hext hall, extends_collection hext⟩
    have := (leads_mappingNode fuel place _ ns).gives (hgives.bind (gives_fill ns.size _ ns'))
    simpa using this

/-- A value is not composed. -/
def Breaks (v : Value) : Prop :=
  ∀ (fuel : Nat) (place : Place) (ns : Nodes) (ts : List Token), (tokens v).length ≤ fuel →
    Fails (node fuel place) (Ahead · (tokens v ++ ts)) ns

theorem fails_items {items : List Value} (hjson : ∀ v ∈ items, v.IsJson)
    (hbreaks : ∀ v ∈ items, v.hasShortKeys = false → Breaks v)
    (hlong : items.all Value.hasShortKeys = false)
    (first : Bool) (fuel : Nat) (acc : List NodeId) (ns : Nodes) (ts : List Token)
    (hfuel : ((itemTokens items).drop first.toNat).length < fuel) :
    Fails (flowItems fuel first acc) (Ahead · ((itemTokens items).drop first.toNat ++ ts)) ns := by
  induction items generalizing first fuel acc ns with
  | nil => cases hlong
  | cons x xs ih =>
    have hx := hjson x List.mem_cons_self
    obtain ⟨t, more, htokens, ht⟩ := tokens_cons hx
    rw [drop_itemTokens] at hfuel ⊢
    obtain ⟨fuel, rfl⟩ := Nat.exists_eq_succ_of_ne_zero (Nat.ne_zero_of_lt hfuel)
    have hlen : (tokens x).length + (itemTokens xs).length ≤ fuel := by
      simp only [List.length_append] at hfuel
      omega
    have hpos : 0 < (tokens x).length := by rw [htokens]; exact Nat.succ_pos _
    have hitem : Fails (node fuel .flow >>= fun id => flowItems fuel false (id :: acc))
        (Ahead · (tokens x ++ (itemTokens xs ++ ts))) ns := by
      cases hshort : x.hasShortKeys with
      | false => exact (hbreaks x List.mem_cons_self hshort fuel .flow ns _ (by omega)).bind _
      | true =>
        obtain ⟨ns₁, hnode, _⟩ := lays hx hshort fuel .flow ns (itemTokens xs ++ ts) (by omega)
        have hlong : xs.all Value.hasShortKeys = false := by simpa [hshort] using hlong
        exact (hnode.leads _).fails (ih (fun v hv => hjson v (List.mem_cons_of_mem x hv))
          (fun v hv => hbreaks v (List.mem_cons_of_mem x hv)) hlong false fuel _ ns₁ (by
            show (itemTokens xs).length < fuel
            omega))
    rw [htokens] at hitem ⊢
    have := (leads_item first ht acc).fails hitem
    simpa using this

theorem fails_entries {entries : List (Scalar × Value)} (hkeys : ∀ e ∈ entries, ∃ k, e.1 = .str k)
    (hjson : ∀ e ∈ entries, e.2.IsJson)
    (hbreaks : ∀ e ∈ entries, e.2.hasShortKeys = false → Breaks e.2)
    (hlong : (entries.all fun e => e.1.isShortKey && e.2.hasShortKeys) = false)
    (first : Bool) (fuel : Nat) (acc : List (NodeId × NodeId)) (ns : Nodes) (ts : List Token)
    (hfuel : ((entryTokens entries).drop first.toNat).length < fuel) :
    Fails (flowEntries fuel first acc)
      (Ahead · ((entryTokens entries).drop first.toNat ++ ts)) ns := by
  induction entries generalizing first fuel acc ns with
  | nil => cases hlong
  | cons e es ih =>
    obtain ⟨k, hk⟩ := hkeys e List.mem_cons_self
    have hv := hjson e List.mem_cons_self
    obtain ⟨t, more, htokens, ht⟩ := tokens_cons hv
    rw [drop_entryTokens, hk] at hfuel ⊢
    cases hkey : (Scalar.str k).isShortKey with
    | false =>
      have hmark : keyTokens (.str k) = [.scalar k false, .value] := by
        rw [keyTokens, hkey]
        rfl
      rw [hmark]
      have hfails : Fails (flowEntries fuel first acc) _ ns :=
        fails_entry first k acc (tokens e.2 ++ entryTokens es ++ ts)
      simpa using hfails
    | true =>
      rw [keyTokens_of_isShortKey hkey] at hfuel ⊢
      have hlen : (tokens e.2).length + (entryTokens es).length + 3 < fuel := by
        simp only [List.length_append, List.length_cons, List.length_nil] at hfuel
        omega
      obtain ⟨fuel, rfl⟩ : ∃ n, fuel = n + 3 := ⟨fuel - 3, by omega⟩
      have hentry :
          Fails (node fuel .flow >>= fun w => flowEntries (fuel + 2) false ((ns.size, w) :: acc))
            (Ahead · (tokens e.2 ++ (entryTokens es ++ ts))) (ns.push ⟨.str, .scalar k⟩) := by
        cases hshort : e.2.hasShortKeys with
        | false => exact (hbreaks e List.mem_cons_self hshort fuel .flow _ _ (by omega)).bind _
        | true =>
          obtain ⟨ns₁, hnode, _⟩ :=
            lays hv hshort fuel .flow (ns.push ⟨.str, .scalar k⟩) (entryTokens es ++ ts) (by omega)
          have hlong : (es.all fun e => e.1.isShortKey && e.2.hasShortKeys) = false := by
            simpa [hk, hkey, hshort] using hlong
          exact (hnode.leads _).fails (ih (fun e' he => hkeys e' (List.mem_cons_of_mem e he))
            (fun e' he => hjson e' (List.mem_cons_of_mem e he))
            (fun e' he => hbreaks e' (List.mem_cons_of_mem e he))
            hlong false (fuel + 2) _ ns₁ (by
              show (entryTokens es).length < fuel + 2
              omega))
      rw [htokens] at hentry ⊢
      have := (leads_entry first ht acc).fails hentry
      simpa using this

/-- A value with a long key is not composed, however deep the key lies. -/
theorem breaks (hv : v.IsJson) (hlong : v.hasShortKeys = false) : Breaks v := by
  induction hv with
  | scalar hs => cases hlong
  | seq hitems ih =>
    rename_i items
    intro fuel place ns ts hfuel
    rw [Value.hasShortKeys, Value.allScalars, Value.allItems_eq] at hlong
    rw [tokens] at hfuel ⊢
    simp only [List.length_cons, List.length_append, List.length_nil] at hfuel
    obtain ⟨fuel, rfl⟩ := Nat.exists_eq_succ_of_ne_zero (Nat.ne_zero_of_lt hfuel)
    have hfails := fails_items hitems ih hlong true fuel [] (ns.push ⟨.seq, .sequence []⟩)
      (.flowSequenceEnd :: ts) (by
      show ((itemTokens items).drop 1).length < fuel
      omega)
    have := (leads_sequenceNode fuel place _ ns).fails (hfails.bind _)
    simpa using this
  | map hkeys hnodup hvalues ih =>
    rename_i entries
    intro fuel place ns ts hfuel
    rw [Value.hasShortKeys, Value.allScalars, Value.allEntries_eq] at hlong
    rw [tokens] at hfuel ⊢
    simp only [List.length_cons, List.length_append, List.length_nil] at hfuel
    obtain ⟨fuel, rfl⟩ := Nat.exists_eq_succ_of_ne_zero (Nat.ne_zero_of_lt hfuel)
    have hfails := fails_entries
      (fun e he => (hkeys e he).imp fun k h => h.1) hvalues ih hlong true fuel []
      (ns.push ⟨.map, .mapping []⟩) (.flowMappingEnd :: ts) (by
        show ((entryTokens entries).drop 1).length < fuel
        omega)
    have := (leads_mappingNode fuel place _ ns).fails (hfails.bind _)
    simpa using this

/-! The document. -/

theorem gives_skipDocumentEnds (h : t ≠ .documentEnd) (rounds : Nat) :
    Gives (skipDocumentEnds rounds) (Ahead · (t :: ts)) ns () (Ahead · (t :: ts)) ns := by
  cases rounds with
  | zero => exact gives_pure ()
  | succ rounds =>
    rw [skipDocumentEnds]
    exact (gives_take_of_ne h).bind (gives_pure ())

theorem gives_checkEnd (size : Nat) :
    Gives (checkEnd size) (Ahead · [.streamEnd]) ns () (Seen · [.streamEnd]) ns := by
  rw [checkEnd]
  have hne : Token.streamEnd ≠ .documentEnd := by simp
  exact (gives_take_of_ne hne).bind
    ((gives_skipDocumentEnds hne size).bind (gives_peek.bind (gives_pure ())))

/-- A document of one flow collection is the node of the collection. -/
theorem leads_document (ht : startsNode t = true) (size : Nat) :
    Leads (document size) (Ahead · (t :: ts)) ns
      (node (32 * (size + 1)) .block >>= fun root => checkEnd (size + 1) >>= fun _ =>
        pure (some root))
      (Ahead · (t :: ts)) ns := by
  rw [document]
  refine (gives_peek.leads _).trans (Leads.of_imp ?_ fun _ => Seen.ahead)
  cases t with
  | scalar | flowSequence | flowMapping => exact Leads.refl _
  | _ => cases ht

end Composing

open Lexer (tokens ahead_tokens)

variable {v : Value} {cs : List Char}

/-- The text of a collection with short keys is composed to nodes that stand for it, and to no other
nodes. -/
theorem compose_of_hasShortKeys (hv : v.IsJson) (hs : v.scalar? = none)
    (hc : Json.chars 0 v = .ok cs) (hshort : v.hasShortKeys = true) :
    ∃ ns, compose ⟨cs, none⟩ = .ok (some ⟨ns, 0⟩) ∧ Stands ns 0 v := by
  obtain ⟨hahead, hlen⟩ := ahead_tokens hv hs hc
  obtain ⟨t, more, htokens, ht⟩ := Composing.tokens_cons hv
  obtain ⟨ns, hnode, hstands, _⟩ :=
    Composing.lays hv hshort (32 * (cs.length + 1)) .block #[] [.streamEnd] (by omega)
  have hdocument : Composing.Gives (Composing.document cs.length)
      (Lexer.Ahead · (tokens v ++ [.streamEnd])) #[]
      (some 0) (Lexer.Seen · [.streamEnd]) ns := by
    rw [htokens] at hnode ⊢
    exact (Composing.leads_document ht cs.length).gives
      (hnode.bind ((Composing.gives_checkEnd _).bind (Composing.gives_pure _)))
  obtain ⟨s, hrun, _, hns⟩ := hdocument ⟨.start ⟨cs, none⟩, .standard, [], #[]⟩ hahead rfl
  refine ⟨ns, ?_, hstands⟩
  rw [compose, hrun]
  show Except.ok (some (⟨s.nodes, 0⟩ : NodeGraph)) = _
  rw [hns]

/-- The text of a collection with a long key is not composed. -/
theorem compose_of_longKey (hv : v.IsJson) (hs : v.scalar? = none) (hc : Json.chars 0 v = .ok cs)
    (hlong : v.hasShortKeys = false) : compose ⟨cs, none⟩ = .error .malformed := by
  obtain ⟨hahead, hlen⟩ := ahead_tokens hv hs hc
  obtain ⟨t, more, htokens, ht⟩ := Composing.tokens_cons hv
  have hnode := Composing.breaks hv hlong (32 * (cs.length + 1)) .block #[] [.streamEnd] (by omega)
  have hdocument : Composing.Fails (Composing.document cs.length)
      (Lexer.Ahead · (tokens v ++ [.streamEnd])) #[] := by
    rw [htokens] at hnode ⊢
    exact (Composing.leads_document ht cs.length).fails (hnode.bind _)
  rw [compose, hdocument ⟨.start ⟨cs, none⟩, .standard, [], #[]⟩ hahead rfl]
  rfl

end ResolverHooks.Yaml
