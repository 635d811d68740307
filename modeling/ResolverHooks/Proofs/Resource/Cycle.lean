import ResolverHooks.Proofs.Resource.Order

/-!
The search for a cycle. Whatever the search finds is a way along dependencies from a resource back
to itself. When it finds nothing, all that it has left behind leads only to what it left behind
earlier, so that there is no such way.
-/
namespace ResolverHooks

open Relation

namespace Edges

variable {es : Edges} {id : Scalar} {x y : Key}
    {path seen seen' cycle ids : List Scalar} {fuel : Nat}

/-- A way from a resource back to itself, on which each id is needed by the one behind it. -/
structure IsCycle (es : Edges) (ids : List Scalar) : Prop where
  length : 2 ≤ ids.length
  closes : ids.head?.map Scalar.key = ids.getLast?.map Scalar.key
  joined : ids.IsChain fun a b => es.Needs b.key a.key

/-- Behind the start of a way, each id needs the one before it. -/
theorem exists_needs_of_isChain (h : (id :: ids).IsChain fun a b => es.Needs b.key a.key) :
    ∀ c ∈ ids, ∃ y, es.Needs c.key y := by
  induction ids generalizing id with
  | nil => exact fun c hc => absurd hc List.not_mem_nil
  | cons b ids ih =>
    obtain ⟨hneeds, hrest⟩ := List.isChain_cons_cons.mp h
    intro c hc
    rcases List.mem_cons.mp hc with rfl | hc
    · exact ⟨id.key, hneeds⟩
    · exact ih hrest c hc

theorem IsCycle.mem_keyList (h : es.IsCycle ids) (hc : es.IsClosed) :
    ∀ id ∈ ids, id.key ∈ Entries.keyList es := by
  match ids, h.length, h.joined with
  | a :: b :: rest, _, hjoined =>
    intro id hid
    rcases List.mem_cons.mp hid with rfl | hid
    · exact (hc.mem_of_needs (List.isChain_cons_cons.mp hjoined).1).2
    · obtain ⟨y, hneeds⟩ := exists_needs_of_isChain hjoined id hid
      exact (hc.mem_of_needs hneeds).1

/-- Where an id stands on a path: behind those that are different, and only there. -/
theorem exists_split_path (hn : (keysOf path).Nodup) (hid : id.key ∈ keysOf path) :
    ∃ before p after, path = before ++ p :: after ∧ p.key = id.key ∧
      path.takeWhile (fun q => !id.same q) = before ∧ path.filter id.same = [p] := by
  induction path with
  | nil => cases hid
  | cons q path ih =>
    obtain ⟨hq, hn⟩ := List.nodup_cons.mp hn
    cases hsame : id.same q with
    | true =>
      have hkey : id.key = q.key := Scalar.same_iff.mp hsame
      have hothers : path.filter id.same = [] := by
        rw [List.filter_eq_nil_iff]
        intro p hp hpsame
        exact hq (hkey ▸ Scalar.same_iff.mp hpsame ▸ List.mem_map_of_mem hp)
      exact ⟨[], q, path, rfl, hkey.symm, by simp [hsame], by simp [hsame, hothers]⟩
    | false =>
      have hne : id.key ≠ q.key := fun h => by simp [Scalar.same_iff.mpr h] at hsame
      obtain ⟨before, p, after, rfl, hp, hbefore, hfilter⟩ :=
        ih hn ((List.mem_cons.mp hid).resolve_left hne)
      exact ⟨q :: before, p, after, rfl, hp, by simp [hsame, hbefore], by simp [hsame, hfilter]⟩

/-- What a search finds goes along its path, from the id that it comes back to. -/
theorem isCycle_of_searchFrom (h : es.searchFrom fuel path seen id = .error cycle)
    (hn : (keysOf path).Nodup) (hpath : (id :: path).IsChain fun a b => es.Needs a.key b.key) :
    es.IsCycle cycle := by
  induction fuel generalizing path seen id with
  | zero => cases h
  | succ fuel ih =>
    rw [searchFrom] at h
    split at h
    · rename_i hany
      obtain ⟨before, p, after, rfl, hp, hbefore, hfilter⟩ :=
        exists_split_path hn (any_same_iff.mp hany)
      rw [hbefore, hfilter] at h
      obtain rfl := Except.error.inj h
      have hway : (id :: (before ++ [p])).IsChain fun a b => es.Needs a.key b.key :=
        hpath.prefix ⟨after, by simp⟩
      have hback : (before ++ [p]).reverse ++ [id] = p :: (before.reverse ++ [id]) := by simp
      refine ⟨by simp, ?_, ?_⟩
      · rw [hback, List.head?_cons, ← List.cons_append, List.getLast?_concat, Option.map_some,
          Option.map_some, hp]
      · rw [← List.reverse_cons, List.isChain_reverse]
        exact hway
    · rename_i hany
      split at h
      · cases h
      · obtain ⟨next, hnext, acc, hsearch⟩ := exists_of_foldlM_error h
        have hneeds : es.Needs next.key id.key := mem_successors_iff.mp (List.mem_map_of_mem hnext)
        have hid : id.key ∉ keysOf path := mt any_same_iff.mpr hany
        exact ih hsearch (List.nodup_cons.mpr ⟨hid, hn⟩) (.cons_cons hneeds hpath)

theorem isCycle_of_findCycle (h : es.findCycle = some cycle) : es.IsCycle cycle := by
  rw [findCycle] at h
  split at h
  · cases h
  · rename_i found hfound
    obtain rfl := Option.some.inj h
    obtain ⟨id, _, seen, hsearch⟩ := exists_of_foldlM_error hfound
    exact isCycle_of_searchFrom hsearch List.nodup_nil (List.isChain_singleton id)

/-- Seen, and left behind by the search: not on its path any more. -/
def IsLeft (path seen : List Scalar) (x : Key) : Prop := x ∈ keysOf seen ∧ x ∉ keysOf path

/-- In the middle of a search: what is left behind leads only to what is left behind, and never
back. -/
structure Searching (es : Edges) (path seen : List Scalar) : Prop where
  path_seen : ∀ x ∈ keysOf path, x ∈ keysOf seen
  closed : ∀ x, IsLeft path seen x → ∀ y, es.Needs y x → IsLeft path seen y
  acyclic : ∀ x, IsLeft path seen x → ¬ TransGen es.Needs x x

/-- What a search for ids does: it sees more, and leaves all of them behind. -/
structure Searched (es : Edges) (path seen seen' ids : List Scalar) : Prop where
  searching : es.Searching path seen'
  seen : ∀ x ∈ keysOf seen, x ∈ keysOf seen'
  left : ∀ x ∈ keysOf ids, IsLeft path seen' x

/-- Whatever comes to need something that is left behind is left behind as well. -/
theorem Searching.closed_transGen (h : es.Searching path seen) (hx : IsLeft path seen x)
    (hyx : TransGen es.Needs y x) : IsLeft path seen y := by
  induction hyx using TransGen.head_induction_on with
  | single hneeds => exact h.closed x hx _ hneeds
  | head hneeds _ ih => exact h.closed _ ih _ hneeds

/-- A step onto an id that has not been seen leaves nothing behind. -/
theorem Searching.push (h : es.Searching path seen) (hid : id.key ∉ keysOf seen) :
    es.Searching (id :: path) (id :: seen) := by
  have hleft : ∀ x, IsLeft (id :: path) (id :: seen) x ↔ IsLeft path seen x := by
    intro x
    simp only [IsLeft, keysOf, List.map_cons, List.mem_cons, not_or]
    constructor
    · rintro ⟨rfl | hx, hne, hpath⟩
      · exact absurd rfl hne
      · exact ⟨hx, hpath⟩
    · rintro ⟨hx, hpath⟩
      exact ⟨Or.inr hx, fun heq => hid (heq ▸ hx), hpath⟩
  refine ⟨fun x hx => ?_, fun x hx y hyx => ?_, fun x hx => ?_⟩
  · rcases List.mem_cons.mp hx with rfl | hx
    · exact List.mem_cons_self
    · exact List.mem_cons_of_mem _ (h.path_seen x hx)
  · exact (hleft y).mpr (h.closed x ((hleft x).mp hx) y hyx)
  · exact h.acyclic x ((hleft x).mp hx)

/-- A step back leaves the id behind, once all that needs it is left behind. -/
theorem Searching.pop (h : es.Searching (id :: path) seen) (hid : id.key ∉ keysOf path)
    (hall : ∀ y, es.Needs y id.key → IsLeft (id :: path) seen y) : es.Searching path seen := by
  have hseen : id.key ∈ keysOf seen := h.path_seen _ List.mem_cons_self
  have hleft : ∀ x, IsLeft path seen x ↔ x = id.key ∨ IsLeft (id :: path) seen x := by
    intro x
    simp only [IsLeft, keysOf, List.map_cons, List.mem_cons, not_or]
    constructor
    · rintro ⟨hx, hpath⟩
      by_cases heq : x = id.key
      · exact Or.inl heq
      · exact Or.inr ⟨hx, heq, hpath⟩
    · rintro (rfl | ⟨hx, _, hpath⟩)
      · exact ⟨hseen, hid⟩
      · exact ⟨hx, hpath⟩
  refine ⟨fun x hx => h.path_seen x (List.mem_cons_of_mem _ hx), fun x hx y hyx => ?_,
    fun x hx => ?_⟩
  · rcases (hleft x).mp hx with rfl | hx
    · exact (hleft y).mpr (Or.inr (hall y hyx))
    · exact (hleft y).mpr (Or.inr (h.closed x hx y hyx))
  · rcases (hleft x).mp hx with rfl | hx
    · -- What needs the id is left behind, so a way back would have left the id behind before.
      intro hcycle
      obtain ⟨y, hway, hlast⟩ := TransGen.tail'_iff.mp hcycle
      have hy := hall y hlast
      have hback : IsLeft (id :: path) seen id.key := by
        rcases reflTransGen_iff_eq_or_transGen.mp hway with rfl | hway
        · exact hy
        · exact h.closed_transGen hy hway
      exact hback.2 List.mem_cons_self
    · exact h.acyclic x hx

/-- Searches one after another leave behind what each of them leaves. -/
theorem searched_all {search : List Scalar → Scalar → Except (List Scalar) (List Scalar)}
    (hstep : ∀ id ∈ ids, ∀ seen seen', search seen id = .ok seen' → es.Searching path seen →
      es.Searched path seen seen' [id])
    (h : ids.foldlM search seen = .ok seen') (hs : es.Searching path seen) :
    es.Searched path seen seen' ids := by
  induction ids generalizing seen with
  | nil =>
    obtain rfl := Except.ok.inj h
    exact ⟨hs, fun _ hx => hx, fun _ hx => by cases hx⟩
  | cons id ids ih =>
    rw [List.foldlM_cons] at h
    cases hid : search seen id with
    | error cycle =>
      rw [hid] at h
      cases h
    | ok mid =>
      rw [hid] at h
      have hfirst := hstep id List.mem_cons_self _ _ hid hs
      have hrest := ih (fun id hid => hstep id (List.mem_cons_of_mem _ hid)) h hfirst.searching
      refine ⟨hrest.searching, fun x hx => hrest.seen x (hfirst.seen x hx), fun x hx => ?_⟩
      rcases List.mem_cons.mp hx with rfl | hx
      · have hleft := hfirst.left _ List.mem_cons_self
        exact ⟨hrest.seen _ hleft.1, hleft.2⟩
      · exact hrest.left x hx

/-- A search that finds nothing leaves its id behind. A path that holds no resource twice is no
longer than there are resources, so the fuel does not run out. -/
theorem searched_of_searchFrom (hc : es.IsClosed) (h : es.searchFrom fuel path seen id = .ok seen')
    (hfuel : (Entries.keyList es).length < path.length + fuel) (hn : (keysOf path).Nodup)
    (hmem : ∀ x ∈ keysOf (id :: path), x ∈ Entries.keyList es) (hs : es.Searching path seen) :
    es.Searched path seen seen' [id] := by
  induction fuel generalizing path seen seen' id with
  | zero =>
    have hsub : keysOf path ⊆ Entries.keyList es := fun x hx => hmem x (List.mem_cons_of_mem _ hx)
    have hle := (List.subperm_of_subset hn hsub).length_le
    rw [keysOf, List.length_map] at hle
    omega
  | succ fuel ih =>
    rw [searchFrom] at h
    split at h
    · cases h
    · rename_i hpath
      have hid : id.key ∉ keysOf path := mt any_same_iff.mpr hpath
      split at h
      · rename_i hseen
        obtain rfl := Except.ok.inj h
        refine ⟨hs, fun _ hx => hx, fun x hx => ?_⟩
        rw [List.mem_singleton.mp hx]
        exact ⟨any_same_iff.mp hseen, hid⟩
      · rename_i hseen
        have hnew : id.key ∉ keysOf seen := mt any_same_iff.mpr hseen
        have hall : es.Searched (id :: path) (id :: seen) seen' (es.successors id) := by
          refine searched_all (fun next hnext acc acc' hsearch hs' => ?_) h (hs.push hnew)
          have hneeds : es.Needs next.key id.key :=
            mem_successors_iff.mp (List.mem_map_of_mem hnext)
          refine ih hsearch (by simp only [List.length_cons]; omega) (List.nodup_cons.mpr ⟨hid, hn⟩)
            (fun x hx => ?_) hs'
          rcases List.mem_cons.mp hx with rfl | hx
          · exact (hc.mem_of_needs hneeds).1
          · exact hmem x hx
        have hback : es.Searching path seen' :=
          hall.searching.pop hid fun y hy => hall.left y (mem_successors_iff.mpr hy)
        refine ⟨hback, fun x hx => hall.seen x (List.mem_cons_of_mem _ hx), fun x hx => ?_⟩
        rw [List.mem_singleton.mp hx]
        exact ⟨hall.seen _ List.mem_cons_self, hid⟩

/-- There is a cycle exactly if the search finds one. -/
theorem findCycle_eq_none_iff (hc : es.IsClosed) : es.findCycle = none ↔ es.Acyclic := by
  refine ⟨fun h => ?_, findCycle_eq_none⟩
  rw [findCycle] at h
  split at h
  · rename_i seen hseen
    have hnone : ∀ x, ¬ IsLeft [] [] x := fun x hx => List.not_mem_nil hx.1
    have hstart : es.Searching [] [] :=
      ⟨fun _ hx => hx, fun x hx => absurd hx (hnone x), fun x hx => absurd hx (hnone x)⟩
    have hall : es.Searched [] [] seen es.mentioned := by
      refine searched_all (fun id hid acc acc' hsearch hs => ?_) hseen hstart
      refine searched_of_searchFrom hc hsearch ?_ List.nodup_nil (fun x hx => ?_) hs
      · have hle := hc.length_le_mentioned
        simp only [List.length_nil]
        omega
      · rw [List.mem_singleton.mp hx]
        exact hc.mem_mentioned_iff.mp (List.mem_map_of_mem hid)
    intro x hx
    obtain ⟨y, hneeds, _⟩ := TransGen.head'_iff.mp hx
    exact hall.searching.acyclic x
      (hall.left x (hc.mem_mentioned_iff.mpr (hc.mem_of_needs hneeds).1)) hx
  · cases h

end Edges

end ResolverHooks
