import Mathlib.Data.List.Nodup
import ResolverHooks.Document.Table

/-! Look-ups after writing and erasing, and the entries that a change leaves alone. -/
namespace ResolverHooks

universe u

namespace Scalar

theorem same_iff {a b : Scalar} : a.same b = true ↔ a.key = b.key := by simp [same]

theorem same_comm (a b : Scalar) : a.same b = b.same a := BEq.comm

theorem same_eq_false_of_same {a b c : Scalar} (hab : ¬ a.same b = true) (hbc : b.same c = true) :
    a.same c = false := by
  rw [same_iff] at hab hbc
  exact Bool.eq_false_iff.mpr fun hac => hab ((same_iff.mp hac).trans hbc.symm)

theorem str_same {a : Scalar} {s : String} : (Scalar.str s).same a = true ↔ a = .str s := by
  rw [same_comm, same_str]

end Scalar

namespace Entries

variable {α : Type u} {k k' : Scalar} {a b : α} {es : List (Scalar × α)} {p : Scalar → Bool}

theorem find?_congr (h : k.key = k'.key) : find? k es = find? k' es := by
  induction es with
  | nil => rfl
  | cons e es ih => simp [find?, Scalar.same, h, ih]

theorem find?_insert (k k' : Scalar) (a : α) (es : List (Scalar × α)) :
    find? k (insert k' a es) = if k'.same k then some a else find? k es := by
  induction es with
  | nil => rfl
  | cons e es ih =>
    by_cases he : e.1.same k' = true
    · by_cases hk : k'.same k = true <;> simp_all [insert, find?, Scalar.same]
    · by_cases hk : k'.same k = true
      · have hne := Scalar.same_eq_false_of_same he hk
        simp_all [insert, find?]
      · simp_all [insert, find?]

theorem find?_erase (k k' : Scalar) (es : List (Scalar × α)) :
    find? k (erase k' es) = if k'.same k then none else find? k es := by
  induction es with
  | nil => simp [erase, find?]
  | cons e es ih =>
    by_cases he : e.1.same k' = true
    · by_cases hk : k'.same k = true <;> simp_all [erase, find?, Scalar.same]
    · by_cases hk : k'.same k = true
      · have hne := Scalar.same_eq_false_of_same he hk
        simp_all [erase, find?]
      · simp_all [erase, find?]

/-- Writing what is there already changes nothing. -/
theorem insert_of_find? (h : find? k es = some a) : insert k a es = es := by
  induction es with
  | nil => simp [find?] at h
  | cons e es ih =>
    by_cases he : e.1.same k = true
    · obtain rfl : e.2 = a := by simpa [find?, he] using h
      simp [insert, he]
    · simp_all [insert, find?]

/-- A key that is new goes to the end. -/
theorem insert_of_find?_none (h : find? k es = none) : insert k a es = es ++ [(k, a)] := by
  induction es with
  | nil => rfl
  | cons e es ih =>
    by_cases he : e.1.same k = true
    · simp [find?, he] at h
    · simp_all [insert, find?]

/-- Only the last of two values written to one key is kept. -/
theorem insert_insert (k : Scalar) (a b : α) (es : List (Scalar × α)) :
    insert k a (insert k b es) = insert k a es := by
  induction es with
  | nil => simp [insert]
  | cons e es ih => by_cases he : e.1.same k = true <;> simp_all [insert]

theorem mem_of_find? (h : find? k es = some a) : ∃ k', k'.same k = true ∧ (k', a) ∈ es := by
  induction es with
  | nil => simp [find?] at h
  | cons e es ih =>
    by_cases he : e.1.same k = true
    · obtain rfl : e.2 = a := by simpa [find?, he] using h
      exact ⟨e.1, he, List.mem_cons_self⟩
    · obtain ⟨k', hk, hm⟩ := ih (by simpa [find?, he] using h)
      exact ⟨k', hk, List.mem_cons_of_mem _ hm⟩

theorem keyList_map {β : Type u} (f : α → β) (es : List (Scalar × α)) :
    keyList (es.map fun e => (e.1, f e.2)) = keyList es := by
  rw [keyList, keyList, List.map_map]
  rfl

theorem find?_of_not_mem (h : k.key ∉ keyList es) : find? k es = none := by
  cases hf : find? k es with
  | none => rfl
  | some a =>
    obtain ⟨k', hk, hm⟩ := mem_of_find? hf
    exact absurd (Scalar.same_iff.mp hk ▸ List.mem_map_of_mem hm) h

theorem find?_of_mem (hn : (keyList es).Nodup) (h : (k, a) ∈ es) : find? k es = some a := by
  induction es with
  | nil => simp at h
  | cons e es ih =>
    obtain ⟨he, hn⟩ : e.1.key ∉ keyList es ∧ (keyList es).Nodup := by simpa [keyList] using hn
    rcases List.mem_cons.mp h with rfl | h
    · simp [find?]
    · have hne : e.1.same k = false := by
        rw [← Bool.not_eq_true, Scalar.same_iff]
        intro hk
        exact he (hk ▸ List.mem_map_of_mem h)
      simpa [find?, hne] using ih hn h

/-- Entries that are picked by a property of their keys, which the key written does not have. -/
theorem filter_insert (h : ∀ k', k'.same k = true → p k' = false) :
    (insert k a es).filter (fun e => p e.1) = es.filter fun e => p e.1 := by
  induction es with
  | nil => simp [insert, h k]
  | cons e es ih =>
    by_cases he : e.1.same k = true
    · simp [insert, he, h e.1 he]
    · simp [insert, he, List.filter_cons, ih]

theorem filter_erase (h : ∀ k', k'.same k = true → p k' = false) :
    (erase k es).filter (fun e => p e.1) = es.filter fun e => p e.1 := by
  induction es with
  | nil => simp [erase]
  | cons e es ih =>
    by_cases he : e.1.same k = true
    · simp [erase, he, h e.1 he, ih]
    · simp [erase, he, List.filter_cons, ih]

theorem erase_eq_filter (k : Scalar) (es : List (Scalar × α)) :
    erase k es = es.filter fun e => !e.1.same k := by
  induction es with
  | nil => rfl
  | cons e es ih => by_cases he : e.1.same k = true <;> simp [erase, he, ih]

/-- A look-up of a key that is picked needs the picked entries only. -/
theorem find?_filter (h : ∀ k', k'.same k = true → p k' = true) :
    find? k (es.filter fun e => p e.1) = find? k es := by
  induction es with
  | nil => rfl
  | cons e es ih =>
    by_cases he : e.1.same k = true
    · simp [h e.1 he, find?, he]
    · by_cases hp : p e.1 = true <;> simp [hp, find?, he, ih]

theorem find?_filter_of_not (h : ∀ k', k'.same k = true → p k' = false) :
    find? k (es.filter fun e => p e.1) = none := by
  induction es with
  | nil => rfl
  | cons e es ih =>
    by_cases he : e.1.same k = true
    · simp [h e.1 he, ih]
    · by_cases hp : p e.1 = true <;> simp [hp, find?, he, ih]

end Entries

namespace Table

variable {α : Type u} {t : Table α} {k k' : Scalar} {a b : α}

theorem ext_entries {t t' : Table α} (h : t.entries = t'.entries) : t = t' := by
  cases t; cases t'; simp_all

/-- The table of what the entries are sent to. -/
def map {β : Type u} (f : α → β) (t : Table α) : Table β :=
  ⟨t.entries.map fun e => (e.1, f e.2), (Entries.keyList_map f t.entries).symm ▸ t.nodup⟩

theorem find?_insert : (t.insert k a).find? k' = if k.same k' then some a else t.find? k' :=
  Entries.find?_insert k' k a t.entries

theorem find?_erase : (t.erase k).find? k' = if k.same k' then none else t.find? k' :=
  Entries.find?_erase k' k t.entries

theorem insert_of_find? (h : t.find? k = some a) : t.insert k a = t :=
  ext_entries (Entries.insert_of_find? h)

theorem insert_insert : (t.insert k b).insert k a = t.insert k a :=
  ext_entries (Entries.insert_insert k a b t.entries)

/-- Keys that are new, and all different, are written behind those that are there. -/
theorem entries_writeAll {es : List (Scalar × α)} (h : (Entries.keyList (t.entries ++ es)).Nodup) :
    (es.foldl (fun t e => t.insert e.1 e.2) t).entries = t.entries ++ es := by
  induction es generalizing t with
  | nil => exact (List.append_nil _).symm
  | cons e es ih =>
    have hnew : e.1.key ∉ Entries.keyList t.entries := by
      rw [Entries.keyList, List.map_append, List.map_cons, List.nodup_append] at h
      exact fun hm => h.2.2 _ hm _ List.mem_cons_self rfl
    have hinsert : (t.insert e.1 e.2).entries = t.entries ++ [e] :=
      Entries.insert_of_find?_none (Entries.find?_of_not_mem hnew)
    rw [List.foldl_cons, ih (by rwa [hinsert, List.append_assoc]), hinsert, List.append_assoc]
    rfl

theorem mem_iff_find? {s : String} : (.str s, a) ∈ t.entries ↔ t.find? (.str s) = some a := by
  refine ⟨Entries.find?_of_mem t.nodup, fun h => ?_⟩
  obtain ⟨k', hk, hm⟩ := Entries.mem_of_find? h
  rwa [Scalar.same_str.mp hk] at hm

section

variable {t' : Table α} {new : List (String × α)}
  (h : t'.entries = t.entries ++ new.map fun e => (.str e.1, e.2))

include h

/-- Keys that stand behind others are new, and all different. -/
theorem keys_of_appended : (new.map Prod.fst).Nodup ∧ ∀ e ∈ new, t.find? (.str e.1) = none := by
  have hnodup := t'.nodup
  rw [h, Entries.keyList, List.map_append, List.nodup_append] at hnodup
  have hkeys : (new.map fun e => ((.str e.1, e.2) : Scalar × α)).map (fun e => e.1.key) =
      (new.map Prod.fst).map fun id => (Scalar.str id).key := by
    simp [Function.comp_def]
  rw [hkeys] at hnodup
  refine ⟨List.Nodup.of_map _ hnodup.2.1, fun e he => ?_⟩
  cases hfind : t.find? (.str e.1) with
  | none => rfl
  | some a =>
    exact absurd rfl (hnodup.2.2 _ (List.mem_map_of_mem (mem_iff_find?.mpr hfind)) _
      (List.mem_map_of_mem (List.mem_map_of_mem he)))

/-- What stands behind the entries that were there: exactly what has come to be found at free
keys. -/
theorem mem_appended_iff {e : String × α} :
    e ∈ new ↔ t.find? (.str e.1) = none ∧ t'.find? (.str e.1) = some e.2 := by
  rw [← mem_iff_find?, h, List.mem_append]
  have hnew : (.str e.1, e.2) ∈ new.map (fun e => ((.str e.1, e.2) : Scalar × α)) ↔ e ∈ new := by
    simp [Prod.ext_iff]
  constructor
  · intro he
    exact ⟨(keys_of_appended h).2 e he, Or.inr (hnew.mpr he)⟩
  · rintro ⟨hfree, hold | hlast⟩
    · cases hfree.symm.trans (mem_iff_find?.mp hold)
    · exact hnew.mp hlast

end

end Table

end ResolverHooks
