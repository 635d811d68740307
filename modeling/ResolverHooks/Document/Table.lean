import ResolverHooks.Document.Value

/-!
Entries keyed by scalars, in the order in which their keys were first written: writing a key again
keeps its place, and erasing a key forgets its place.
-/
namespace ResolverHooks

universe u

namespace Entries

variable {α : Type u}

def find? (k : Scalar) : List (Scalar × α) → Option α
  | [] => none
  | (k', a) :: rest => if k'.same k then some a else find? k rest

def insert (k : Scalar) (a : α) : List (Scalar × α) → List (Scalar × α)
  | [] => [(k, a)]
  | (k', a') :: rest => if k'.same k then (k', a) :: rest else (k', a') :: insert k a rest

def erase (k : Scalar) : List (Scalar × α) → List (Scalar × α)
  | [] => []
  | (k', a) :: rest => if k'.same k then erase k rest else (k', a) :: erase k rest

def keyList (entries : List (Scalar × α)) : List Key := entries.map fun e => e.1.key

theorem mem_keyList_insert {k : Scalar} {a : α} {entries : List (Scalar × α)} {x : Key} :
    x ∈ keyList (insert k a entries) ↔ x = k.key ∨ x ∈ keyList entries := by
  induction entries with
  | nil => simp [insert, keyList]
  | cons e rest ih =>
    simp only [keyList, insert] at ih ⊢
    split
    · rename_i h
      have hk : e.1.key = k.key := by simpa [Scalar.same] using h
      simp [hk]
    · simp [ih, or_left_comm]

theorem mem_keyList_erase {k : Scalar} {entries : List (Scalar × α)} {x : Key} :
    x ∈ keyList (erase k entries) ↔ x ≠ k.key ∧ x ∈ keyList entries := by
  induction entries with
  | nil => simp [erase, keyList]
  | cons e rest ih =>
    simp only [keyList, erase] at ih ⊢
    split
    · rename_i h
      have hk : e.1.key = k.key := by simpa [Scalar.same] using h
      simp only [ih, List.map_cons, List.mem_cons, hk]
      grind
    · rename_i h
      have hk : e.1.key ≠ k.key := by simpa [Scalar.same] using h
      simp only [List.map_cons, List.mem_cons, ih]
      grind

theorem nodup_keyList_insert {k : Scalar} {a : α} {entries : List (Scalar × α)}
    (h : (keyList entries).Nodup) : (keyList (insert k a entries)).Nodup := by
  induction entries with
  | nil => simp [insert, keyList]
  | cons e rest ih =>
    have hr : e.1.key ∉ keyList rest ∧ (keyList rest).Nodup := by
      simpa [keyList] using h
    simp only [insert]
    split
    · simpa [keyList] using h
    · rename_i hne
      have hk : e.1.key ≠ k.key := by simpa [Scalar.same] using hne
      have hmem : e.1.key ∉ keyList (insert k a rest) := by
        rw [mem_keyList_insert]
        exact fun hor => hor.elim hk hr.1
      have hnodup := ih hr.2
      simp only [keyList, List.map_cons, List.nodup_cons] at hmem hnodup ⊢
      exact ⟨hmem, hnodup⟩

theorem nodup_keyList_erase {k : Scalar} {entries : List (Scalar × α)}
    (h : (keyList entries).Nodup) : (keyList (erase k entries)).Nodup := by
  induction entries with
  | nil => simp [erase, keyList]
  | cons e rest ih =>
    have hr : e.1.key ∉ keyList rest ∧ (keyList rest).Nodup := by
      simpa [keyList] using h
    simp only [erase]
    split
    · exact ih hr.2
    · have hmem : e.1.key ∉ keyList (erase k rest) := by
        rw [mem_keyList_erase]
        exact fun hand => hr.1 hand.2
      have hnodup := ih hr.2
      simp only [keyList, List.map_cons, List.nodup_cons] at hmem hnodup ⊢
      exact ⟨hmem, hnodup⟩

end Entries

/-- Entries of which no two have the same key. -/
structure Table (α : Type u) where
  entries : List (Scalar × α)
  nodup : (Entries.keyList entries).Nodup

namespace Table

variable {α : Type u}

def empty : Table α := ⟨[], by simp [Entries.keyList]⟩

instance : Inhabited (Table α) := ⟨empty⟩

def find? (t : Table α) (k : Scalar) : Option α := Entries.find? k t.entries

def contains (t : Table α) (k : Scalar) : Bool := (t.find? k).isSome

def keys (t : Table α) : List Scalar := t.entries.map Prod.fst

def size (t : Table α) : Nat := t.entries.length

def insert (t : Table α) (k : Scalar) (a : α) : Table α :=
  ⟨Entries.insert k a t.entries, Entries.nodup_keyList_insert t.nodup⟩

def erase (t : Table α) (k : Scalar) : Table α :=
  ⟨Entries.erase k t.entries, Entries.nodup_keyList_erase t.nodup⟩

/-- The table that results from writing the entries one after another. -/
def ofList (entries : List (Scalar × α)) : Table α :=
  entries.foldl (fun t e => t.insert e.1 e.2) empty

end Table

end ResolverHooks
