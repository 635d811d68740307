import ResolverHooks.Mapping.Node
import ResolverHooks.Proofs.Document.Grammar

/-!
Nodes that describe a document: objects and strings, of plain characters. Such a node renders to a
text of the document it describes, and of no other, at every indentation.
-/
namespace ResolverHooks.Mapping

open Json

/-- A text without quotes, backslashes and control characters. -/
def IsPlainText (s : String) : Prop := ∀ c ∈ s.toList, IsPlain c

instance : DecidablePred IsPlainText := fun s => List.decidableBAll IsPlain s.toList

namespace Node

/-- Objects and strings throughout, with plain texts. -/
inductive IsDescription : Node → Prop
  | str {s : String} : IsPlainText s → IsDescription (.str s)
  | obj {ms : List (String × Node)} : (∀ m ∈ ms, IsPlainText m.1) → (∀ m ∈ ms, IsDescription m.2) →
      IsDescription (.obj ms)

mutual

/-- What a node of objects and strings describes. -/
def tree? : Node → Option Tree
  | str s => some (.str s)
  | obj ms => (memberTrees? ms).map .object
  | _ => none

def memberTrees? : List (String × Node) → Option (List (String × Tree))
  | [] => some []
  | (key, n) :: ms => do return (key, ← tree? n) :: (← memberTrees? ms)

end

variable {n : Node} {ms : List (String × Node)} {l rest : List Char} {t : Tree} {indent : Int}

/-- The line of a member, without what ends it. -/
def memberLine (indent : Int) (m : String × Node) : List Char :=
  spaces indent ++ '"' :: (m.1.toList ++ '"' :: ':' :: ' ' :: m.2.chars indent)

theorem chars_str (indent : Int) (s : String) :
    (str s).chars indent = '"' :: (s.toList ++ ['"']) := rfl

theorem memberChars_eq (indent : Int) (ms : List (String × Node)) :
    memberChars indent ms = ms.map (memberLine indent) := by
  induction ms with
  | nil => rfl
  | cons m ms ih => exact congrArg (memberLine indent m :: ·) ih

/-- The lines behind the first member's, each behind a comma. -/
def furtherLines (indent : Int) (ms : List (String × Node)) : List Char :=
  ms.flatMap fun m => ',' :: '\n' :: memberLine indent m

theorem intercalate_memberChars (indent : Int) (m : String × Node) (ms : List (String × Node)) :
    List.intercalate [',', '\n'] (memberChars indent (m :: ms)) =
      memberLine indent m ++ furtherLines indent ms := by
  rw [memberChars_eq]
  induction ms generalizing m with
  | nil => simp [furtherLines]
  | cons m' ms ih =>
    rw [List.map_cons, List.map_cons, List.intercalate_cons_cons, ← List.map_cons, ih,
      furtherLines, furtherLines, List.flatMap_cons]
    simp

theorem chars_obj_cons (indent : Int) (m : String × Node) (ms : List (String × Node))
    (rest : List Char) :
    (obj (m :: ms)).chars indent ++ rest = '\x7b' :: '\n' :: (memberLine (indent + 2) m ++
      (furtherLines (indent + 2) ms ++ '\n' :: (spaces indent ++ '\x7d' :: rest))) := by
  have htext : (obj (m :: ms)).chars indent =
      '\x7b' :: '\n' :: (List.intercalate [',', '\n'] (memberChars (indent + 2) (m :: ms)) ++
        '\n' :: (spaces indent ++ ['\x7d'])) := rfl
  rw [htext, intercalate_memberChars]
  simp

theorem memberTrees?_cons {m : String × Node} {t : Tree} {ms : List (String × Node)}
    {ts : List (String × Tree)}
    (ht : m.2.tree? = some t) (hts : memberTrees? ms = some ts) :
    memberTrees? (m :: ms) = some ((m.1, t) :: ts) := by
  obtain ⟨key, n⟩ := m
  rw [memberTrees?, ht, hts]
  rfl

/-- The text of a node is read as what it describes, wherever it starts behind a gap. -/
def Describes (n : Node) (t : Tree) : Prop :=
  n.tree? = some t ∧ ∀ (indent : Int) (l rest : List Char), skipGap l = n.chars indent ++ rest →
    IsRead l .value t rest

theorem skipGap_cons (c : Char) (hc : isGap c = true) (l : List Char) :
    skipGap (c :: l) = skipGap l :=
  List.dropWhile_cons_of_pos hc

/-- The start of a line is a gap. -/
theorem skipGap_line (k : Int) (l : List Char) : skipGap ('\n' :: (spaces k ++ l)) = skipGap l := by
  have hspaces : ∀ c ∈ spaces k, isGap c = true := by
    intro c hc
    obtain rfl := List.eq_of_mem_replicate hc
    rfl
  rw [skipGap_cons '\n' rfl]
  exact List.dropWhile_append_of_pos hspaces

theorem skipGap_chars (h : n.IsDescription) (indent : Int) (rest : List Char) :
    skipGap (n.chars indent ++ rest) = n.chars indent ++ rest := by
  cases h with
  | str => exact skipGap_of_not '"' rfl _
  | @obj ms =>
    cases ms with
    | nil => exact skipGap_of_not '\x7b' rfl _
    | cons => exact skipGap_of_not '\x7b' rfl _

theorem isRead_memberLine {m : String × Node} (hkey : IsPlainText m.1) (hn : m.2.IsDescription)
    (ht : m.2.Describes t) :
    IsRead ('\n' :: (memberLine indent m ++ rest)) .member (m.1, t) rest := by
  have hline : skipGap ('\n' :: (memberLine indent m ++ rest)) =
      '"' :: (m.1.toList ++ '"' :: ':' :: ' ' :: (m.2.chars indent ++ rest)) := by
    rw [memberLine, List.append_assoc, skipGap_line, List.cons_append, skipGap_of_not '"' rfl]
    simp
  have hvalue : IsRead (' ' :: (m.2.chars indent ++ rest)) .value t rest :=
    ht.2 indent _ _ (by rw [skipGap_cons ' ' rfl, skipGap_chars hn])
  have hmember := isRead_member hline hkey hvalue
  rwa [String.ofList_toList] at hmember

/-- The members behind the first one, up to the closing brace on a line of its own. -/
theorem isRead_furtherLines (hplain : ∀ m ∈ ms, IsPlainText m.1)
    (hdesc : ∀ m ∈ ms, m.2.IsDescription)
    (hread : ∀ m ∈ ms, ∃ t, m.2.Describes t) :
    ∃ ts, memberTrees? ms = some ts ∧ ∀ (indent outer : Int) rest,
      IsRead (furtherLines indent ms ++ '\n' :: (spaces outer ++ '\x7d' :: rest))
        .moreMembers ts rest := by
  induction ms with
  | nil =>
    refine ⟨[], rfl, fun indent outer rest => isRead_endMembers ?_⟩
    exact (skipGap_line outer _).trans (skipGap_of_not '\x7d' rfl rest)
  | cons m ms ih =>
    obtain ⟨hkey, hkeys⟩ := List.forall_mem_cons.mp hplain
    obtain ⟨hn, hdesc⟩ := List.forall_mem_cons.mp hdesc
    obtain ⟨⟨t, ht⟩, hread⟩ := List.forall_mem_cons.mp hread
    obtain ⟨ts, hts, hrest⟩ := ih hkeys hdesc hread
    refine ⟨(m.1, t) :: ts, memberTrees?_cons ht.1 hts, fun indent outer rest => ?_⟩
    have hcomma : furtherLines indent (m :: ms) ++ '\n' :: (spaces outer ++ '\x7d' :: rest) =
        ',' :: '\n' :: (memberLine indent m ++
          (furtherLines indent ms ++ '\n' :: (spaces outer ++ '\x7d' :: rest))) := by
      simp [furtherLines]
    rw [hcomma]
    exact isRead_nextMember (skipGap_of_not ',' rfl _) (isRead_memberLine hkey hn ht)
      (hrest indent outer rest)

theorem describes_str {s : String} (h : IsPlainText s) : (str s).Describes (.str s) := by
  refine ⟨rfl, fun indent l rest hl => ?_⟩
  have htext : skipGap l = '"' :: (s.toList ++ '"' :: rest) := by
    rw [hl, chars_str, List.cons_append, List.append_assoc, List.singleton_append]
  have hread := isRead_str htext h
  rwa [String.ofList_toList] at hread

theorem exists_describes (h : n.IsDescription) : ∃ t, n.Describes t := by
  -- every member is read at a deeper indentation, so its own reading must hold at all of them
  induction h with
  | str h => exact ⟨_, describes_str h⟩
  | @obj ms hplain hdesc ih =>
    cases ms with
    | nil =>
      refine ⟨.object [], rfl, fun indent l rest hl => isRead_object hl (isRead_noMembers ?_)⟩
      exact skipGap_of_not '\x7d' rfl rest
    | cons m ms =>
      obtain ⟨hkey, hkeys⟩ := List.forall_mem_cons.mp hplain
      obtain ⟨hn, hdesc⟩ := List.forall_mem_cons.mp hdesc
      obtain ⟨⟨t, ht⟩, hread⟩ := List.forall_mem_cons.mp ih
      obtain ⟨ts, hts, hrest⟩ := isRead_furtherLines hkeys hdesc hread
      have htrees : memberTrees? (m :: ms) = some ((m.1, t) :: ts) := memberTrees?_cons ht.1 hts
      refine ⟨.object ((m.1, t) :: ts), congrArg (Option.map Tree.object) htrees,
        fun indent l rest hl => ?_⟩
      rw [chars_obj_cons] at hl
      exact isRead_object hl (isRead_firstMember (isRead_memberLine hkey hn ht) (hrest _ _ _))

/-- A node of objects and strings renders, at every indentation, to a text of what it describes, and
of nothing else. -/
theorem render_isText_iff (h : n.IsDescription) : ∃ t, n.tree? = some t ∧
    ∀ (indent : Int) (t' : Tree), IsText (n.render indent).toList t' ↔ t' = t := by
  obtain ⟨t, htree, hread⟩ := exists_describes h
  refine ⟨t, htree, fun indent t' => ?_⟩
  rw [render, String.toList_ofList, ← List.append_nil (n.chars indent)]
  exact isText_iff (hread indent _ [] (skipGap_chars h indent []))

/-- Objects inside an object, one of them empty, at an indentation that asks for no spaces. -/
theorem render_isText_nested :
    IsText ((obj [("meta", obj []), ("model", obj [("name", str "Todo")])]).render (-3)).toList
      (.object [("meta", .object []), ("model", .object [("name", .str "Todo")])]) := by
  have hempty : (obj []).IsDescription := .obj (by decide) (fun _ hm => nomatch hm)
  have hinner : (obj [("name", str "Todo")]).IsDescription := by
    refine .obj (by decide +kernel) ?_
    simpa using IsDescription.str (by decide +kernel)
  have houter : (obj [("meta", obj []), ("model", obj [("name", str "Todo")])]).IsDescription := by
    refine .obj (by decide +kernel) ?_
    simpa using ⟨hempty, hinner⟩
  obtain ⟨t, htree, htext⟩ := render_isText_iff houter
  exact (htext (-3) _).mpr (Option.some.inj htree)

end Node

end ResolverHooks.Mapping
