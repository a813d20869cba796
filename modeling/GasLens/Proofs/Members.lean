/-
  GasLens/Proofs/Members.lean
  ===========================
  **Members of documents** — the last member of a name is all that the normal form of an object
  keeps of that name.

  So what is read from an object in normal form is said by its last members, and depends neither
  on the order of the members nor on others among them. The same holds of the fields of a record
  (`fields?_normal_object`), and each of them is less deep than the object it is in.
-/
import GasLens.Json.Record
import GasLens.Proofs.Maps

namespace GasLens

namespace Json

theorem lastMember?_cons (name : String) (m : String × Json) (ms : List (String × Json)) :
    lastMember? name (m :: ms) =
      (lastMember? name ms).or (if m.1 = name then some m.2 else none) := by
  unfold lastMember?
  rw [List.reverse_cons, List.find?_append, Option.map_or]
  congr 1
  by_cases h : m.1 = name <;> simp [h]

theorem get?_foldl_insert (name : String) (ms : List (String × Json)) (m : SortedMap String Json) :
    (ms.foldl (fun m e => m.insert e.1 e.2) m).get? name =
      (lastMember? name ms).or (m.get? name) := by
  induction ms generalizing m with
  | nil => rfl
  | cons e ms ih =>
    rw [List.foldl_cons, ih, lastMember?_cons, SortedMap.insert, SortedMap.get?_update,
      Option.or_assoc]
    congr 1
    by_cases h : e.1 = name
    · rw [if_pos h, if_pos h.symm]
      rfl
    · rw [if_neg h, if_neg (Ne.symm h)]
      rfl

/-- A name with one member has it first and last. -/
theorem lastMember?_entries (name : String) (m : SortedMap String Json) :
    lastMember? name m.entries = m.get? name := by
  have hmem : ∀ {j : Json}, (name, j) ∈ m.entries → m.get? name = some j := fun h =>
    (SortedMap.findEntry_eq_some_iff m.ascending).2 h
  unfold lastMember?
  cases hfind : m.entries.reverse.find? fun e => e.1 == name with
  | none =>
    cases hget : m.get? name with
    | none => rfl
    | some j =>
      have hentry := (SortedMap.findEntry_eq_some_iff m.ascending).1 hget
      have hnone := List.find?_eq_none.1 hfind (name, j) (List.mem_reverse.2 hentry)
      exact absurd (beq_self_eq_true name) hnone
  | some e =>
    have hname : e.1 = name := by simpa using List.find?_some hfind
    have hentry := List.mem_reverse.1 (List.mem_of_find?_eq_some hfind)
    rw [← hname] at hmem ⊢
    exact (hmem hentry).symm

theorem lastMember?_normalMembers (name : String) (ms : List (String × Json)) :
    lastMember? name (normalMembers ms) = (lastMember? name ms).map normal := by
  induction ms with
  | nil => rfl
  | cons m ms ih =>
    obtain ⟨name', j⟩ := m
    rw [normalMembers, lastMember?_cons, lastMember?_cons, ih, Option.map_or]
    congr 1
    split <;> rfl

/-- The normal form keeps the last member of each name, whatever stands around it. -/
theorem lastMember?_normal (name : String) (ms : List (String × Json)) :
    lastMember? name (SortedMap.ofList (normalMembers ms)).entries =
      (lastMember? name ms).map normal := by
  rw [lastMember?_entries, SortedMap.ofList, get?_foldl_insert, lastMember?_normalMembers]
  exact Option.or_none

theorem normalItems_eq_map (js : List Json) : normalItems js = js.map normal := by
  induction js with
  | nil => rfl
  | cons j js ih => rw [normalItems, ih, List.map_cons]

theorem normalMembers_eq_map (ms : List (String × Json)) :
    normalMembers ms = ms.map fun m => (m.1, m.2.normal) := by
  induction ms with
  | nil => rfl
  | cons m ms ih =>
    obtain ⟨name, j⟩ := m
    rw [normalMembers, ih, List.map_cons]

/-- Members with different names may stand in any order. -/
theorem normal_object_of_perm {ms ms' : List (String × Json)}
    (hnodup : (ms.map Prod.fst).Nodup) (hperm : ms.Perm ms') :
    (Json.object ms).normal = (Json.object ms').normal := by
  rw [normal, normal, normalMembers_eq_map, normalMembers_eq_map]
  congr 2
  refine SortedMap.ofList_eq_of_perm ?_ (hperm.map _)
  rw [List.map_map]
  exact hnodup

/-! ### Records -/

/-- A field that is given, or that may be missing. -/
def allowed (presence : Presence) : Option Json → Option (Option Json)
  | none => if presence = .required then none else some none
  | some j => some (some j)

theorem allowed_defaulted (field : Option Json) : allowed .defaulted field = some field := by
  cases field <;> rfl

theorem namedField_entries (m : SortedMap String Json) (field : String × Presence) :
    namedField m.entries field = allowed field.2 (m.get? field.1) := by
  have hfilter : (m.entries.filter fun e => e.1 == field.1) =
      (m.get? field.1).toList.map fun j => (field.1, j) := SortedMap.filter_key_eq m.ascending
  unfold namedField
  rw [hfilter]
  cases m.get? field.1 <;> rfl

/-- The named fields of a record are its last members. -/
theorem fields?_normal_object (shape : RecordShape) (ms : List (String × Json)) :
    (Json.object ms).normal.fields? shape false =
      shape.mapM fun field => allowed field.2 ((lastMember? field.1 ms).map normal) := by
  have hfield : namedField (SortedMap.ofList (normalMembers ms)).entries =
      fun field => allowed field.2 ((lastMember? field.1 ms).map normal) := by
    funext field
    rw [namedField_entries, ← lastMember?_entries, lastMember?_normal]
  rw [normal, fields?, hfield]
  rfl

/-! ### Depth -/

theorem depth_le_depthItems {j : Json} {js : List Json} (h : j ∈ js) :
    j.depth ≤ depthItems js := by
  induction js with
  | nil => cases h
  | cons j' js ih =>
    rw [depthItems]
    rcases List.mem_cons.1 h with rfl | hmem
    · exact Nat.le_max_left _ _
    · exact Nat.le_trans (ih hmem) (Nat.le_max_right _ _)

theorem depth_le_depthMembers {m : String × Json} {ms : List (String × Json)} (h : m ∈ ms) :
    m.2.depth ≤ depthMembers ms := by
  induction ms with
  | nil => cases h
  | cons m' ms ih =>
    rw [depthMembers]
    rcases List.mem_cons.1 h with rfl | hmem
    · exact Nat.le_max_left _ _
    · exact Nat.le_trans (ih hmem) (Nat.le_max_right _ _)

theorem depth_lt_of_mem_items {j : Json} {js : List Json} (h : j ∈ js) :
    j.normal.depth < (Json.array js).normal.depth := by
  rw [normal, depth, normalItems_eq_map]
  exact Nat.lt_succ_of_le (depth_le_depthItems (List.mem_map_of_mem h))

theorem depth_lt_of_lastMember? {name : String} {j : Json} {ms : List (String × Json)}
    (h : lastMember? name ms = some j) : j.normal.depth < (Json.object ms).normal.depth := by
  have hget : (SortedMap.ofList (normalMembers ms)).get? name = some j.normal := by
    rw [← lastMember?_entries, lastMember?_normal, h]
    rfl
  have hmem := (SortedMap.findEntry_eq_some_iff (SortedMap.ascending _)).1 hget
  rw [normal, depth]
  exact Nat.lt_succ_of_le (depth_le_depthMembers hmem)

end Json

end GasLens
