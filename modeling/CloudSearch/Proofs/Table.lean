import CloudSearch.Table

/-!
# Looking names up in tables

What is found under a name after a name has been inserted, and which tables the listed pairs are:
their names in the order in which they come first, each with the value that comes last. Pairs of
distinct names are the entries of their table, in the order listed. Entries are told by their names,
so that they stand in the order of another table if their names do.
-/

namespace CloudSearch.Table

variable {α : Type}

theorem find?_place (name other : String) (value : α) (entries : List (String × α)) :
    ((place name value entries).find? (·.1 == other)).map (·.2) =
      if other = name then some value else (entries.find? (·.1 == other)).map (·.2) := by
  induction entries with
  | nil =>
    by_cases same : other = name
    · simp [place, same]
    · have differ : name ≠ other := fun h => same h.symm
      simp [place, same, differ]
  | cons entry rest ih =>
    by_cases placed : entry.1 = name
    · by_cases same : other = name
      · simp [place, placed, same]
      · have differ : name ≠ other := fun h => same h.symm
        simp [place, placed, same, differ]
    · by_cases found : entry.1 = other
      · have differ : other ≠ name := fun h => placed (found.trans h)
        simp [place, found, differ]
      · simp [place, placed, found, ih]

/-- Inserting a name changes what is found under that name and under no other. -/
theorem get?_insert (t : Table α) (name other : String) (value : α) :
    (t.insert name value).get? other = if other = name then some value else t.get? other :=
  find?_place name other value t.entries

theorem place_of_not_mem {name : String} {entries : List (String × α)}
    (fresh : name ∉ entries.map (·.1)) (value : α) :
    place name value entries = entries ++ [(name, value)] := by
  induction entries with
  | nil => rfl
  | cons entry rest ih =>
    have differ : ¬entry.1 = name := fun h => fresh (by simp [h])
    have fresh_rest : name ∉ rest.map (·.1) := fun h => fresh (by simp [h])
    simp [place, differ, ih fresh_rest]

/-- Pairs of new and distinct names are placed behind one another. -/
theorem foldl_place {entries pairs : List (String × α)}
    (distinct : ((entries ++ pairs).map (·.1)).Nodup) :
    pairs.foldl (fun es p => place p.1 p.2 es) entries = entries ++ pairs := by
  induction pairs generalizing entries with
  | nil => simp
  | cons pair rest ih =>
    have fresh : pair.1 ∉ entries.map (·.1) := by
      rw [List.map_append, List.nodup_append] at distinct
      intro mem
      exact distinct.2.2 pair.1 mem pair.1 (by simp) rfl
    have placed : place pair.1 pair.2 entries = entries ++ [pair] := place_of_not_mem fresh pair.2
    have left : ((entries ++ [pair] ++ rest).map (·.1)).Nodup := by
      rw [List.append_assoc]
      exact distinct
    rw [List.foldl_cons, placed, ih left, List.append_assoc]
    rfl

theorem entries_foldl_insert (pairs : List (String × α)) (t : Table α) :
    (pairs.foldl (fun t p => t.insert p.1 p.2) t).entries =
      pairs.foldl (fun es p => place p.1 p.2 es) t.entries := by
  induction pairs generalizing t with
  | nil => rfl
  | cons pair rest ih => exact ih (t.insert pair.1 pair.2)

/-- Pairs of distinct names are the entries of their table. -/
theorem entries_ofList {pairs : List (String × α)} (distinct : (pairs.map (·.1)).Nodup) :
    (ofList pairs).entries = pairs :=
  (entries_foldl_insert pairs empty).trans (foldl_place distinct)

/-- A table is the table of its entries. -/
theorem ofList_entries (t : Table α) : ofList t.entries = t :=
  Table.ext (entries_ofList t.nodup)

theorem removeAll_concat (names known : List String) (name : String) :
    names.removeAll (known ++ [name]) = (names.removeAll known).filter (fun n => !n == name) := by
  rw [List.removeAll, List.removeAll, List.filter_filter]
  refine List.filter_congr fun n _ => ?_
  by_cases same : n = name <;> simp [same]

theorem names_foldl_insert (pairs : List (String × α)) (t : Table α) :
    (pairs.foldl (fun t p => t.insert p.1 p.2) t).names =
      t.names ++ ((pairs.map (·.1)).removeAll t.names).eraseDups := by
  induction pairs generalizing t with
  | nil => simp [List.removeAll]
  | cons pair rest ih =>
    rw [List.foldl_cons, ih, names_insert, List.map_cons]
    split
    · next known =>
      have removed : (pair.1 :: rest.map (·.1)).removeAll t.names =
          (rest.map (·.1)).removeAll t.names := by
        simp [List.removeAll, known]
      rw [removed]
    · next fresh =>
      have kept : (pair.1 :: rest.map (·.1)).removeAll t.names =
          pair.1 :: (rest.map (·.1)).removeAll t.names := by
        simp [List.removeAll, fresh]
      rw [kept, List.eraseDups_cons, removeAll_concat, List.append_assoc]
      rfl

/-- The names of listed pairs stand in their table in the order in which they come first. -/
theorem names_ofList (pairs : List (String × α)) :
    (ofList pairs).names = (pairs.map (·.1)).eraseDups := by
  have kept : (pairs.map (·.1)).removeAll [] = pairs.map (·.1) :=
    List.filter_eq_self.2 fun _ _ => rfl
  rw [ofList, names_foldl_insert]
  simp only [empty, names, List.map_nil, List.nil_append, kept]

theorem get?_foldl_insert_of_not_mem {name : String} {pairs : List (String × α)}
    (other : name ∉ pairs.map (·.1)) (t : Table α) :
    (pairs.foldl (fun t p => t.insert p.1 p.2) t).get? name = t.get? name := by
  induction pairs generalizing t with
  | nil => rfl
  | cons pair rest ih =>
    rw [List.map_cons, List.mem_cons, not_or] at other
    rw [List.foldl_cons, ih other.2, get?_insert, if_neg other.1]

/-- Among the listed pairs this is the last one with the name. -/
def IsLast (pairs : List (String × α)) (name : String) (value : α) : Prop :=
  ∃ before after, pairs = before ++ (name, value) :: after ∧ name ∉ after.map (·.1)

theorem exists_isLast {pairs : List (String × α)} {name : String}
    (listed : name ∈ pairs.map (·.1)) : ∃ value, IsLast pairs name value := by
  induction pairs with
  | nil => cases listed
  | cons pair rest ih =>
    by_cases later : name ∈ rest.map (·.1)
    · obtain ⟨value, before, after, split, other⟩ := ih later
      exact ⟨value, pair :: before, after, by rw [split, List.cons_append], other⟩
    · rw [List.map_cons, List.mem_cons] at listed
      obtain rfl : name = pair.1 := listed.resolve_right later
      exact ⟨pair.2, [], rest, rfl, later⟩

theorem IsLast.map {β : Type} {pairs : List (String × α)} {name : String} {value : α}
    (last : IsLast pairs name value) (f : α → β) :
    IsLast (pairs.map fun p => (p.1, f p.2)) name (f value) := by
  obtain ⟨before, after, rfl, other⟩ := last
  refine ⟨before.map fun p => (p.1, f p.2), after.map fun p => (p.1, f p.2), by simp, ?_⟩
  rw [List.map_map]
  exact other

/-- What is found under a name is the value that comes last. -/
theorem get?_ofList_of_isLast {pairs : List (String × α)} {name : String} {value : α}
    (last : IsLast pairs name value) : (ofList pairs).get? name = some value := by
  obtain ⟨before, after, rfl, other⟩ := last
  rw [ofList, List.foldl_append, List.foldl_cons, get?_foldl_insert_of_not_mem other, get?_insert,
    if_pos rfl]

theorem IsLast.unique {pairs : List (String × α)} {name : String} {v w : α}
    (last : IsLast pairs name v) (last' : IsLast pairs name w) : v = w := by
  have found := get?_ofList_of_isLast last
  rw [get?_ofList_of_isLast last'] at found
  exact (Option.some.inj found).symm

theorem IsLast.mem {pairs : List (String × α)} {name : String} {value : α}
    (last : IsLast pairs name value) : (name, value) ∈ pairs := by
  obtain ⟨before, after, rfl, -⟩ := last
  simp

/-- What comes last of all comes last of those that are kept. -/
theorem IsLast.filter {pairs : List (String × α)} {name : String} {value : α}
    (last : IsLast pairs name value) {keep : String × α → Bool} (kept : keep (name, value) = true) :
    IsLast (pairs.filter keep) name value := by
  obtain ⟨before, after, rfl, other⟩ := last
  refine ⟨before.filter keep, after.filter keep, ?_, ?_⟩
  · rw [List.filter_append, List.filter_cons_of_pos kept]
  · intro listed
    obtain ⟨pair, mem, rfl⟩ := List.mem_map.1 listed
    exact other (List.mem_map_of_mem (List.mem_filter.1 mem).1)

theorem isLast_map_iff {β : Type} {pairs : List (String × α)} {f : α → β} {name : String} {b : β} :
    IsLast (pairs.map fun p => (p.1, f p.2)) name b ↔
      ∃ value, IsLast pairs name value ∧ f value = b := by
  constructor
  · intro last
    obtain ⟨pair, mem, same⟩ := List.mem_map.1 last.mem
    obtain ⟨rfl, -⟩ := Prod.mk.inj same
    obtain ⟨value, last'⟩ := exists_isLast (List.mem_map_of_mem mem)
    exact ⟨value, last', (last'.map f).unique last⟩
  · rintro ⟨value, last, rfl⟩
    exact last.map f

/-! ## Tables of functions -/

/-- Among the names with what a function gives for them, a name has just that value. -/
theorem isLast_graph {names : List String} {f : String → α} {name : String} (mem : name ∈ names) :
    IsLast (names.map fun n => (n, f n)) name (f name) := by
  have listed : name ∈ (names.map fun n => (n, f n)).map (·.1) := by
    rw [List.map_map]
    exact List.mem_map.2 ⟨name, mem, rfl⟩
  obtain ⟨value, last⟩ := exists_isLast listed
  obtain ⟨n, -, same⟩ := List.mem_map.1 last.mem
  obtain ⟨rfl, rfl⟩ := Prod.mk.inj same
  exact last

theorem get?_ofList_graph {names : List String} (f : String → α) {name : String}
    (mem : name ∈ names) : (ofList (names.map fun n => (n, f n))).get? name = some (f name) :=
  get?_ofList_of_isLast (isLast_graph mem)

theorem names_ofList_graph (names : List String) (f : String → α) :
    (ofList (names.map fun n => (n, f n))).names = names.eraseDups := by
  rw [names_ofList, List.map_map]
  exact congrArg List.eraseDups (List.map_id names)

/-! ## Entries -/

theorem mem_entries_iff {t : Table α} {name : String} {value : α} :
    (name, value) ∈ t.entries ↔ t.get? name = some value := by
  obtain ⟨entries, distinct⟩ := t
  simp only [get?]
  induction entries with
  | nil => simp
  | cons entry rest ih =>
    rw [List.map_cons, List.nodup_cons] at distinct
    by_cases same : entry.1 = name
    · subst same
      have other : (entry.1, value) ∉ rest := fun mem =>
        distinct.1 (List.mem_map.2 ⟨_, mem, rfl⟩)
      simp [other, Prod.ext_iff, eq_comm]
    · have differ : (name, value) ≠ entry := fun h => same (by rw [← h])
      simp [same, differ, ih distinct.2]

/-- The entries of a table are the last of the listed pairs. -/
theorem mem_ofList_iff {pairs : List (String × α)} {name : String} {value : α} :
    (name, value) ∈ (ofList pairs).entries ↔ IsLast pairs name value := by
  rw [mem_entries_iff]
  constructor
  · intro found
    have listed : name ∈ (ofList pairs).names := List.mem_map_of_mem (mem_entries_iff.2 found)
    rw [names_ofList, List.mem_eraseDups] at listed
    obtain ⟨value', last⟩ := exists_isLast listed
    rw [get?_ofList_of_isLast last] at found
    cases found
    exact last
  · exact get?_ofList_of_isLast

/-- Entries of a table are told by their names. -/
theorem filterMap_get? {t : Table α} {entries : List (String × α)}
    (each : ∀ m ∈ entries, m ∈ t.entries) :
    (entries.map (·.1)).filterMap (fun name => (t.get? name).map fun v => (name, v)) = entries := by
  induction entries with
  | nil => rfl
  | cons m rest ih =>
    obtain ⟨first, others⟩ := List.forall_mem_cons.1 each
    have found : t.get? m.1 = some m.2 := mem_entries_iff.1 first
    rw [List.map_cons, List.filterMap_cons, found, ih others]
    rfl

/-- Entries stand in the order of another table if their names do. -/
theorem sublist_of_names {s t : Table α} (names : s.names.Sublist t.names)
    (each : ∀ m ∈ s.entries, m ∈ t.entries) : s.entries.Sublist t.entries := by
  rw [← filterMap_get? each, ← filterMap_get? (t := t) fun _ mem => mem]
  exact names.filterMap _

/-- A table with the names of another and with its entries is that table. -/
theorem eq_of_names {s t : Table α} (names : s.names = t.names)
    (each : ∀ m ∈ s.entries, m ∈ t.entries) : s = t := by
  have as_many : s.entries.length = t.entries.length := by
    simpa [Table.names] using congrArg List.length names
  have in_order : s.names.Sublist t.names := names ▸ List.Sublist.refl _
  exact Table.ext ((sublist_of_names in_order each).eq_of_length as_many)

end CloudSearch.Table
