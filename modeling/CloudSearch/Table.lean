/-!
# Tables in order of insertion

A table maps distinct names to values and keeps the order in which the names were first
inserted; inserting a name again replaces its value in place.
-/

namespace CloudSearch

/-- Names with their values, each name once. -/
structure Table (α : Type) where
  entries : List (String × α)
  nodup : (entries.map (·.1)).Nodup

namespace Table

variable {α β : Type}

@[ext] theorem ext {s t : Table α} (h : s.entries = t.entries) : s = t := by
  cases s; cases t; simp_all

/-- The entries with the value of `name` replaced in place, or with a new entry at the end. -/
def place (name : String) (value : α) : List (String × α) → List (String × α)
  | [] => [(name, value)]
  | (n, v) :: rest => if n = name then (n, value) :: rest else (n, v) :: place name value rest

theorem names_place (name : String) (value : α) (entries : List (String × α)) :
    (place name value entries).map (·.1) =
      if name ∈ entries.map (·.1) then entries.map (·.1) else entries.map (·.1) ++ [name] := by
  induction entries with
  | nil => simp [place]
  | cons e rest ih =>
    by_cases h : e.1 = name
    · simp [place, h]
    · have h' : ¬ name = e.1 := fun x => h x.symm
      simp only [place, h, if_false, List.map_cons, ih, List.mem_cons, h', false_or]
      split <;> simp

theorem nodup_place {entries : List (String × α)} (h : (entries.map (·.1)).Nodup) (name : String)
    (value : α) : ((place name value entries).map (·.1)).Nodup := by
  rw [names_place]
  split
  · exact h
  · next hn => exact List.nodup_append.2 ⟨h, by simp, fun a ha b hb => by simp_all; grind⟩

/-- The table without entries. -/
def empty : Table α :=
  ⟨[], List.nodup_nil⟩

/-- The table with `name` set to `value`. -/
def insert (t : Table α) (name : String) (value : α) : Table α :=
  ⟨place name value t.entries, nodup_place t.nodup name value⟩

/-- The table of the given pairs, inserted one after the other. -/
def ofList (pairs : List (String × α)) : Table α :=
  pairs.foldl (fun t p => t.insert p.1 p.2) empty

/-- The names in their order. -/
def names (t : Table α) : List String :=
  t.entries.map (·.1)

/-- The value of `name`. -/
def get? (t : Table α) (name : String) : Option α :=
  (t.entries.find? (·.1 == name)).map (·.2)

/-- The number of entries. -/
def size (t : Table α) : Nat :=
  t.entries.length

theorem names_insert (t : Table α) (name : String) (value : α) :
    (t.insert name value).names = if name ∈ t.names then t.names else t.names ++ [name] :=
  names_place name value t.entries

end Table

end CloudSearch
