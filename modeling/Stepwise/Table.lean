namespace Stepwise

/-- Entries by name, in the order in which the names were first set. Each name occurs once. -/
structure Table (α : Type) where
  entries : List (String × α)
  nodup : (entries.map Prod.fst).Nodup
deriving DecidableEq

namespace Table

variable {α β : Type}

def empty : Table α := ⟨[], List.nodup_nil⟩

instance : Inhabited (Table α) := ⟨empty⟩

def get? (t : Table α) (name : String) : Option α :=
  t.entries.lookup name

def names (t : Table α) : List String :=
  t.entries.map Prod.fst

/-- The entries with one of them set: in its place if there is one of this name, and else last. -/
def setEntry (name : String) (a : α) : List (String × α) → List (String × α)
  | [] => [(name, a)]
  | (n, old) :: rest => if n = name then (n, a) :: rest else (n, old) :: setEntry name a rest

theorem names_setEntry (name : String) (a : α) (entries : List (String × α)) :
    (setEntry name a entries).map Prod.fst =
      if name ∈ entries.map Prod.fst then entries.map Prod.fst
      else entries.map Prod.fst ++ [name] := by
  induction entries with
  | nil => simp [setEntry]
  | cons entry rest ih =>
    obtain ⟨n, old⟩ := entry
    by_cases hn : n = name
    · simp [setEntry, hn]
    · simp only [setEntry, hn, if_false, List.map_cons, ih, List.mem_cons, Ne.symm hn, false_or]
      split <;> simp

theorem nodup_setEntry (name : String) (a : α) {entries : List (String × α)}
    (hnodup : (entries.map Prod.fst).Nodup) : ((setEntry name a entries).map Prod.fst).Nodup := by
  rw [names_setEntry]
  split
  · exact hnodup
  · rename_i hnew
    refine List.nodup_append.2 ⟨hnodup, by simp, ?_⟩
    intro n hn m hm heq
    rw [List.mem_singleton.1 hm] at heq
    exact hnew (heq ▸ hn)

/-- Sets an entry; a name that the table has keeps its place. -/
def insert (t : Table α) (name : String) (a : α) : Table α :=
  ⟨setEntry name a t.entries, nodup_setEntry name a t.nodup⟩

def erase (t : Table α) (name : String) : Table α where
  entries := t.entries.filter (·.1 != name)
  nodup := t.nodup.sublist (List.filter_sublist.map Prod.fst)

/-- Sets entries one after the other. -/
def insertAll (t : Table α) (entries : List (String × α)) : Table α :=
  entries.foldl (fun done (name, a) => done.insert name a) t

/-- The entries of `t` overlaid by those of `other`. -/
def overlay (t other : Table α) : Table α :=
  t.insertAll other.entries

def ofList (entries : List (String × α)) : Table α :=
  empty.insertAll entries

def map (f : α → β) (t : Table α) : Table β where
  entries := t.entries.map fun (name, a) => (name, f a)
  nodup := by simpa [Function.comp_def] using t.nodup

@[simp]
theorem get?_empty (name : String) : (empty : Table α).get? name = none := rfl

theorem get?_insert (t : Table α) (name other : String) (a : α) :
    (t.insert name a).get? other = if other = name then some a else t.get? other := by
  obtain ⟨entries, nodup⟩ := t
  simp only [insert, get?]
  clear nodup
  induction entries with
  | nil =>
    by_cases h : other = name
    · simp [setEntry, h]
    · simp [setEntry, List.lookup_cons, h, beq_false_of_ne h]
  | cons entry rest ih =>
    obtain ⟨n, old⟩ := entry
    by_cases ho : other = n
    · subst ho
      by_cases hn : other = name <;> simp [setEntry, hn]
    · by_cases hn : n = name
      · subst hn
        simp [setEntry, List.lookup_cons, ho, beq_false_of_ne ho]
      · simp [setEntry, hn, List.lookup_cons, beq_false_of_ne ho, ih]

end Table

end Stepwise
