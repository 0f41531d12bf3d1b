import Stepwise.Table

namespace Stepwise.Table

variable {α β : Type}

theorem setEntry_of_notMem {name : String} (a : α) {entries : List (String × α)}
    (hnew : name ∉ entries.map Prod.fst) : setEntry name a entries = entries ++ [(name, a)] := by
  induction entries with
  | nil => rfl
  | cons entry rest ih =>
    simp only [List.map_cons, List.mem_cons, not_or] at hnew
    rw [setEntry, if_neg (Ne.symm hnew.1), ih hnew.2, List.cons_append]

theorem setEntry_map (f : α → β) (name : String) (a : α) (entries : List (String × α)) :
    setEntry name (f a) (entries.map fun e => (e.1, f e.2)) =
      (setEntry name a entries).map fun e => (e.1, f e.2) := by
  induction entries with
  | nil => rfl
  | cons entry rest ih =>
    simp only [List.map_cons, setEntry]
    split
    · rfl
    · rw [ih, List.map_cons]

@[ext]
theorem ext {t u : Table α} (hentries : t.entries = u.entries) : t = u := by
  obtain ⟨entries, _⟩ := t
  obtain rfl : entries = u.entries := hentries
  rfl

theorem map_insert (f : α → β) (t : Table α) (name : String) (a : α) :
    (t.insert name a).map f = (t.map f).insert name (f a) :=
  ext (setEntry_map f name a t.entries).symm

theorem get?_map (f : α → β) (t : Table α) (name : String) :
    (t.map f).get? name = (t.get? name).map f := by
  obtain ⟨entries, nodup⟩ := t
  simp only [map, get?]
  clear nodup
  induction entries with
  | nil => rfl
  | cons entry rest ih =>
    rw [List.map_cons, List.lookup_cons, List.lookup_cons]
    split
    · rfl
    · exact ih

/-- New entries are set behind those that are there. -/
theorem entries_insertAll {t : Table α} {entries : List (String × α)}
    (hnodup : ((t.entries ++ entries).map Prod.fst).Nodup) :
    (t.insertAll entries).entries = t.entries ++ entries := by
  induction entries generalizing t with
  | nil => simp [insertAll]
  | cons entry rest ih =>
    obtain ⟨name, a⟩ := entry
    have hnew : name ∉ t.entries.map Prod.fst := by
      simp only [List.map_append, List.map_cons] at hnodup
      exact fun hmem => (List.nodup_append.1 hnodup).2.2 name hmem name List.mem_cons_self rfl
    have hset : (t.insert name a).entries = t.entries ++ [(name, a)] := setEntry_of_notMem a hnew
    have hrest := ih (t := t.insert name a) (by rw [hset]; simpa using hnodup)
    rw [hset, List.append_assoc] at hrest
    exact hrest

theorem ofList_entries (t : Table α) : ofList t.entries = t :=
  ext (entries_insertAll (t := empty) (by simpa [empty] using t.nodup))

theorem get?_of_mem {t : Table α} {name : String} {a : α} (hmem : (name, a) ∈ t.entries) :
    t.get? name = some a := by
  obtain ⟨entries, hnodup⟩ := t
  simp only [get?] at hmem ⊢
  induction entries with
  | nil => cases hmem
  | cons entry rest ih =>
    obtain ⟨n, old⟩ := entry
    rw [List.map_cons, List.nodup_cons] at hnodup
    rcases List.mem_cons.1 hmem with heq | hrest
    · cases heq
      simp
    · have hne : name ≠ n := by
        rintro rfl
        exact hnodup.1 (List.mem_map.2 ⟨_, hrest, rfl⟩)
      rw [List.lookup_cons, beq_false_of_ne hne]
      exact ih hnodup.2 hrest

theorem mem_of_get? {t : Table α} {name : String} {a : α} (hget : t.get? name = some a) :
    (name, a) ∈ t.entries := by
  obtain ⟨before, after, hentries, _⟩ := List.lookup_eq_some_iff.1 hget
  rw [hentries]
  exact List.mem_append_right _ List.mem_cons_self

theorem get?_erase (t : Table α) (name other : String) :
    (t.erase name).get? other = if other = name then none else t.get? other := by
  obtain ⟨entries, hnodup⟩ := t
  simp only [erase, get?]
  clear hnodup
  induction entries with
  | nil => simp
  | cons entry rest ih =>
    obtain ⟨n, old⟩ := entry
    by_cases hn : n = name
    · subst hn
      rw [List.filter_cons_of_neg (by simp), ih]
      by_cases ho : other = n
      · rw [if_pos ho, if_pos ho]
      · rw [if_neg ho, if_neg ho, List.lookup_cons, beq_false_of_ne ho]
    · rw [List.filter_cons_of_pos (by simpa using hn), List.lookup_cons, List.lookup_cons]
      by_cases ho : other = n
      · subst ho
        simp [hn]
      · rw [beq_false_of_ne ho, ih]

/-- Setting an entry that is there already changes nothing. -/
theorem insert_of_get? {t : Table α} {name : String} {a : α} (hget : t.get? name = some a) :
    t.insert name a = t := by
  obtain ⟨entries, hnodup⟩ := t
  apply ext
  simp only [get?, insert] at hget ⊢
  clear hnodup
  induction entries with
  | nil => cases hget
  | cons entry rest ih =>
    obtain ⟨n, old⟩ := entry
    by_cases hn : n = name
    · subst hn
      simp only [List.lookup_cons, beq_self_eq_true, Option.some.injEq] at hget
      rw [setEntry, if_pos rfl, hget]
    · rw [List.lookup_cons, beq_false_of_ne (Ne.symm hn)] at hget
      rw [setEntry, if_neg hn, ih hget]

theorem insertAll_cons (t : Table α) (entry : String × α) (rest : List (String × α)) :
    t.insertAll (entry :: rest) = (t.insert entry.1 entry.2).insertAll rest := rfl

theorem insertAll_of_get? {t : Table α} {entries : List (String × α)}
    (hget : ∀ e ∈ entries, t.get? e.1 = some e.2) : t.insertAll entries = t := by
  induction entries with
  | nil => rfl
  | cons entry rest ih =>
    have hentry : t.insert entry.1 entry.2 = t := insert_of_get? (hget entry List.mem_cons_self)
    have hrest := ih fun e he => hget e (List.mem_cons_of_mem _ he)
    rw [insertAll_cons, hentry, hrest]

theorem overlay_self (t : Table α) : t.overlay t = t :=
  insertAll_of_get? fun _ he => get?_of_mem he

theorem insertAll_map (f : α → β) (t : Table α) (entries : List (String × α)) :
    (t.insertAll entries).map f = (t.map f).insertAll (entries.map fun e => (e.1, f e.2)) := by
  induction entries generalizing t with
  | nil => rfl
  | cons entry rest ih =>
    rw [insertAll_cons, ih, map_insert, List.map_cons, insertAll_cons]

theorem overlay_map (f : α → β) (t other : Table α) :
    (t.overlay other).map f = (t.map f).overlay (other.map f) :=
  insertAll_map f t other.entries

theorem insert_insert (t : Table α) (name : String) (a b : α) :
    (t.insert name a).insert name b = t.insert name b := by
  obtain ⟨entries, hnodup⟩ := t
  apply ext
  simp only [insert]
  clear hnodup
  induction entries with
  | nil => simp [setEntry]
  | cons entry rest ih =>
    obtain ⟨n, old⟩ := entry
    by_cases hn : n = name <;> simp [setEntry, hn, ih]

/-- Entries of different names can be set in any order if one of them has its place already. -/
theorem insert_comm {t : Table α} {name other : String} (a b : α) (hne : name ≠ other)
    (hmem : name ∈ t.names) :
    (t.insert other b).insert name a = (t.insert name a).insert other b := by
  obtain ⟨entries, hnodup⟩ := t
  apply ext
  simp only [insert, names] at hmem ⊢
  clear hnodup
  induction entries with
  | nil => cases hmem
  | cons entry rest ih =>
    obtain ⟨n, old⟩ := entry
    by_cases hn : n = name
    · subst hn
      simp [setEntry, hne]
    · have hrest : name ∈ rest.map Prod.fst := by
        simpa [Ne.symm hn] using hmem
      by_cases ho : n = other
      · subst ho
        simp [setEntry, hn]
      · simp [setEntry, hn, ho, ih hrest]

theorem mem_names_insert {t : Table α} {name other : String} {a : α} :
    other ∈ (t.insert name a).names ↔ other = name ∨ other ∈ t.names := by
  simp only [names, insert, names_setEntry]
  split
  · constructor
    · exact .inr
    · rintro (rfl | hmem) <;> assumption
  · simp [or_comm]

theorem mem_names_iff {t : Table α} {name : String} :
    name ∈ t.names ↔ ∃ a, t.get? name = some a := by
  constructor
  · intro hmem
    obtain ⟨⟨_, a⟩, hentry, rfl⟩ := List.mem_map.1 hmem
    exact ⟨a, get?_of_mem hentry⟩
  · rintro ⟨a, hget⟩
    refine Classical.byContradiction fun hnew => ?_
    have hnone : t.get? name = none := by
      refine List.lookup_eq_none_iff.2 fun entry hentry => ?_
      have hne : name ≠ entry.1 := fun heq => hnew (List.mem_map.2 ⟨entry, hentry, heq.symm⟩)
      simpa using hne
    rw [hnone] at hget
    cases hget

theorem mem_names_insertAll {t : Table α} {entries : List (String × α)} {name : String} :
    name ∈ (t.insertAll entries).names ↔ name ∈ t.names ∨ name ∈ entries.map Prod.fst := by
  induction entries generalizing t with
  | nil => simp [insertAll]
  | cons entry rest ih =>
    rw [insertAll_cons, ih, mem_names_insert, List.map_cons, List.mem_cons, ← or_assoc,
      or_comm (a := name ∈ t.names)]

theorem insert_insertAll {t : Table α} {name : String} {entries : List (String × α)} (a : α)
    (hmem : name ∈ t.names) (hnew : name ∉ entries.map Prod.fst) :
    (t.insertAll entries).insert name a = (t.insert name a).insertAll entries := by
  induction entries generalizing t with
  | nil => rfl
  | cons entry rest ih =>
    obtain ⟨n, b⟩ := entry
    simp only [List.map_cons, List.mem_cons, not_or] at hnew
    have hrest := ih (t := t.insert n b) (mem_names_insert.2 (.inr hmem)) hnew.2
    rw [insert_comm a b hnew.1 hmem] at hrest
    exact hrest

/-- Entries that are laid over others can be set before or after. -/
theorem overlay_insert (t other : Table α) (name : String) (a : α) :
    t.overlay (other.insert name a) = (t.overlay other).insert name a := by
  obtain ⟨entries, hnodup⟩ := other
  simp only [overlay, insert]
  induction entries generalizing t with
  | nil => rfl
  | cons entry rest ih =>
    obtain ⟨n, old⟩ := entry
    rw [List.map_cons, List.nodup_cons] at hnodup
    by_cases hn : n = name
    · subst hn
      have hrest := insert_insertAll (t := t.insert n old) a
        (mem_names_insert.2 (.inl rfl)) hnodup.1
      rw [insert_insert] at hrest
      rw [setEntry, if_pos rfl]
      exact hrest.symm
    · rw [setEntry, if_neg hn]
      exact ih (t.insert n old) hnodup.2

/-- If a name is never given two values, it has the one that it is given. -/
theorem get?_insertAll {t : Table α} {entries : List (String × α)} {name : String} {a : α}
    (hmem : (name, a) ∈ entries ∨ t.get? name = some a)
    (hsame : ∀ b, (name, b) ∈ entries → b = a) : (t.insertAll entries).get? name = some a := by
  induction entries generalizing t with
  | nil => exact hmem.resolve_left nofun
  | cons entry rest ih =>
    obtain ⟨n, b⟩ := entry
    refine ih (t := t.insert n b) ?_ fun b hb => hsame b (List.mem_cons_of_mem _ hb)
    rw [get?_insert]
    by_cases hn : name = n
    · subst hn
      rw [if_pos rfl, hsame b List.mem_cons_self]
      exact .inr rfl
    · rw [if_neg hn]
      exact hmem.imp_left fun hmem => (List.mem_cons.1 hmem).resolve_left (by simp [hn])

theorem get?_ofList {entries : List (String × α)} {name : String} {a : α}
    (hmem : (name, a) ∈ entries) (hsame : ∀ b, (name, b) ∈ entries → b = a) :
    (ofList entries).get? name = some a :=
  get?_insertAll (.inl hmem) hsame

end Stepwise.Table
