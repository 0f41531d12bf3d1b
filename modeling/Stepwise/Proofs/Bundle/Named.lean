import Mathlib.Data.List.Nodup
import Stepwise.Proofs.Bundle.Listed
import Stepwise.Session.Basic

namespace Stepwise.Bundle

open Record

/-- The text that an item is called by, if it is called anything. -/
def givenId? (fields : List (Value × Value)) : Option String :=
  if (givenOf fields).isTruthy then
    match text (givenOf fields) with
    | .ok id => some id
    | .bad _ => none
  else none

variable {index : Nat} {fields : List (Value × Value)} {entry : Entry}
  {items : List (Nat × List (Value × Value))} {entries : List Entry}

/-- An entry has the id that its item is called by, or else the one of its place. -/
theorem Describes.id_eq (hentry : Describes index fields entry) :
    entry.id = (givenId? fields).getD (placeId index) := by
  have hid := hentry.id
  unfold idOf orElse at hid
  unfold givenId?
  split at hid
  · next hgiven => rw [if_pos hgiven, hid, Option.getD_some]
  · next hgiven =>
    rw [if_neg hgiven]
    exact (Decoded.ok.inj hid).symm

theorem DescribesAll.ids_eq (hall : DescribesAll items entries) :
    entries.map Entry.id = items.map fun item => (givenId? item.2).getD (placeId item.1) := by
  induction hall with
  | nil => rfl
  | cons hfirst _ ih => rw [List.map_cons, List.map_cons, ih, hfirst.id_eq]

/-- Different places have different ids, as the digits of a number tell it. -/
theorem placeId_injective : Function.Injective placeId := by
  have hdigits : Function.LeftInverse (Nat.ofDigitChars 10 · 0) (Nat.toDigits 10) :=
    fun _ => Nat.ofDigitChars_ten_toDigits
  intro i j hsame
  have htext : toString i = toString j := (String.append_right_inj "script-").1 hsame
  rw [Nat.toString_eq_ofList_toDigits, Nat.toString_eq_ofList_toDigits] at htext
  exact hdigits.injective (String.ofList_injective htext)

theorem mem_map_getD_iff {α : Type} {given : α → Option String} {place : α → String} {xs : List α}
    {id : String} : id ∈ xs.map (fun x => (given x).getD (place x)) ↔
      id ∈ xs.filterMap given ∨ ∃ x ∈ xs, given x = none ∧ place x = id := by
  induction xs with
  | nil => simp
  | cons x rest ih =>
    cases hgiven : given x with
    | none => simp [hgiven, ih, eq_comm, or_left_comm]
    | some name => simp [hgiven, ih, or_assoc]

/-- Ids that are given or else come from the place differ exactly if those that are given do, and
    none of them is that of a place at which none is given. -/
theorem nodup_map_getD_iff {α : Type} {given : α → Option String} {place : α → String}
    {xs : List α} (hplaces : (xs.map place).Nodup) :
    (xs.map fun x => (given x).getD (place x)).Nodup ↔ (xs.filterMap given).Nodup ∧
      ∀ x ∈ xs, given x = none → place x ∉ xs.filterMap given := by
  induction xs with
  | nil => simp
  | cons x rest ih =>
    obtain ⟨hplace, hrest⟩ := List.nodup_cons.1 hplaces
    rw [List.map_cons, List.nodup_cons, ih hrest, mem_map_getD_iff]
    cases hgiven : given x with
    | none =>
      -- The first place is no other place, so that its id can only be one that is given.
      have hother : ¬∃ y ∈ rest, given y = none ∧ place y = place x := by
        rintro ⟨y, hy, -, hsame⟩
        exact hplace (hsame ▸ List.mem_map_of_mem hy)
      rw [Option.getD_none, List.filterMap_cons_none hgiven, List.forall_mem_cons, or_iff_left hother]
      constructor
      · rintro ⟨hnew, hnodup, hrest⟩
        exact ⟨hnodup, fun _ => hnew, hrest⟩
      · rintro ⟨hnodup, hnew, hrest⟩
        exact ⟨hnew hgiven, hnodup, hrest⟩
    | some name =>
      rw [Option.getD_some, List.filterMap_cons_some hgiven, List.nodup_cons, List.forall_mem_cons,
        not_or]
      constructor
      · rintro ⟨⟨hnew, hother⟩, hnodup, hrest⟩
        refine ⟨⟨hnew, hnodup⟩, fun hnone => ?_, fun y hy hnone hmem => ?_⟩
        · cases hgiven.symm.trans hnone
        · rcases List.mem_cons.1 hmem with hsame | hmem
          · exact hother ⟨y, hy, hnone, hsame⟩
          · exact hrest y hy hnone hmem
      · rintro ⟨⟨hnew, hnodup⟩, -, hrest⟩
        refine ⟨⟨hnew, ?_⟩, hnodup, fun y hy hnone hmem => ?_⟩
        · rintro ⟨y, hy, hnone, hsame⟩
          exact hrest y hy hnone (hsame ▸ List.mem_cons_self)
        · exact hrest y hy hnone (List.mem_cons_of_mem _ hmem)

/-- No two items are listed at the same place. -/
theorem nodup_places (items : List Value) : ((listed items).map Prod.fst).Nodup := by
  have hplaces : items.zipIdx.Pairwise fun pair other => pair.2 ≠ other.2 := by
    have hnodup : (items.zipIdx.map Prod.snd).Nodup := by
      rw [List.zipIdx_map_snd]
      exact List.nodup_range'
    exact List.pairwise_map.1 hnodup
  refine List.pairwise_map.2 (hplaces.filterMap listing? ?_)
  rintro ⟨item, index⟩ ⟨other, index'⟩ hdiffer ⟨place, fields⟩ hitem ⟨place', fields'⟩ hother
  obtain ⟨rfl, -⟩ := listing?_eq_some_iff.1 hitem
  obtain ⟨rfl, -⟩ := listing?_eq_some_iff.1 hother
  exact hdiffer

/-- The entries of a bundle have different ids exactly if the items are called by different texts,
    and none by the id of a place whose item is not called anything. -/
theorem DescribesAll.nodup_ids_iff {items : List Value} (hall : DescribesAll (listed items) entries) :
    (entries.map Entry.id).Nodup ↔
      ((listed items).filterMap fun item => givenId? item.2).Nodup ∧
      ∀ item ∈ listed items, givenId? item.2 = none →
        placeId item.1 ∉ (listed items).filterMap fun item => givenId? item.2 := by
  have hplaces : ((listed items).map fun item => placeId item.1).Nodup := by
    have hmap := List.Nodup.map placeId_injective (nodup_places items)
    rwa [List.map_map] at hmap
  rw [hall.ids_eq]
  exact nodup_map_getD_iff hplaces

variable {σ : Type} {c : Session.Setup σ}

/-- A session finds the first of its scripts that has an id, if one has it. -/
theorem script?_of_mem {id : String} (hmem : id ∈ c.scripts.map Entry.id) :
    ∃ before found after, c.scripts = before ++ found :: after ∧ found.id = id ∧
      id ∉ before.map Entry.id ∧ c.script? (some id) = some found := by
  obtain ⟨entry, hentry, rfl⟩ := List.mem_map.1 hmem
  have hsome : (c.scripts.find? fun other => some other.id = some entry.id).isSome :=
    List.find?_isSome.2 ⟨entry, hentry, by simp⟩
  obtain ⟨found, hfound⟩ := Option.isSome_iff_exists.1 hsome
  obtain ⟨hid, before, after, hsplit, hbefore⟩ := List.find?_eq_some_iff_append.1 hfound
  refine ⟨before, found, after, hsplit, by simpa using hid, ?_, ?_⟩
  · intro hagain
    obtain ⟨other, hother, hsame⟩ := List.mem_map.1 hagain
    simpa [hsame] using hbefore other hother
  · rw [Session.Setup.script?, hfound]
    rfl

/-- If no two scripts of a session have the same id, each is found by its own. -/
theorem script?_of_nodup (hnodup : (c.scripts.map Entry.id).Nodup) (hentry : entry ∈ c.scripts) :
    c.script? (some entry.id) = some entry := by
  obtain ⟨before, found, after, hsplit, hid, -, hfound⟩ :=
    script?_of_mem (List.mem_map_of_mem (f := Entry.id) hentry)
  have hmem : found ∈ c.scripts := hsplit ▸ List.mem_append_right _ List.mem_cons_self
  rw [hfound, List.inj_on_of_nodup_map hnodup hmem hentry hid]

/-- The scripts of a session that come from a document are each found by their own id exactly as far
    as no earlier one has it. None has it if the items of the document are called by different texts,
    and none by the id of a place whose item is not called anything; otherwise two ids agree. -/
theorem script?_finds {v : Value} {items : List Value} (hv : Holds v items)
    (hscripts : ofValue v = .ok c.scripts) :
    ((c.scripts.map Entry.id).Nodup ↔
      ((listed items).filterMap fun item => givenId? item.2).Nodup ∧
      ∀ item ∈ listed items, givenId? item.2 = none →
        placeId item.1 ∉ (listed items).filterMap fun item => givenId? item.2) ∧
    ((c.scripts.map Entry.id).Nodup →
      ∀ entry ∈ c.scripts, c.script? (some entry.id) = some entry) ∧
    ∀ entry ∈ c.scripts, ∃ before found after, c.scripts = before ++ found :: after ∧
      found.id = entry.id ∧ entry.id ∉ before.map Entry.id ∧
      c.script? (some entry.id) = some found := by
  have hall := describesAll_of_ofValue hv hscripts
  exact ⟨hall.nodup_ids_iff, fun hnodup _ hentry => script?_of_nodup hnodup hentry,
    fun _ hentry => script?_of_mem (List.mem_map_of_mem hentry)⟩

/-- A session that offers these scripts, on a host that knows of no run. -/
def offering (scripts : List Entry) : Session.Setup Unit where
  scripts := scripts
  workspace := none
  limit := 10
  defers := false
  now := 0
  moment := ⟨2024, 1, 1, none⟩
  host := ⟨fun _ => .ok none, fun _ _ => .ok (), fun _ _ => (false, ()), fun _ _ => (false, ()),
    fun _ _ _ => (.ok ⟨0, none, none⟩, ())⟩

/-- Three scripts, which are called by an id, by a name and by nothing. -/
def trio : Value :=
  .list [.ofFields [("id", .text "hello"), ("name", .text "Tour"), ("steps", .list [byeStep])],
    .ofFields [("name", .text "Tour"), ("steps", .list [byeStep])],
    .ofFields [("steps", .list [byeStep])]]

def trioEntries : List Entry :=
  [⟨"hello", "Tour", none, none, none, [byeStep]⟩, ⟨"Tour", "Tour", none, none, none, [byeStep]⟩,
    ⟨"script-2", "script-2", none, none, none, [byeStep]⟩]

theorem script?_finds_trio : ofValue trio = .ok trioEntries ∧
    (trioEntries.map Entry.id).Nodup ∧
    ∀ entry ∈ trioEntries, (offering trioEntries).script? (some entry.id) = some entry := by
  have hread : ofValue trio = .ok trioEntries := by
    rw [trio, ofValue_of_holds (.list _)]
    rfl
  obtain ⟨hnodup, hfound, -⟩ := script?_finds (c := offering trioEntries) (.list _) hread
  have hdistinct : (trioEntries.map Entry.id).Nodup := hnodup.2 ⟨by decide, by decide⟩
  exact ⟨hread, hdistinct, hfound hdistinct⟩

/-- Two scripts, the second of which is called what the first is by its place. -/
def doubles : Value :=
  .list [.ofFields [("steps", .list [byeStep])],
    .ofFields [("id", .text "script-0"), ("name", .text "Named"), ("steps", .list [byeStep])]]

def doublesEntries : List Entry :=
  [⟨"script-0", "script-0", none, none, none, [byeStep]⟩,
    ⟨"script-0", "Named", none, none, none, [byeStep]⟩]

/-- Of two scripts with the same id, the second is not found by it. -/
theorem place_hides_id : ofValue doubles = .ok doublesEntries ∧
    ¬ (doublesEntries.map Entry.id).Nodup ∧
    ((offering doublesEntries).script? (some "script-0")).map Entry.name = some "script-0" := by
  refine ⟨?_, by decide, rfl⟩
  rw [doubles, ofValue_of_holds (.list _)]
  rfl

end Stepwise.Bundle
