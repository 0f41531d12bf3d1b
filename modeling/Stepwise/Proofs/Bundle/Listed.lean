import Stepwise.Proofs.Bundle.Entries

namespace Stepwise.Bundle

/-- The items of a document: a list is one of items, a mapping has them as `scripts`, or has a
    document of them as `default`, and in any other document there are none. -/
inductive Holds : Value → List Value → Prop where
  | list (items : List Value) : Holds (.list items) items
  | scripts {v : Value} {items : List Value} (hscripts : v.field? "scripts" = some (.list items)) :
    Holds v items
  | inner {v inner : Value} {items : List Value}
    (hscripts : ∀ items, v.field? "scripts" ≠ some (.list items))
    (hdefault : v.field? "default" = some inner) (hfull : inner.isTruthy)
    (hinner : Holds inner items) : Holds v items
  | none {v : Value} (hlist : ∀ items, v ≠ .list items)
    (hscripts : ∀ items, v.field? "scripts" ≠ some (.list items))
    (hdefault : ∀ inner, v.field? "default" = some inner → inner.isTruthy = false) : Holds v []

theorem field?_of_not_map {v : Value} (hmap : ∀ entries, v ≠ .map entries) (name : String) :
    v.field? name = none := by
  cases v with
  | map entries => exact absurd rfl (hmap entries)
  | _ => rfl

/-- Every document holds items, if only none. -/
theorem exists_holds (v : Value) : ∃ items, Holds v items := by
  fun_induction ofValue v with
  | case1 items => exact ⟨items, .list items⟩
  | case2 entries items hscripts => exact ⟨items, .scripts hscripts⟩
  | case3 entries inner hdefault hfull hscripts ih =>
    obtain ⟨items, hinner⟩ := ih
    exact ⟨items, .inner hscripts hdefault hfull hinner⟩
  | case4 entries inner hdefault hempty hscripts =>
    refine ⟨[], .none nofun hscripts fun other hother => ?_⟩
    obtain rfl : inner = other := Option.some.inj (hdefault.symm.trans hother)
    simpa using hempty
  | case5 entries hdefault hscripts =>
    refine ⟨[], .none nofun hscripts fun other hother => ?_⟩
    cases hdefault.symm.trans hother
  | case6 v hlist hmap =>
    have hfield := field?_of_not_map (v := v) fun entries heq => hmap entries heq
    exact ⟨[], .none (fun items heq => hlist items heq) (by simp [hfield]) (by simp [hfield])⟩

/-- The scripts of a document are the entries of the items that it holds. -/
theorem ofValue_of_holds {v : Value} {items : List Value} (hv : Holds v items) :
    ofValue v = gather items.zipIdx := by
  fun_induction ofValue v with
  | case1 others =>
    cases hv with
    | list => rfl
    | scripts hscripts => cases hscripts
    | inner _ hdefault => cases hdefault
    | none hlist => exact absurd rfl (hlist others)
  | case2 entries others hscripts =>
    cases hv with
    | scripts hother => cases hscripts.symm.trans hother; rfl
    | inner hno => exact absurd hscripts (hno others)
    | none _ hno => exact absurd hscripts (hno others)
  | case3 entries inner hdefault hfull hno ih =>
    cases hv with
    | scripts hscripts => exact absurd hscripts (hno items)
    | inner _ hother _ hinner => cases hdefault.symm.trans hother; exact ih hinner
    | none _ _ hempty => rw [hempty inner hdefault] at hfull; cases hfull
  | case4 entries inner hdefault hempty hno =>
    cases hv with
    | scripts hscripts => exact absurd hscripts (hno items)
    | inner _ hother hfull => cases hdefault.symm.trans hother; exact absurd hfull hempty
    | none => rfl
  | case5 entries hdefault hno =>
    cases hv with
    | scripts hscripts => exact absurd hscripts (hno items)
    | inner _ hother => cases hdefault.symm.trans hother
    | none => rfl
  | case6 v hlist hmap =>
    have hfield := field?_of_not_map (v := v) fun entries heq => hmap entries heq
    cases hv with
    | list => exact absurd rfl (hlist items)
    | scripts hscripts => cases (hfield _).symm.trans hscripts
    | inner _ hdefault => cases (hfield _).symm.trans hdefault
    | none => rfl

/-- A document is read as the entries of all items that it lists, or fails for the first of them that
    is no entry. -/
theorem ofValue_cases {v : Value} {items : List Value} (hv : Holds v items) :
    (∃ entries, ofValue v = .ok entries ∧ DescribesAll (listed items) entries) ∨
    ∃ fault before index fields after, ofValue v = .error fault ∧
      listed items = before ++ (index, fields) :: after ∧
      (∀ p ∈ before, IsReadable p.1 p.2) ∧ Fails index fields fault := by
  rw [ofValue_of_holds hv]
  exact gather_cases items.zipIdx

/-- A document that is read gives the entries that its items describe. -/
theorem describesAll_of_ofValue {v : Value} {items : List Value} (hv : Holds v items)
    {entries : List Entry} (hread : ofValue v = .ok entries) : DescribesAll (listed items) entries := by
  rcases ofValue_cases hv with ⟨others, hothers, hall⟩ | ⟨fault, _, _, _, _, hfault, -⟩
  · cases hothers.symm.trans hread
    exact hall
  · cases hfault.symm.trans hread

/-- A document lists one entry for each of its items that is a mapping with steps, in order, with
    what the item says, and passes over the others. It does so exactly if each of these items can be
    read; if not, the first that cannot be read fails the whole document. -/
theorem ofValue_lists {v : Value} {items : List Value} (hv : Holds v items) :
    ((∃ entries, ofValue v = .ok entries) ↔
      ∀ index fields, (index, fields) ∈ listed items → IsReadable index fields) ∧
    (∀ entries, ofValue v = .ok entries → DescribesAll (listed items) entries) ∧
    ∀ fault, ofValue v = .error fault → ∃ before index fields after,
      listed items = before ++ (index, fields) :: after ∧
      (∀ p ∈ before, IsReadable p.1 p.2) ∧ Fails index fields fault := by
  rcases ofValue_cases hv with ⟨entries, hread, hall⟩ |
    ⟨fault, before, index, fields, after, hfault, hsplit, hbefore, hfails⟩
  · refine ⟨⟨fun _ index fields hmem => ?_, fun _ => ⟨entries, hread⟩⟩, fun others hothers => ?_,
      fun fault hfault => ?_⟩
    · obtain ⟨entry, -, hentry⟩ := hall.exists_of_mem hmem
      exact exists_describes_iff.1 ⟨entry, hentry⟩
    · cases hread.symm.trans hothers
      exact hall
    · cases hread.symm.trans hfault
  · have hmem : (index, fields) ∈ listed items := by
      rw [hsplit]
      exact List.mem_append_right _ List.mem_cons_self
    refine ⟨⟨?_, fun hreadable => ?_⟩, fun entries hread => ?_, fun other hother => ?_⟩
    · rintro ⟨entries, hread⟩
      cases hfault.symm.trans hread
    · exact absurd (hreadable index fields hmem) hfails.not_isReadable
    · cases hfault.symm.trans hread
    · cases hfault.symm.trans hother
      exact ⟨before, index, fields, after, hsplit, hbefore, hfails⟩

/-- A document of items, two of which are passed over, inside another one. -/
def gallery : Value :=
  .ofFields [("default", .ofFields [("scripts", .list [
    .text "notes",
    .ofFields [("id", .text "hello"), ("start", .null), ("steps", .list [byeStep])],
    .ofFields [("id", .text "blank"), ("steps", .list [])],
    .ofFields [("name", .text "Tour"), ("version", .text "2"), ("steps", .list [.text "odd"])],
    .ofFields [("steps", .list [byeStep])]])])]

theorem ofValue_lists_gallery : ∃ items, Holds gallery items ∧
    (listed items).map Prod.fst = [1, 3, 4] ∧
    ∃ entries, ofValue gallery = .ok entries ∧ DescribesAll (listed items) entries := by
  have hholds : Holds gallery _ := .inner (fun _ => nofun) rfl rfl (.scripts rfl)
  obtain ⟨hreads, hdescribes, -⟩ := ofValue_lists hholds
  refine ⟨_, hholds, rfl, ?_⟩
  obtain ⟨entries, hentries⟩ : ∃ entries, ofValue gallery = .ok entries := by
    refine hreads.2 fun index fields hmem => exists_describes_iff.1 ?_
    rcases hmem with _ | ⟨_, _ | ⟨_, _ | ⟨_, hmem⟩⟩⟩
    · exact ⟨⟨"hello", "hello", none, none, none, [byeStep]⟩, by decide, rfl, rfl, rfl, rfl, rfl, rfl⟩
    · exact ⟨⟨"Tour", "Tour", none, some (.text "2"), none, [.text "odd"]⟩, by decide, rfl, rfl, rfl,
        rfl, rfl, rfl⟩
    · exact ⟨⟨"script-4", "script-4", none, none, none, [byeStep]⟩, by decide, rfl, rfl, rfl, rfl, rfl,
        rfl⟩
    · cases hmem
  exact ⟨entries, hentries, hdescribes entries hentries⟩

/-- An item whose start is a number hides the one before it: both are mappings with steps, but
    there are no entries at all. -/
theorem odd_item_hides_bundle : ∃ items, Holds (.list items) items ∧
    (listed items).map Prod.fst = [0, 1] ∧
    ofValue (.list items) = .error (.badEntry [⟨[.name "start"], .notText⟩]) := by
  refine ⟨[.ofFields [("id", .text "fine"), ("steps", .list [byeStep])],
    .ofFields [("id", .text "odd"), ("start", .int 5), ("steps", .list [byeStep])]], .list _, rfl, ?_⟩
  rw [ofValue_of_holds (.list _)]
  rfl

end Stepwise.Bundle
