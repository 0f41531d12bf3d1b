import Stepwise.Proofs.Record.Fields
import Stepwise.Proofs.Table
import Stepwise.Proofs.Value.Alike
import Stepwise.Store.SavedRun

namespace Stepwise

open Record Value

theorem Value.lookup_of_alike {fields : List (String × Value)} {entries : List (Value × Value)}
    (name : String) (h : Alike (.ofFields fields) (.map entries)) {v : Value}
    (hlookup : fields.lookup name = some v) : ∃ w, lookup name entries = some w ∧ Alike v w :=
  h.lookup ((lookup_ofFields name fields).trans hlookup)

namespace Record

variable {α : Type} {entries : List (Value × Value)} {name : String} {others : List String}
  {read : Value → Decoded α} {v : Value} {a : α}

theorem required_of_lookup (hlookup : lookup name entries = some v) (hread : read v = .ok a) :
    required entries name others read = .ok a := by
  rw [required_eq_under hlookup, hread, Decoded.under]

theorem optional_of_lookup {whenMissing : α} (hlookup : lookup name entries = some v)
    (hread : read v = .ok a) : optional entries name others whenMissing read = .ok a := by
  rw [optional_eq_under hlookup, hread, Decoded.under]

/-- A mapping of texts to texts is read entry by entry. -/
theorem textMap_map (pairs : List (String × String)) :
    textMap (.map (pairs.map fun (name, s) => (.text name, .text s))) = .ok pairs := by
  induction pairs with
  | nil => rfl
  | cons pair rest ih =>
    change Decoded.ap (.ok (List.cons pair)) (textMap (.map (rest.map _))) = .ok (pair :: rest)
    rw [ih]
    rfl

end Record

namespace SavedRun

theorem nullable_of_alike {o : Option String} {v : Value} (h : Alike (.ofText? o) v) :
    nullable text v = .ok o := by
  cases o with
  | none =>
    cases h
    rfl
  | some s =>
    cases h
    rfl

/-- The two runs agree in every field; in a table the order of the names does not count. -/
structure Same (a b : SavedRun) : Prop where
  scriptId : a.scriptId = b.scriptId
  answers : ∀ name, a.answers.get? name = b.answers.get? name
  vars : ∀ name, a.vars.get? name = b.vars.get? name
  lastStatus : a.lastStatus = b.lastStatus
  lastMessage : a.lastMessage = b.lastMessage
  updatedAt : a.updatedAt = b.updatedAt

private theorem exists_eq_map {α β : Type} {f : α → β} {ys : List β} (h : ∀ y ∈ ys, ∃ a, y = f a) :
    ∃ xs : List α, ys = xs.map f := by
  induction ys with
  | nil => exact ⟨[], rfl⟩
  | cons y rest ih =>
    obtain ⟨a, rfl⟩ := h y List.mem_cons_self
    obtain ⟨xs, rfl⟩ := ih fun z hz => h z (List.mem_cons_of_mem _ hz)
    exact ⟨a :: xs, rfl⟩

theorem mem_tableValue_iff {t : Table String} {xs : List (Value × Value)}
    (hxs : tableValue t = .map xs) {k v : Value} :
    (k, v) ∈ xs ↔ ∃ name s, (name, s) ∈ t.entries ∧ k = .text name ∧ v = .text s := by
  cases hxs
  simp [Table.map]
  grind

/-- A table is read from what is alike to its value, up to the order of its names. -/
theorem table_of_alike {t : Table String} {v : Value} (h : Alike (tableValue t) v) :
    ∃ u, decode.table v = .ok u ∧ ∀ name, t.get? name = u.get? name := by
  obtain ⟨xs, hxs⟩ : ∃ xs, tableValue t = .map xs := ⟨_, rfl⟩
  obtain ⟨ys, rfl⟩ : ∃ ys, v = .map ys := h.exists_map hxs
  rw [hxs] at h
  have hsource : ∀ {k w}, (k, w) ∈ ys → ∃ name s, (name, s) ∈ t.entries ∧ k = .text name ∧
      w = .text s := by
    intro k w hmem
    obtain ⟨v, hv, halike⟩ := h.exists_left hmem
    obtain ⟨name, s, hentry, rfl, rfl⟩ := (mem_tableValue_iff hxs).1 hv
    cases halike
    exact ⟨name, s, hentry, rfl, rfl⟩
  obtain ⟨pairs, rfl⟩ : ∃ pairs : List (String × String),
      ys = pairs.map fun (name, s) => (.text name, .text s) := by
    refine exists_eq_map fun (k, w) hmem => ?_
    obtain ⟨name, s, _, rfl, rfl⟩ := hsource hmem
    exact ⟨(name, s), rfl⟩
  have hpairs : ∀ {name s}, (name, s) ∈ pairs ↔ t.get? name = some s := by
    intro name s
    constructor
    · intro hmem
      obtain ⟨_, _, hentry, ⟨⟩, ⟨⟩⟩ := hsource (List.mem_map_of_mem hmem)
      exact Table.get?_of_mem hentry
    · intro hget
      have hentry := Table.mem_of_get? hget
      have hsource := (mem_tableValue_iff hxs).2 ⟨name, s, hentry, rfl, rfl⟩
      obtain ⟨w, hw, halike⟩ := h.exists_right hsource
      cases halike
      obtain ⟨⟨_, _⟩, hmem, ⟨⟩⟩ := List.mem_map.1 hw
      exact hmem
  refine ⟨.ofList pairs, by rw [decode.table, textMap_map]; rfl, fun name => ?_⟩
  cases hget : t.get? name with
  | some s =>
    refine (Table.get?_ofList (hpairs.2 hget) fun s' hs' => ?_).symm
    have hs' := hpairs.1 hs'
    rw [hget] at hs'
    exact (Option.some.inj hs').symm
  | none =>
    cases hfound : (Table.ofList pairs).get? name with
    | none => rfl
    | some s =>
      rcases Table.mem_names_insertAll.1 (Table.mem_names_iff.2 ⟨s, hfound⟩) with hmem | hmem
      · cases hmem
      · obtain ⟨⟨_, s'⟩, hpair, rfl⟩ := List.mem_map.1 hmem
        have hs' := hpairs.1 hpair
        rw [hget] at hs'
        cases hs'

/-- A run is read from what is alike to its record. -/
theorem decode_of_alike (now : Int) {run : SavedRun} {v : Value} (h : Alike run.dump v) :
    ∃ found, decode now v = .ok found ∧ run.Same found := by
  obtain ⟨entries, rfl⟩ : ∃ entries, v = .map entries := h.exists_map rfl
  obtain ⟨_, hid, ⟨⟩⟩ := lookup_of_alike "scriptId" h rfl
  obtain ⟨_, hanswers, hanswersAlike⟩ := lookup_of_alike "answers" h rfl
  obtain ⟨_, hvars, hvarsAlike⟩ := lookup_of_alike "vars" h rfl
  obtain ⟨_, hstatus, hstatusAlike⟩ := lookup_of_alike "lastStatus" h rfl
  obtain ⟨_, hmessage, hmessageAlike⟩ := lookup_of_alike "lastMessage" h rfl
  obtain ⟨_, htime, ⟨⟩⟩ := lookup_of_alike "updatedAt" h rfl
  obtain ⟨answers, hanswersRead, hanswersSame⟩ := table_of_alike hanswersAlike
  obtain ⟨vars, hvarsRead, hvarsSame⟩ := table_of_alike hvarsAlike
  have hid : required entries "scriptId" ["script_id"] text = .ok run.scriptId :=
    required_of_lookup hid rfl
  have hanswers : optional entries "answers" [] .empty decode.table = .ok answers :=
    optional_of_lookup hanswers hanswersRead
  have hvars : optional entries "vars" [] .empty decode.table = .ok vars :=
    optional_of_lookup hvars hvarsRead
  have hstatus : optional entries "lastStatus" ["last_status"] none (nullable text) =
      .ok run.lastStatus := optional_of_lookup hstatus (nullable_of_alike hstatusAlike)
  have hmessage : optional entries "lastMessage" ["last_message"] none (nullable text) =
      .ok run.lastMessage := optional_of_lookup hmessage (nullable_of_alike hmessageAlike)
  have htime : optional entries "updatedAt" ["updated_at"] now integer = .ok run.updatedAt :=
    optional_of_lookup htime rfl
  refine ⟨⟨run.scriptId, answers, vars, run.lastStatus, run.lastMessage, run.updatedAt⟩, ?_,
    ⟨rfl, hanswersSame, hvarsSame, rfl, rfl, rfl⟩⟩
  simp [decode, hid, hanswers, hvars, hstatus, hmessage, htime]

end SavedRun

end Stepwise
