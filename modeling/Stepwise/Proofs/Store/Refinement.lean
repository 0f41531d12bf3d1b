import Stepwise.Proofs.Disk.Written
import Stepwise.Proofs.Store.Reread
import Stepwise.Proofs.Yaml.Keys
import Stepwise.Store.File
import Stepwise.Store.Memory

namespace Stepwise

open Value

/-- A call of a store. -/
inductive StoreCall where
  | get (now : Int) (key : String)
  | update (key : String) (run : Option SavedRun)

/-- The keys that calls save under, or clear. -/
def updatedKeys (calls : List StoreCall) : List String :=
  calls.filterMap fun
    | .get _ _ => none
    | .update key _ => some key

/-- The memory store after calls, first to last. -/
def MemoryStore.after (store : MemoryStore) : List StoreCall → MemoryStore
  | [] => store
  | .get _ _ :: rest => store.after rest
  | .update key run :: rest => (store.update key run).after rest

namespace FileStore

/-- The disk after calls of stores in files, first to last. Reading leaves it as it is. -/
def after (d : Disk) : List (FileStore × StoreCall) → Except StoreFault Disk
  | [] => .ok d
  | (_, .get _ _) :: rest => after d rest
  | (store, .update key run) :: rest => do after (← store.update d key run) rest

/-- The mappings that calls of stores write to their files, or that are empty so that the file is
    removed. -/
def written (d : Disk) : List (FileStore × StoreCall) → List (List (Value × Value))
  | [] => []
  | (_, .get _ _) :: rest => written d rest
  | (store, .update key run) :: rest => match store.entries d with
    | .error _ => []
    | .ok entries => SavedRun.put key run entries :: match store.update d key run with
      | .error _ => []
      | .ok d' => written d' rest

/-- Nothing is at the path of the store, or a file that holds a mapping with these entries. -/
inductive Holds (store : FileStore) (d : Disk) : List (Value × Value) → Prop where
  | absent (habsent : d.contains store.path = false) : store.Holds d []
  | mapping {s : String} {entries : List (Value × Value)} (hpresent : d.contains store.path = true)
    (htext : d.readText store.path = .ok s) (hread : Yaml.read s = .ok (.map entries)) :
    store.Holds d entries

end FileStore

/-- A mapping that is written is read as the same mapping, but for the order of its entries. -/
def Yaml.Keeps (entries : List (Value × Value)) : Prop :=
  ∃ found, Yaml.read (Text.plainLines (Yaml.writeMapping entries)) = .ok (.map found) ∧
    Alike (.map entries) (.map found)

/-! ### Setting and clearing a key -/

theorem MemoryStore.get_update (store : MemoryStore) (key other : String) (run : Option SavedRun) :
    (store.update key run).get other = if other = key then run else store.get other := by
  cases run with
  | none => exact Table.get?_erase store.runs key other
  | some run => exact Table.get?_insert store.runs key other run

namespace SavedRun

variable {key : String} {run : Option SavedRun} {entries : List (Value × Value)}

theorem lookup_put_self (honce : (textKeys entries).Nodup) :
    lookup key (put key run entries) = run.map dump := by
  cases run with
  | none => exact lookup_eraseField_self honce
  | some run => exact lookup_insertEntry_self

theorem lookup_put_ne {other : String} (hne : other ≠ key) :
    lookup other (put key run entries) = lookup other entries := by
  cases run with
  | none => exact lookup_eraseField_ne hne
  | some run => exact lookup_insertEntry_ne hne

theorem mem_put_iff {k v : Value} (hk : k ≠ .text key) :
    (k, v) ∈ put key run entries ↔ (k, v) ∈ entries := by
  cases run with
  | none => exact mem_eraseField_iff hk
  | some run => exact mem_insertEntry_iff hk

theorem nodup_put (honce : (textKeys entries).Nodup) :
    (textKeys (put key run entries)).Nodup := by
  cases run with
  | none => exact nodup_eraseField honce
  | some run => exact nodup_insertEntry _ _ honce

end SavedRun

/-! ### Entries and the runs that they stand for -/

/-- Under the keys, the entries have the records of what is in memory; under all others they have
    what was there at the start. -/
structure FileStore.Represents (start : List (Value × Value)) (keys : List String)
    (memory : MemoryStore) (entries : List (Value × Value)) : Prop where
  once : (textKeys entries).Nodup
  cleared : ∀ key ∈ keys, memory.get key = none → lookup key entries = none
  saved : ∀ key ∈ keys, ∀ run, memory.get key = some run →
    ∃ v, lookup key entries = some v ∧ Alike run.dump v
  kept : ∀ k v, (∀ key ∈ keys, k ≠ .text key) → (k, v) ∈ start → ∃ w, (k, w) ∈ entries ∧ Alike v w
  known : ∀ k w, (∀ key ∈ keys, k ≠ .text key) → (k, w) ∈ entries → ∃ v, (k, v) ∈ start ∧ Alike v w

namespace FileStore.Represents

variable {start entries found : List (Value × Value)} {keys : List String} {memory : MemoryStore}

private theorem mem_of_mem_concat {other key : String} (hmem : other ∈ keys ++ [key])
    (hne : other ≠ key) : other ∈ keys :=
  (List.mem_append.1 hmem).resolve_right fun h => hne (List.mem_singleton.1 h)

theorem refl {start : List (Value × Value)} (honce : (textKeys start).Nodup)
    (memory : MemoryStore) : Represents start [] memory start where
  once := honce
  cleared := nofun
  saved := nofun
  kept _ v _ hmem := ⟨v, hmem, .refl v⟩
  known _ w _ hmem := ⟨w, hmem, .refl w⟩

/-- Entries that are alike stand for the same. -/
theorem alike (h : Represents start keys memory entries)
    (halike : Alike (.map entries) (.map found)) (honce : (textKeys found).Nodup) : Represents start keys memory found where
  once := honce
  cleared key hkey hnone := halike.lookup_eq_none (h.cleared key hkey hnone)
  saved key hkey run hrun := by
    obtain ⟨v, hv, hdump⟩ := h.saved key hkey run hrun
    obtain ⟨w, hw, hvw⟩ := halike.lookup hv
    exact ⟨w, hw, hdump.trans hvw⟩
  kept k v hk hmem := by
    obtain ⟨w, hw, hvw⟩ := h.kept k v hk hmem
    obtain ⟨u, hu, hwu⟩ := halike.exists_right hw
    exact ⟨u, hu, hvw.trans hwu⟩
  known k u hk hmem := by
    obtain ⟨w, hw, hwu⟩ := halike.exists_left hmem
    obtain ⟨v, hv, hvw⟩ := h.known k w hk hw
    exact ⟨v, hv, hvw.trans hwu⟩

/-- One more key is updated, in the entries as in memory. -/
theorem put (h : Represents start keys memory entries) (key : String) (run : Option SavedRun) :
    Represents start (keys ++ [key]) (memory.update key run) (SavedRun.put key run entries) where
  once := SavedRun.nodup_put h.once
  cleared other hother hnone := by
    rw [MemoryStore.get_update] at hnone
    split at hnone
    · next heq =>
      subst heq hnone
      exact SavedRun.lookup_put_self h.once
    · next hne =>
      rw [SavedRun.lookup_put_ne hne]
      exact h.cleared other (mem_of_mem_concat hother hne) hnone
  saved other hother saved hsaved := by
    rw [MemoryStore.get_update] at hsaved
    split at hsaved
    · next heq =>
      subst heq hsaved
      exact ⟨_, SavedRun.lookup_put_self h.once, .refl _⟩
    · next hne =>
      rw [SavedRun.lookup_put_ne hne]
      exact h.saved other (mem_of_mem_concat hother hne) saved hsaved
  kept k v hk hmem := by
    obtain ⟨hk, hkey⟩ := List.forall_mem_append.1 hk
    obtain ⟨w, hw, hvw⟩ := h.kept k v hk hmem
    exact ⟨w, (SavedRun.mem_put_iff (hkey key (List.mem_singleton_self _))).2 hw, hvw⟩
  known k w hk hmem := by
    obtain ⟨hk, hkey⟩ := List.forall_mem_append.1 hk
    exact h.known k w hk ((SavedRun.mem_put_iff (hkey key (List.mem_singleton_self _))).1 hmem)

end FileStore.Represents

/-- What is alike to the record of a run is found as that run. -/
theorem SavedRun.find_of_alike (now : Int) {key : String} {entries : List (Value × Value)}
    {v : Value} {run : SavedRun} (hlookup : lookup key entries = some v) (halike : Alike run.dump v) :
    ∃ found, find now key entries = .ok (some found) ∧ run.Same found := by
  obtain ⟨found, hdecode, hsame⟩ := decode_of_alike now halike
  obtain ⟨fields, rfl⟩ := halike.exists_map rfl
  have htruthy : (Value.map fields).isTruthy = true := by
    obtain ⟨w, hw, _⟩ := halike.exists_right (k := .text "scriptId") List.mem_cons_self
    cases fields with
    | nil => cases hw
    | cons first rest => rfl
  refine ⟨found, ?_, hsame⟩
  simp [find, hlookup, htruthy, hdecode]

namespace FileStore

variable {store : FileStore} {d : Disk} {start entries : List (Value × Value)} {key : String}
  {run : Option SavedRun}

theorem entries_of_absent (habsent : d.contains store.path = false) : store.entries d = .ok [] := by
  simp [FileStore.entries, habsent, pure, Except.pure]

/-- A file that is there has the entries of the mapping that its text is. -/
theorem entries_of_text {s : String} (hpresent : d.contains store.path = true)
    (htext : d.readText store.path = .ok s) :
    store.entries d = ((Yaml.read s).mapError .content).bind fun
      | .map entries => .ok entries
      | _ => .ok [] := by
  rw [FileStore.entries, hpresent, htext]
  rfl

theorem Holds.read (h : store.Holds d start) :
    store.entries d = .ok start ∧ (textKeys start).Nodup := by
  cases h with
  | absent habsent => exact ⟨entries_of_absent habsent, List.nodup_nil⟩
  | mapping hpresent htext hread =>
    rw [entries_of_text hpresent htext, hread]
    exact ⟨rfl, Yaml.nodup_of_read hread⟩

/-- The file is removed when nothing is left in it. -/
theorem update_eq_remove (hentries : store.entries d = .ok entries)
    (hput : SavedRun.put key run entries = []) :
    store.update d key run = .ok (d.remove store.path) := by
  rw [FileStore.update, hentries]
  change (if (SavedRun.put key run entries).isEmpty then _ else _) = _
  rw [hput]
  rfl

/-- What is left is written, in a directory that is made if need be. -/
theorem update_eq_write {made : Disk} (hentries : store.entries d = .ok entries)
    (hput : SavedRun.put key run entries ≠ [])
    (hmade : d.makeDirectory store.path.parent = .ok made) :
    store.update d key run = (made.writeText store.path
      (Yaml.writeMapping (SavedRun.put key run entries))).mapError .disk := by
  rw [FileStore.update, hentries]
  change (if (SavedRun.put key run entries).isEmpty then _ else _) = _
  rw [if_neg (by simpa using hput), hmade]
  rfl

/-- A run that was saved is read back, if the file reads as it was written. -/
theorem get_of_update {d' : Disk} {run : SavedRun} (hentries : store.entries d = .ok entries)
    (hupdate : store.update d key (some run) = .ok d')
    (hkeeps : Yaml.Keeps (SavedRun.put key (some run) entries)) (now : Int) :
    ∃ found, store.get d' now key = .ok (some found) ∧ run.Same found := by
  have hself : lookup key (SavedRun.put key (some run) entries) = some run.dump :=
    lookup_insertEntry_self
  have hput : SavedRun.put key (some run) entries ≠ [] := by
    intro hnil
    rw [hnil] at hself
    cases hself
  obtain ⟨made, hmade⟩ : ∃ made, d.makeDirectory store.path.parent = .ok made := by
    cases hmade : d.makeDirectory store.path.parent with
    | ok made => exact ⟨made, rfl⟩
    | error fault =>
      rw [FileStore.update, hentries] at hupdate
      change (if (SavedRun.put key (some run) entries).isEmpty then _ else _) = _ at hupdate
      rw [if_neg (by simpa using hput), hmade] at hupdate
      cases hupdate
  obtain ⟨found, hread, halike⟩ := hkeeps
  rw [update_eq_write hentries hput hmade] at hupdate
  cases hwritten : made.writeText store.path
      (Yaml.writeMapping (SavedRun.put key (some run) entries)) with
  | error fault =>
    rw [hwritten] at hupdate
    cases hupdate
  | ok written =>
    rw [hwritten] at hupdate
    cases hupdate
    obtain ⟨place, hready, rfl⟩ := Disk.writeText_eq_ok_iff.1 hwritten
    obtain ⟨hpresent, htext⟩ := hready.reads
      (Yaml.writeMapping (SavedRun.put key (some run) entries))
    have hfound : store.entries (made.put place (.file (Text.toBytes
        (Yaml.writeMapping (SavedRun.put key (some run) entries))))) = .ok found := by
      rw [entries_of_text hpresent htext, hread]
      rfl
    obtain ⟨w, hw, hdump⟩ := halike.lookup hself
    obtain ⟨kept, hfind, hsame⟩ := SavedRun.find_of_alike now hw hdump
    refine ⟨kept, ?_, hsame⟩
    rw [FileStore.get, hfound]
    exact hfind

/-- The file of a store stands for a memory store as far as keys were updated, and can be written
    again. -/
structure Mirrors (store : FileStore) (start : List (Value × Value)) (keys : List String)
    (memory : MemoryStore) (d : Disk) (entries : List (Value × Value)) : Prop where
  takes : d.Takes store.path
  read : store.entries d = .ok entries
  represents : Represents start keys memory entries
  present : keys ≠ [] → (d.contains store.path = true ↔ entries ≠ [])

namespace Mirrors

variable {keys : List String} {memory : MemoryStore}

theorem get (h : Mirrors store start keys memory d entries) (hkey : key ∈ keys) (now : Int) :
    ∃ found, store.get d now key = .ok found ∧ Option.Rel SavedRun.Same (memory.get key) found := by
  have hget : store.get d now key = SavedRun.find now key entries := by
    rw [FileStore.get, h.read]
    rfl
  rw [hget]
  cases hmemory : memory.get key with
  | none =>
    refine ⟨none, ?_, .none⟩
    rw [SavedRun.find, h.represents.cleared key hkey hmemory]
  | some run =>
    obtain ⟨v, hlookup, halike⟩ := h.represents.saved key hkey run hmemory
    obtain ⟨found, hfind, hsame⟩ := SavedRun.find_of_alike now hlookup halike
    exact ⟨some found, hfind, .some hsame⟩

theorem update (h : Mirrors store start keys memory d entries) (key : String)
    (run : Option SavedRun)
    (hkeeps : SavedRun.put key run entries ≠ [] → Yaml.Keeps (SavedRun.put key run entries)) :
    ∃ d' entries', store.update d key run = .ok d' ∧
      Mirrors store start (keys ++ [key]) (memory.update key run) d' entries' := by
  have hrepresents := h.represents.put key run
  by_cases hput : SavedRun.put key run entries = []
  · obtain ⟨htakes, habsent⟩ := h.takes.remove
    rw [hput] at hrepresents
    refine ⟨_, [], update_eq_remove h.read hput, htakes, entries_of_absent habsent, hrepresents,
      fun _ => ?_⟩
    simp [habsent]
  · obtain ⟨found, hread, halike⟩ := hkeeps hput
    obtain ⟨made, written, hmade, hwritten, htakes, hpresent, htext⟩ :=
      h.takes.write (Yaml.writeMapping (SavedRun.put key run entries))
    have honce := Yaml.nodup_of_read hread
    refine ⟨written, found, ?_, htakes, ?_, hrepresents.alike halike honce, fun _ => ?_⟩
    · rw [update_eq_write h.read hput hmade, hwritten]
      rfl
    · rw [entries_of_text hpresent htext, hread]
      rfl
    · obtain ⟨⟨k, v⟩, hkv⟩ := List.exists_mem_of_ne_nil _ hput
      obtain ⟨w, hw, _⟩ := halike.exists_right hkv
      exact ⟨fun _ => List.ne_nil_of_mem hw, fun _ => hpresent⟩

/-- After calls of stores on one path, the file stands for the memory store after the same calls. -/
theorem after {calls : List (FileStore × StoreCall)} (h : Mirrors store start keys memory d entries)
    (hstores : ∀ call ∈ calls, call.1.path = store.path)
    (hkeeps : ∀ mapping ∈ written d calls, mapping ≠ [] → Yaml.Keeps mapping) :
    ∃ d' entries', FileStore.after d calls = .ok d' ∧
      Mirrors store start (keys ++ updatedKeys (calls.map Prod.snd))
        (memory.after (calls.map Prod.snd)) d' entries' := by
  induction calls generalizing d entries keys memory with
  | nil => exact ⟨d, entries, rfl, by simpa [updatedKeys, MemoryStore.after] using h⟩
  | cons call rest ih =>
    obtain ⟨other, call⟩ := call
    obtain rfl : other = store := congrArg FileStore.mk (hstores (other, call) List.mem_cons_self)
    have hrest : ∀ call ∈ rest, call.1.path = other.path :=
      fun call hcall => hstores call (List.mem_cons_of_mem _ hcall)
    cases call with
    | get now key => exact ih h hrest hkeeps
    | update key run =>
      rw [written, h.read] at hkeeps
      obtain ⟨hfirst, hlater⟩ := List.forall_mem_cons.1 hkeeps
      obtain ⟨d₁, entries₁, hupdate, hnext⟩ := h.update key run hfirst
      rw [hupdate] at hlater
      obtain ⟨d', entries', hafter, hlast⟩ := ih hnext hrest hlater
      refine ⟨d', entries', ?_, ?_⟩
      · rw [FileStore.after, hupdate]
        exact hafter
      · rw [List.append_assoc] at hlast
        exact hlast

/-- At the start nothing was updated. -/
theorem of_holds (hholds : store.Holds d start) (htakes : d.Takes store.path)
    (memory : MemoryStore) : Mirrors store start [] memory d start where
  takes := htakes
  read := hholds.read.1
  represents := .refl hholds.read.2 memory
  present := nofun

end Mirrors

/-- Stores in one file stand for one store in memory. Whatever was updated is read as it is in
    memory, and everything else as it was at the start; the file is there as long as something is
    left in it. A file that cannot be read is not written over. -/
theorem refines_memory (store : FileStore) :
    (∀ (d : Disk) (start : List (Value × Value)) (calls : List (FileStore × StoreCall)),
      store.Holds d start → d.Takes store.path → (∀ call ∈ calls, call.1.path = store.path) →
      (∀ mapping ∈ written d calls, mapping ≠ [] → Yaml.Keeps mapping) →
      ∃ d' entries, after d calls = .ok d' ∧ store.entries d' = .ok entries ∧
        (∀ key ∈ updatedKeys (calls.map Prod.snd), ∀ now, ∃ found,
          store.get d' now key = .ok found ∧ Option.Rel SavedRun.Same
            ((MemoryStore.empty.after (calls.map Prod.snd)).get key) found) ∧
        (∀ k, (∀ key ∈ updatedKeys (calls.map Prod.snd), k ≠ .text key) →
          (∀ v, (k, v) ∈ start → ∃ w, (k, w) ∈ entries ∧ Alike v w) ∧
          ∀ w, (k, w) ∈ entries → ∃ v, (k, v) ∈ start ∧ Alike v w) ∧
        (updatedKeys (calls.map Prod.snd) ≠ [] →
          (d'.contains store.path = true ↔ entries ≠ []))) ∧
    ∀ (d : Disk) (s : String) (fault : Yaml.Fault) (key : String) (run : Option SavedRun),
      d.contains store.path = true → d.readText store.path = .ok s → Yaml.read s = .error fault →
      store.update d key run = .error (.content fault) := by
  refine ⟨?_, ?_⟩
  · intro d start calls hholds htakes hstores hkeeps
    obtain ⟨d', entries, hafter, hmirrors⟩ :=
      (Mirrors.of_holds hholds htakes .empty).after hstores hkeeps
    rw [List.nil_append] at hmirrors
    exact ⟨d', entries, hafter, hmirrors.read, fun key hkey now => hmirrors.get hkey now,
      fun k hk =>
        ⟨fun v => hmirrors.represents.kept k v hk, fun w => hmirrors.represents.known k w hk⟩,
      hmirrors.present⟩
  · intro d s fault key run hpresent htext hread
    rw [FileStore.update, entries_of_text hpresent htext, hread]
    rfl

/-- A mapping that is read just as it is written. -/
def readsBack (mapping : List (Value × Value)) : Bool :=
  match Yaml.read (Text.plainLines (Yaml.writeMapping mapping)) with
  | .ok (.map found) => areSameEntries mapping found
  | _ => false

theorem keeps_of_readsBack {mapping : List (Value × Value)} (h : readsBack mapping = true) :
    Yaml.Keeps mapping := by
  unfold readsBack at h
  split at h
  · next found hread =>
    obtain rfl := eq_of_areSameEntries h
    exact ⟨mapping, hread, .refl _⟩
  · cases h

/-- A disk with a file that has a text. -/
def diskWith (text : String) : Disk := ⟨⟨"/", []⟩, [(["state.yaml"], .file (Text.toBytes text))]⟩

/-- A run is saved beside an entry that is somebody else's, and read; a file that was cut off is not
    written over. -/
theorem refines_memory_beside :
    let store : FileStore := ⟨.ofString "state.yaml"⟩
    let run : SavedRun := ⟨"almanac", .empty, .ofList [("name", "Ann")], none, none, 7⟩
    let calls := [(store, .update "g" (some run)), (store, StoreCall.get 0 "g")]
    store.Holds (diskWith "1: kept\n") [(.int 1, .text "kept")] ∧
    (diskWith "1: kept\n").Takes store.path ∧
    (∀ mapping ∈ written (diskWith "1: kept\n") calls, mapping ≠ [] → Yaml.Keeps mapping) ∧
    (∃ d' entries, after (diskWith "1: kept\n") calls = .ok d' ∧ store.entries d' = .ok entries ∧
      (∀ now, ∃ found, store.get d' now "g" = .ok (some found) ∧ run.Same found) ∧
      ∃ w, (.int 1, w) ∈ entries ∧ Alike (.text "kept") w) ∧
    ∃ fault, store.update (diskWith "[1") "g" (some run) = .error (.content fault) := by
  intro store run calls
  have hholds : store.Holds (diskWith "1: kept\n") [(.int 1, .text "kept")] := by
    have hread : (match Yaml.read "1: kept\n" with
        | .ok (.map found) => areSameEntries [(.int 1, .text "kept")] found
        | _ => false) = true := by decide +kernel
    split at hread
    · next found hfound =>
      obtain rfl := eq_of_areSameEntries hread
      exact .mapping (by decide +kernel) (by decide +kernel) hfound
    · cases hread
  have htakes : (diskWith "1: kept\n").Takes store.path := by
    have hready : (diskWith "1: kept\n").IsReady store.path ["state.yaml"] := ⟨rfl, rfl, rfl⟩
    exact hready.takes (by decide +kernel)
  have hwritten : ∀ mapping ∈ written (diskWith "1: kept\n") calls, mapping ≠ [] →
      Yaml.Keeps mapping := by
    intro mapping hmem _
    rw [written, hholds.read.1] at hmem
    rcases List.mem_cons.1 hmem with rfl | hmem
    · exact keeps_of_readsBack (by decide +kernel)
    · split at hmem <;> cases hmem
  obtain ⟨hrefines, hcut⟩ := refines_memory store
  refine ⟨hholds, htakes, hwritten, ?_, ?_⟩
  · obtain ⟨d', entries, hafter, hentries, hget, hothers, _⟩ :=
      hrefines _ _ calls hholds htakes (by simp [calls]) hwritten
    refine ⟨d', entries, hafter, hentries, fun now => ?_, ?_⟩
    · obtain ⟨found, hfound, hsame⟩ := hget "g" List.mem_cons_self now
      have hmemory : (MemoryStore.empty.after (calls.map Prod.snd)).get "g" = some run := rfl
      rw [hmemory] at hsame
      cases hsame with
      | some hsame => exact ⟨_, hfound, hsame⟩
    · exact (hothers (.int 1) (by simp)).1 _ List.mem_cons_self
  · have hbroken : (Yaml.read "[1").toOption.isNone = true := by decide +kernel
    cases hread : Yaml.read "[1" with
    | ok v =>
      rw [hread] at hbroken
      cases hbroken
    | error fault =>
      exact ⟨fault, hcut _ "[1" fault "g" (some run) (by decide +kernel) (by decide +kernel) hread⟩

end FileStore

end Stepwise
