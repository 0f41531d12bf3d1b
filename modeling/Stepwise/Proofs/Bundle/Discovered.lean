import Stepwise.Bundle.Load
import Stepwise.Proofs.Bundle.Listed
import Stepwise.Proofs.Json.Keys

namespace Stepwise.Bundle

/-! ### Keys of items -/

theorem textKeyed_of_field? {v w : Value} (hv : v.TextKeyed) {name : String}
    (hfield : v.field? name = some w) : w.TextKeyed := by
  cases hv with
  | leaf _ hmap => rw [field?_of_not_map hmap] at hfield; cases hfield
  | list _ => cases hfield
  | map _ hvalues => exact hvalues _ (Value.mem_of_lookup hfield)

theorem Holds.textKeyed {v : Value} {items : List Value} (hholds : Holds v items)
    (hv : v.TextKeyed) : ∀ item ∈ items, item.TextKeyed := by
  induction hholds with
  | list items =>
    cases hv with
    | leaf hlist _ => exact absurd rfl (hlist items)
    | list hitems => exact hitems
  | scripts hscripts =>
    cases textKeyed_of_field? hv hscripts with
    | leaf hlist _ => exact absurd rfl (hlist _)
    | list hitems => exact hitems
  | inner _ hdefault _ _ ih => exact ih (textKeyed_of_field? hv hdefault)
  | none => simp

/-- A document with nothing but texts as keys does not fail for its keys. -/
theorem ofValue_ne_badKey {v : Value} (hv : v.TextKeyed) : ofValue v ≠ .error .badKey := by
  intro hread
  obtain ⟨items, hholds⟩ := exists_holds v
  obtain ⟨_, hother, _⟩ | ⟨fault, before, index, fields, after, hfault, hsplit, _, hfails⟩ :=
    ofValue_cases hholds
  · cases hother.symm.trans hread
  · obtain rfl : fault = .badKey := Except.error.inj (hfault.symm.trans hread)
    cases hfails with
    | key hmem hkey =>
      have hlisted : (index, fields) ∈ listed items :=
        hsplit ▸ List.mem_append_right _ List.mem_cons_self
      obtain ⟨⟨item, place⟩, hitem, hlisting⟩ := List.mem_filterMap.1 hlisted
      obtain ⟨_, rfl, _⟩ := listing?_eq_some_iff.1 hlisting
      cases hholds.textKeyed hv _ (List.fst_mem_of_mem_zipIdx hitem) with
      | leaf _ hmap => exact absurd rfl (hmap fields)
      | map hkeys _ =>
        have := hkeys _ hmem
        rw [hkey] at this
        cases this

/-! ### What a candidate may be -/

variable (d : Disk) (p : Path)

/-- The text of a file. -/
def HasText (s : String) : Prop :=
  ∃ bytes raw, d.entry? p = some (.file bytes) ∧ Text.ofBytes bytes = .ok raw ∧ s = Text.plainLines raw

/-- The document that a file holds. -/
inductive HasDocument : Value → Prop where
  | json {s : String} {v : Value} : isYaml p = false → HasText d p s → Json.read jsonLimits s = .ok v →
    HasDocument v
  | yaml {s : String} {v : Value} : isYaml p → HasText d p s → Yaml.read s = .ok v → HasDocument v

/-- The candidate gives no scripts, and the next one is tried: it is not there, is no text, is not
    written in its format, or is a document without scripts or with an item that is no entry. -/
inductive Passed : Prop where
  | absent : d.contains p = false → Passed
  | undecodable {bytes : List UInt8} {bad : Text.BadByte} : d.entry? p = some (.file bytes) →
    Text.ofBytes bytes = .error bad → Passed
  | json {s : String} {fault : Json.Fault} : isYaml p = false → HasText d p s →
    Json.read jsonLimits s = .error fault → (∀ isMap, fault ≠ .tooDeep isMap) → Passed
  | yaml {s : String} {fault : Yaml.Fault} : isYaml p → HasText d p s →
    Yaml.read s = .error fault → (fault = .malformed ∨ ∃ message, fault = .badValue message) → Passed
  | empty {v : Value} : HasDocument d p v → ofValue v = .ok [] → Passed
  | badEntry {v : Value} {issues : List Record.Issue} : HasDocument d p v →
    ofValue v = .error (.badEntry issues) → Passed

/-- The candidate is a document with scripts, and these are their entries. -/
def Yields (entries : List Entry) : Prop :=
  ∃ v, HasDocument d p v ∧ ofValue v = .ok entries ∧ entries ≠ []

/-- The candidate ends the search: it is a directory, JSON that is nested too deeply, or YAML with a
    scalar that does not stand for what its tag says, or with an item that has a key which is no
    text. -/
inductive Breaks : LoadFault → Prop where
  | directory : d.isDirectory p → Breaks (.disk (.isDirectory p.toString))
  | tooDeep {s : String} {isMap : Bool} : isYaml p = false → HasText d p s →
    Json.read jsonLimits s = .error (.tooDeep isMap) → Breaks (.tooDeep isMap)
  | scalar {s : String} {fault : Yaml.Fault} : isYaml p → HasText d p s →
    Yaml.read s = .error fault → fault ≠ .malformed → (∀ message, fault ≠ .badValue message) →
    Breaks (.content fault)
  | key {s : String} {v : Value} : isYaml p → HasText d p s → Yaml.read s = .ok v →
    ofValue v = .error .badKey → Breaks (.bundle .badKey)

variable {d p}

theorem exists_locate {entry : DiskEntry} (hentry : d.entry? p = some entry) :
    ∃ names, d.locate p = .ok names := by
  unfold Disk.entry? at hentry
  cases hlocate : d.locate p with
  | ok names => exact ⟨names, rfl⟩
  | error _ =>
    rw [hlocate] at hentry
    cases hentry

theorem readText_directory (hentry : d.entry? p = some .directory) :
    d.readText p = .error (.isDirectory p.toString) := by
  obtain ⟨names, hlocate⟩ := exists_locate hentry
  rw [Disk.readText, Disk.readBytes, hlocate, hentry]
  rfl

theorem readText_file {bytes : List UInt8} (hentry : d.entry? p = some (.file bytes)) :
    d.readText p = ((Text.ofBytes bytes).mapError .undecodable).map Text.plainLines := by
  obtain ⟨names, hlocate⟩ := exists_locate hentry
  rw [Disk.readText, Disk.readBytes, hlocate, hentry]
  rfl

theorem readDocument_of_found {entry : DiskEntry} (hentry : d.entry? p = some entry) :
    readDocument d p = ((d.readText p).mapError .disk).bind (parse p) := by
  rw [readDocument, Disk.contains, hentry]
  rfl

/-- A candidate is not there, is a directory or no text, or is a text that is parsed. -/
theorem readDocument_cases (d : Disk) (p : Path) :
    (d.contains p = false ∧ readDocument d p = .error (.missing p)) ∨
    (d.isDirectory p ∧ readDocument d p = .error (.disk (.isDirectory p.toString))) ∨
    (∃ bytes bad, d.entry? p = some (.file bytes) ∧ Text.ofBytes bytes = .error bad ∧
      readDocument d p = .error (.disk (.undecodable bad))) ∨
    ∃ s, HasText d p s ∧ readDocument d p = parse p s := by
  cases hentry : d.entry? p with
  | none =>
    have hcontains : d.contains p = false := by rw [Disk.contains, hentry, Option.isSome_none]
    refine .inl ⟨hcontains, ?_⟩
    rw [readDocument, hcontains]
    rfl
  | some entry =>
    rw [readDocument_of_found hentry]
    right
    cases entry with
    | directory =>
      rw [readText_directory hentry]
      exact .inl ⟨by rw [Disk.isDirectory, hentry], rfl⟩
    | file bytes =>
      rw [readText_file hentry]
      right
      cases htext : Text.ofBytes bytes with
      | error bad => exact .inl ⟨bytes, bad, rfl, htext, rfl⟩
      | ok raw => exact .inr ⟨_, ⟨bytes, raw, hentry, htext, rfl⟩, rfl⟩

/-- The candidate is passed over, gives scripts, or ends the search, and this is what it comes to. -/
inductive Verdict (d : Disk) (p : Path) : Except LoadFault (List Entry) → Prop where
  | passed {fault : LoadFault} : Passed d p → fault.isExpected → Verdict d p (.error fault)
  | empty : Passed d p → Verdict d p (.ok [])
  | yields {entries : List Entry} : Yields d p entries → Verdict d p (.ok entries)
  | breaks {fault : LoadFault} : Breaks d p fault → fault.isExpected = false →
    Verdict d p (.error fault)

theorem verdict_of_hasDocument {v : Value} (hdocument : HasDocument d p v) :
    Verdict d p ((ofValue v).mapError .bundle) := by
  cases hvalue : ofValue v with
  | ok entries =>
    cases entries with
    | nil => exact .empty (.empty hdocument hvalue)
    | cons entry rest => exact .yields ⟨v, hdocument, hvalue, nofun⟩
  | error fault =>
    cases fault with
    | badEntry issues => exact .passed (.badEntry hdocument hvalue) rfl
    | badKey =>
      cases hdocument with
      | json _ _ hread => exact absurd hvalue (ofValue_ne_badKey (Json.textKeyed_of_read hread))
      | yaml hyaml htext hread => exact .breaks (.key hyaml htext hread hvalue) rfl

theorem verdict_of_hasText {s : String} (htext : HasText d p s) :
    Verdict d p ((parse p s).bind fun v => (ofValue v).mapError .bundle) := by
  unfold parse
  split
  next hyaml =>
    cases hread : Yaml.read s with
    | ok v => exact verdict_of_hasDocument (.yaml hyaml htext hread)
    | error fault =>
      cases fault with
      | malformed => exact .passed (.yaml hyaml htext hread (.inl rfl)) rfl
      | badValue message => exact .passed (.yaml hyaml htext hread (.inr ⟨message, rfl⟩)) rfl
      | _ => exact .breaks (.scalar hyaml htext hread nofun nofun) rfl
  next hjson =>
    have hjson := Bool.eq_false_iff.2 hjson
    cases hread : Json.read jsonLimits s with
    | ok v => exact verdict_of_hasDocument (.json hjson htext hread)
    | error fault =>
      cases fault with
      | tooDeep isMap => exact .breaks (.tooDeep hjson htext hread) rfl
      | _ => exact .passed (.json hjson htext hread nofun) rfl

theorem load_verdict (d : Disk) (p : Path) : Verdict d p (load d p) := by
  change Verdict d p ((readDocument d p).bind fun v => (ofValue v).mapError .bundle)
  obtain ⟨habsent, hread⟩ | ⟨hdirectory, hread⟩ | ⟨bytes, bad, hentry, hbad, hread⟩ |
    ⟨s, htext, hread⟩ :=
    readDocument_cases d p
  · rw [hread]
    exact .passed (.absent habsent) rfl
  · rw [hread]
    exact .breaks (.directory hdirectory) rfl
  · rw [hread]
    exact .passed (.undecodable hentry hbad) rfl
  · rw [hread]
    exact verdict_of_hasText htext

/-- What a search of paths comes to, each of which is passed over before the next is looked at: the
    scripts of one, the sample if there are none, or a fault. -/
inductive Finds (d : Disk) : List Path → Except LoadFault (List Entry) → Prop where
  | sample : Finds d [] (.ok [sample])
  | passed {p : Path} {rest : List Path} {result : Except LoadFault (List Entry)} : Passed d p →
    Finds d rest result → Finds d (p :: rest) result
  | yields {p : Path} {rest : List Path} {entries : List Entry} : Yields d p entries →
    Finds d (p :: rest) (.ok entries)
  | breaks {p : Path} {rest : List Path} {fault : LoadFault} : Breaks d p fault →
    Finds d (p :: rest) (.error fault)

/-- The search looks at one path after the other: by induction on them. -/
theorem finds_firstOf (d : Disk) (paths : List Path) : Finds d paths (firstOf (load d) paths) := by
  induction paths with
  | nil => exact .sample
  | cons p rest ih =>
    have hverdict := load_verdict d p
    rw [firstOf]
    generalize load d p = result at hverdict
    cases hverdict with
    | passed hpassed hexpected =>
      dsimp only
      rw [if_pos hexpected]
      exact .passed hpassed ih
    | empty hpassed => exact .passed hpassed ih
    | @yields entries hyields =>
      cases entries with
      | nil =>
        obtain ⟨v, -, -, hne⟩ := hyields
        exact absurd rfl hne
      | cons entry others => exact .yields hyields
    | breaks hbreaks hunexpected =>
      dsimp only
      rw [if_neg (by simp [hunexpected])]
      exact .breaks hbreaks

/-- The search finds the scripts of the first candidate that has any, if those before it are passed
    over, and the sample if all are. Only a candidate that ends the search leaves it without. -/
theorem discover_finds (d : Disk) (base : Path) :
    let paths := candidates.map fun name => base.join (Path.ofString name)
    (∃ before p after entries, paths = before ++ p :: after ∧ (∀ q ∈ before, Passed d q) ∧
      Yields d p entries ∧ discover d base = .ok entries) ∨
    ((∀ p ∈ paths, Passed d p) ∧ discover d base = .ok [sample]) ∨
    ∃ before p after fault, paths = before ++ p :: after ∧ (∀ q ∈ before, Passed d q) ∧
      Breaks d p fault ∧ discover d base = .error fault := by
  intro paths
  have hfinds : Finds d paths (discover d base) := finds_firstOf d paths
  generalize paths = paths at hfinds
  generalize discover d base = result at hfinds
  induction hfinds with
  | sample => exact .inr (.inl ⟨by simp, rfl⟩)
  | @passed p rest result hpassed _ ih =>
    obtain ⟨before, q, after, entries, hsplit, hbefore, hyields, hresult⟩ | ⟨hall, hresult⟩ |
      ⟨before, q, after, fault, hsplit, hbefore, hbreaks, hresult⟩ := ih
    · exact .inl ⟨p :: before, q, after, entries, congrArg (p :: ·) hsplit,
        List.forall_mem_cons.2 ⟨hpassed, hbefore⟩, hyields, hresult⟩
    · exact .inr (.inl ⟨List.forall_mem_cons.2 ⟨hpassed, hall⟩, hresult⟩)
    · exact .inr (.inr ⟨p :: before, q, after, fault, congrArg (p :: ·) hsplit,
        List.forall_mem_cons.2 ⟨hpassed, hbefore⟩, hbreaks, hresult⟩)
  | @yields p rest entries hyields => exact .inl ⟨[], p, rest, entries, rfl, by simp, hyields, rfl⟩
  | @breaks p rest fault hbreaks => exact .inr (.inr ⟨[], p, rest, fault, rfl, by simp, hbreaks, rfl⟩)

/-- A directory that has the name of the first candidate, and a bundle that is the last one. -/
def shadowed : Disk :=
  ⟨⟨"/", []⟩, [(["scripts.json"], .directory),
    (["scripts.yaml"], .file (Text.toBytes "- steps:\n  - id: e\n    type: end\n"))]⟩

/-- A directory with the name of a candidate hides the bundle after it, and the sample too. -/
theorem directory_hides_bundle :
    discover shadowed ⟨"/", []⟩ = .error (.disk (.isDirectory "/scripts.json")) ∧
      ∃ entries, Yields shadowed ⟨"/", ["scripts.yaml"]⟩ entries := by
  refine ⟨by rfl, ?_⟩
  have hverdict := load_verdict shadowed ⟨"/", ["scripts.yaml"]⟩
  have hfull : (load shadowed ⟨"/", ["scripts.yaml"]⟩).toOption.map List.isEmpty = some false := by
    decide +kernel
  generalize load shadowed ⟨"/", ["scripts.yaml"]⟩ = result at hverdict hfull
  cases hverdict with
  | yields hyields => exact ⟨_, hyields⟩
  | _ => cases hfull

end Stepwise.Bundle
