import Stepwise.Disk.Basic

namespace Stepwise

/-! ### Texts as bytes -/

namespace Text

private theorem toList_loop (bytes : ByteArray) (i : Nat) (done : List UInt8) :
    ByteArray.toList.loop bytes i done = done.reverse ++ bytes.data.toList.drop i := by
  induction h : bytes.size - i generalizing i done with
  | zero =>
    have hlength : bytes.data.toList.length = bytes.size := rfl
    rw [ByteArray.toList.loop, if_neg (by omega), List.drop_eq_nil_of_le (by omega),
      List.append_nil]
  | succ left ih =>
    have hi : i < bytes.size := by omega
    have hlength : i < bytes.data.toList.length := hi
    rw [ByteArray.toList.loop, if_pos hi, ih _ _ (by omega), List.drop_eq_getElem_cons hlength,
      List.reverse_cons, List.append_assoc]
    simp [ByteArray.get!, hi]

/-- A text is read back from its bytes. -/
theorem ofBytes_toBytes (s : String) : ofBytes (toBytes s) = .ok s := by
  have hbytes : ByteArray.mk (toBytes s).toArray = s.toUTF8 := by
    rw [toBytes, ByteArray.toList, toList_loop]
    simp
  have hvalid : s.toUTF8.IsValidUTF8 := s.isValidUTF8
  have hread : String.fromUTF8? s.toUTF8 = some s := by
    rw [String.fromUTF8?, dif_pos hvalid]
    rfl
  rw [ofBytes, hbytes, hread]

end Text

namespace Disk

/-! ### Following names -/

/-- Names lead from an origin to a place: two dots back, and every other name but the last one into
    a directory. -/
inductive Leads (d : Disk) : (origin names out : List String) → Prop where
  | here {origin : List String} : d.Leads origin [] origin
  | up {origin rest out : List String} (h : d.Leads origin.dropLast rest out) :
    d.Leads origin (".." :: rest) out
  | last {origin : List String} {name : String} (hname : name ≠ "..") :
    d.Leads origin [name] (origin ++ [name])
  | down {origin : List String} {name next : String} {rest out : List String} (hname : name ≠ "..")
    (hdirectory : d.entries.lookup (origin ++ [name]) = some .directory)
    (h : d.Leads (origin ++ [name]) (next :: rest) out) :
    d.Leads origin (name :: next :: rest) out

variable {d d' : Disk} {origin names out : List String} {name : String} {p : Path}

theorem leads_of_follow (h : d.follow origin names = .ok out) : d.Leads origin names out := by
  induction names generalizing origin with
  | nil =>
    cases h
    exact .here
  | cons name rest ih =>
    rw [follow] at h
    split at h
    · next hname =>
      obtain rfl := beq_iff_eq.1 hname
      exact .up (ih h)
    · next hname =>
      have hname : name ≠ ".." := by simpa using hname
      cases rest with
      | nil =>
        cases h
        exact .last hname
      | cons next rest =>
        dsimp only [List.isEmpty_cons] at h
        split at h
        · contradiction
        · split at h
          · next hdirectory => exact .down hname hdirectory (ih h)
          · cases h
          · cases h

theorem Leads.follow (h : d.Leads origin names out) : d.follow origin names = .ok out := by
  induction h with
  | here => rfl
  | up h ih => rw [Disk.follow, if_pos (beq_self_eq_true _), ih]
  | last hname =>
    rw [Disk.follow, if_neg (by simpa using hname)]
    rfl
  | down hname hdirectory h ih =>
    rw [Disk.follow, if_neg (by simpa using hname)]
    simp [hdirectory, ih]

/-- Names that lead somewhere still do so when there are more directories. -/
theorem Leads.mono (h : d.Leads origin names out)
    (hkeeps : ∀ names, d.entries.lookup names = some .directory →
      d'.entries.lookup names = some .directory) : d'.Leads origin names out := by
  induction h with
  | here => exact .here
  | up h ih => exact .up ih
  | last hname => exact .last hname
  | down hname hdirectory h ih => exact .down hname (hkeeps _ hdirectory) ih

/-- No dots are left where names lead to. -/
theorem Leads.plain (h : d.Leads origin names out) (horigin : ".." ∉ origin) : ".." ∉ out := by
  induction h with
  | here => exact horigin
  | up h ih => exact ih fun hmem => horigin (List.dropLast_subset _ hmem)
  | last hname => simp [horigin, Ne.symm hname]
  | down hname hdirectory h ih => exact ih (by simp [horigin, Ne.symm hname])

theorem Leads.eq_append (h : d.Leads origin names out) (hplain : ".." ∉ names) :
    out = origin ++ names := by
  induction h with
  | here => exact (List.append_nil _).symm
  | up h ih => exact absurd List.mem_cons_self hplain
  | last hname => rfl
  | down hname hdirectory h ih =>
    rw [ih fun hmem => hplain (List.mem_cons_of_mem _ hmem), List.append_assoc]
    rfl

/-- One more name leads on from a directory. -/
theorem Leads.concat (h : d.Leads origin names out) (hplain : ".." ∉ names) (hname : name ≠ "..")
    (hdirectory : names = [] ∨ d.entries.lookup out = some .directory) :
    d.Leads origin (names ++ [name]) (out ++ [name]) := by
  induction h with
  | here => exact .last hname
  | up h ih => exact absurd List.mem_cons_self hplain
  | last hlast => exact .down hlast (hdirectory.resolve_left (List.cons_ne_nil _ _)) (.last hname)
  | down hnext hnextDirectory h ih =>
    have hrest := ih (fun hmem => hplain (List.mem_cons_of_mem _ hmem))
      (.inr (hdirectory.resolve_left (List.cons_ne_nil _ _)))
    exact .down hnext hnextDirectory hrest

/-- The directories on the way are there already. -/
theorem Leads.makeDirectory_go (h : d.Leads origin (names ++ [name]) out) :
    makeDirectory.go p d origin names = .ok d := by
  induction names generalizing origin with
  | nil => rfl
  | cons first rest ih =>
    obtain ⟨next, tail, htail⟩ := List.exists_cons_of_ne_nil
      (List.append_ne_nil_of_right_ne_nil rest (List.cons_ne_nil name []))
    rw [List.cons_append, htail] at h
    rw [makeDirectory.go]
    cases h with
    | up h => rw [if_pos (beq_self_eq_true _), ih (htail ▸ h)]
    | down hname hdirectory h =>
      rw [if_neg (by simpa using hname)]
      simp only [hdirectory]
      exact ih (htail ▸ h)

/-! ### Places that can be written -/

theorem locate_absolute (names : List String) : d.locate ⟨"/", names⟩ = d.follow [] names := rfl

theorem isDirectory_absolute_iff : d.isDirectory ⟨"/", names⟩ = true ↔
    ∃ out, d.Leads [] names out ∧ (out = [] ∨ d.entries.lookup out = some .directory) := by
  unfold isDirectory entry?
  rw [locate_absolute]
  constructor
  · intro h
    cases hfollow : d.follow [] names with
    | error inTheWay => simp [hfollow] at h
    | ok out =>
      refine ⟨out, leads_of_follow hfollow, ?_⟩
      cases out with
      | nil => exact .inl rfl
      | cons first rest =>
        right
        simp only [hfollow] at h
        split at h
        · next hdirectory => exact hdirectory
        · cases h
  · rintro ⟨out, hleads, rfl | hdirectory⟩
    · rw [hleads.follow]
    · rw [hleads.follow]
      cases out with
      | nil => rfl
      | cons first rest => simp [hdirectory]

/-- The path leads to a place in a directory, which is not a directory itself. -/
structure IsReady (d : Disk) (p : Path) (place : List String) : Prop where
  located : d.locate p = .ok place
  target : d.isDirectory ⟨"/", place⟩ = false
  parent : d.isDirectory ⟨"/", place.dropLast⟩ = true

theorem writeText_eq_ok_iff {s : String} : d.writeText p s = .ok d' ↔
    ∃ place, d.IsReady p place ∧ d' = d.put place (.file (Text.toBytes s)) := by
  unfold writeText writeBytes
  constructor
  · intro h
    split at h
    · cases h
    · cases h
    · next place hlocated =>
      dsimp only at h
      split at h
      · cases h
      · next htarget =>
        split at h
        · next hparent =>
          cases h
          exact ⟨place, ⟨hlocated, by simpa using htarget, hparent⟩, rfl⟩
        · split at h <;> cases h
  · rintro ⟨place, h, rfl⟩
    have hparent : d.isDirectory (Path.parent ⟨"/", place⟩) = true := h.parent
    simp [h.located, h.target, hparent]

theorem lookup_filter_self (entries : List (List String × DiskEntry)) (names : List String) :
    (entries.filter (·.1 != names)).lookup names = none := by
  refine List.lookup_eq_none_iff.2 fun entry hentry => ?_
  have hne : entry.1 ≠ names := by simpa using (List.mem_filter.1 hentry).2
  simpa using Ne.symm hne

theorem lookup_filter_ne {other : List String} (hne : other ≠ names)
    (entries : List (List String × DiskEntry)) :
    (entries.filter (·.1 != names)).lookup other = entries.lookup other := by
  induction entries with
  | nil => rfl
  | cons entry rest ih =>
    obtain ⟨key, found⟩ := entry
    by_cases hkey : key = names
    · subst hkey
      rw [List.filter_cons_of_neg (by simp), ih, List.lookup_cons, beq_false_of_ne hne]
    · rw [List.filter_cons_of_pos (by simpa using hkey), List.lookup_cons, List.lookup_cons, ih]

variable {place : List String}

namespace IsReady

theorem ne_nil (h : d.IsReady p place) : place ≠ [] := by
  rintro rfl
  have htarget := h.target
  rw [isDirectory_absolute_iff.2 ⟨[], .here, .inl rfl⟩] at htarget
  cases htarget

theorem plain (h : d.IsReady p place) : ".." ∉ place :=
  (leads_of_follow h.located).plain List.not_mem_nil

theorem lookup_ne (h : d.IsReady p place) : d.entries.lookup place ≠ some .directory := by
  intro hlookup
  have hplain := h.plain
  obtain ⟨init, name, rfl⟩ : ∃ init name, place = init ++ [name] :=
    ⟨_, _, (List.dropLast_concat_getLast h.ne_nil).symm⟩
  have hparent := h.parent
  rw [List.dropLast_concat, isDirectory_absolute_iff] at hparent
  obtain ⟨out, hleads, hdirectory⟩ := hparent
  have hinit : ".." ∉ init := fun hmem => hplain (List.mem_append_left _ hmem)
  have hname : name ≠ ".." := by
    rintro rfl
    exact hplain (List.mem_append_right _ (List.mem_singleton_self _))
  obtain rfl : out = init := hleads.eq_append hinit
  have hplace := hleads.concat hinit hname hdirectory
  have htarget := h.target
  rw [isDirectory_absolute_iff.2 ⟨_, hplace, .inr hlookup⟩] at htarget
  cases htarget

/-- A path stays ready while directories are kept and none takes its place. -/
theorem of_keeps (h : d.IsReady p place) (hcwd : d'.cwd = d.cwd)
    (hkeeps : ∀ names, names ≠ place → d'.entries.lookup names = d.entries.lookup names)
    (hplace : d'.entries.lookup place ≠ some .directory) : d'.IsReady p place := by
  have hdirectories : ∀ names, d.entries.lookup names = some .directory →
      d'.entries.lookup names = some .directory := by
    intro names hdirectory
    rw [hkeeps names, hdirectory]
    rintro rfl
    exact h.lookup_ne hdirectory
  refine ⟨?_, ?_, ?_⟩
  · unfold locate
    rw [hcwd]
    exact ((leads_of_follow h.located).mono hdirectories).follow
  · rw [← Bool.not_eq_true, isDirectory_absolute_iff]
    rintro ⟨out, hleads, hdirectory⟩
    obtain rfl : out = place := hleads.eq_append h.plain
    exact hdirectory.elim h.ne_nil hplace
  · obtain ⟨out, hleads, hdirectory⟩ := isDirectory_absolute_iff.1 h.parent
    exact isDirectory_absolute_iff.2
      ⟨out, hleads.mono hdirectories, hdirectory.imp_right (hdirectories out)⟩

theorem put (h : d.IsReady p place) (bytes : List UInt8) :
    (d.put place (.file bytes)).IsReady p place := by
  refine h.of_keeps rfl (fun names hne => ?_) ?_
  · rw [Disk.put, List.lookup_cons, beq_false_of_ne hne]
    exact lookup_filter_ne hne d.entries
  · rw [Disk.put, List.lookup_cons, beq_self_eq_true]
    simp

theorem remove (h : d.IsReady p place) : (d.remove p).IsReady p place := by
  rw [Disk.remove, h.located]
  refine h.of_keeps rfl (fun names hne => lookup_filter_ne hne d.entries) ?_
  simp [lookup_filter_self]

theorem entry_eq (h : d.IsReady p place) : d.entry? p = d.entries.lookup place := by
  unfold entry?
  rw [h.located]
  split
  · next hplace => exact absurd (Except.ok.inj hplace) h.ne_nil
  · next hplace => rw [← Except.ok.inj hplace]
  · next hplace => cases hplace

theorem writeText (h : d.IsReady p place) (s : String) :
    d.writeText p s = .ok (d.put place (.file (Text.toBytes s))) :=
  writeText_eq_ok_iff.2 ⟨place, h, rfl⟩

/-- What is written is there, and can be read. -/
theorem reads (h : d.IsReady p place) (s : String) :
    (d.put place (.file (Text.toBytes s))).contains p = true ∧
      (d.put place (.file (Text.toBytes s))).readText p = .ok (Text.plainLines s) := by
  have hafter := h.put (Text.toBytes s)
  have hentry : Disk.entry? (d.put place (.file (Text.toBytes s))) p =
      some (.file (Text.toBytes s)) := by
    rw [hafter.entry_eq, Disk.put, List.lookup_cons, beq_self_eq_true]
  refine ⟨?_, ?_⟩
  · rw [contains, hentry]
    rfl
  · rw [readText, readBytes, hafter.located]
    simp only [hentry, bind, Except.bind, Text.ofBytes_toBytes]
    rfl

end IsReady

/-- Where a path leads to a place, the directories above it are there. -/
theorem makeDirectory_of_locate (hname : p.names ≠ []) (hlocated : d.locate p = .ok place) :
    d.makeDirectory p.parent = .ok d := by
  have hnames : (d.cwd.join p).names = (d.cwd.join p.parent).names ++ [p.names.getLast hname] := by
    unfold Path.join Path.parent Path.isAbsolute
    split
    · exact (List.dropLast_concat_getLast hname).symm
    · rw [List.append_assoc, List.dropLast_concat_getLast hname]
  have hleads := leads_of_follow hlocated
  rw [hnames] at hleads
  exact hleads.makeDirectory_go

/-- A text can be written at the path, once the directories above it are made. -/
def Takes (d : Disk) (p : Path) : Prop :=
  p.names ≠ [] ∧ ∀ s, ∃ made written, d.makeDirectory p.parent = .ok made ∧
    made.writeText p s = .ok written

theorem IsReady.takes (h : d.IsReady p place) (hname : p.names ≠ []) : d.Takes p :=
  ⟨hname, fun s => ⟨d, _, makeDirectory_of_locate hname h.located, h.writeText s⟩⟩

namespace Takes

theorem isReady_of_locate (h : d.Takes p) (hlocated : d.locate p = .ok place) :
    d.IsReady p place := by
  obtain ⟨hname, hwrites⟩ := h
  obtain ⟨made, written, hmade, hwritten⟩ := hwrites ""
  rw [makeDirectory_of_locate hname hlocated] at hmade
  cases hmade
  obtain ⟨found, hready, _⟩ := writeText_eq_ok_iff.1 hwritten
  have hfound : found = place := Except.ok.inj (hready.located.symm.trans hlocated)
  rwa [hfound] at hready

/-- What is written is there, and can be read and replaced. -/
theorem write (h : d.Takes p) (s : String) : ∃ made written,
    d.makeDirectory p.parent = .ok made ∧ made.writeText p s = .ok written ∧
      written.Takes p ∧ written.contains p = true ∧
      written.readText p = .ok (Text.plainLines s) := by
  obtain ⟨hname, hwrites⟩ := h
  obtain ⟨made, written, hmade, hwritten⟩ := hwrites s
  obtain ⟨place, hready, rfl⟩ := writeText_eq_ok_iff.1 hwritten
  exact ⟨made, _, hmade, hwritten, (hready.put _).takes hname, hready.reads s⟩

theorem remove (h : d.Takes p) : (d.remove p).Takes p ∧ (d.remove p).contains p = false := by
  cases hlocated : d.locate p with
  | error inTheWay =>
    have hremove : d.remove p = d := by rw [Disk.remove, hlocated]
    rw [hremove]
    refine ⟨h, ?_⟩
    rw [contains, entry?, hlocated]
    rfl
  | ok place =>
    have hready := h.isReady_of_locate hlocated
    refine ⟨hready.remove.takes h.1, ?_⟩
    rw [contains, hready.remove.entry_eq, Disk.remove, hlocated, lookup_filter_self]
    rfl

end Takes

end Disk

end Stepwise
