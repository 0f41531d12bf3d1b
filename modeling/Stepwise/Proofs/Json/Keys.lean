import Stepwise.Json.Reader

namespace Stepwise

/-- The mappings in a value have nothing but texts as keys. -/
inductive Value.TextKeyed : Value → Prop where
  | leaf {v : Value} (hlist : ∀ items, v ≠ .list items) (hmap : ∀ entries, v ≠ .map entries) :
    TextKeyed v
  | list {items : List Value} (hitems : ∀ item ∈ items, TextKeyed item) : TextKeyed (.list items)
  | map {entries : List (Value × Value)} (hkeys : ∀ entry ∈ entries, entry.1.text?.isSome)
    (hvalues : ∀ entry ∈ entries, TextKeyed entry.2) : TextKeyed (.map entries)

namespace Value

/-- The entries of a mapping whose keys are texts, and whose values are of that kind too. -/
structure TextEntries (entries : List (Value × Value)) : Prop where
  keys : ∀ entry ∈ entries, entry.1.text?.isSome
  values : ∀ entry ∈ entries, entry.2.TextKeyed

theorem TextEntries.nil : TextEntries [] := ⟨by simp, by simp⟩

theorem TextEntries.cons {entry : Value × Value} {entries : List (Value × Value)}
    (hkey : entry.1.text?.isSome) (hvalue : entry.2.TextKeyed) (hrest : TextEntries entries) :
    TextEntries (entry :: entries) :=
  ⟨List.forall_mem_cons.2 ⟨hkey, hrest.keys⟩, List.forall_mem_cons.2 ⟨hvalue, hrest.values⟩⟩

theorem TextEntries.insertEntry {key value : Value} {entries : List (Value × Value)}
    (hkey : key.text?.isSome) (hvalue : value.TextKeyed) (hentries : TextEntries entries) :
    TextEntries (Value.insertEntry key value entries) := by
  induction entries with
  | nil => exact .cons hkey hvalue .nil
  | cons entry rest ih =>
    obtain ⟨hfirst, hkeys⟩ := List.forall_mem_cons.1 hentries.keys
    obtain ⟨hfirstValue, hvalues⟩ := List.forall_mem_cons.1 hentries.values
    unfold Value.insertEntry
    split
    · exact .cons hfirst hvalue ⟨hkeys, hvalues⟩
    · exact .cons hfirst hfirstValue (ih ⟨hkeys, hvalues⟩)

theorem TextEntries.textKeyed_mapOfEntries {entries : List (Value × Value)}
    (hentries : TextEntries entries) : (mapOfEntries entries).TextKeyed := by
  suffices hfold : ∀ done, TextEntries done →
      TextEntries (entries.foldl (fun done e => Value.insertEntry e.1 e.2 done) done) from
    .map (hfold [] .nil).keys (hfold [] .nil).values
  induction entries with
  | nil => exact fun done hdone => hdone
  | cons entry rest ih =>
    obtain ⟨hkey, hkeys⟩ := List.forall_mem_cons.1 hentries.keys
    obtain ⟨hvalue, hvalues⟩ := List.forall_mem_cons.1 hentries.values
    exact fun done hdone => ih ⟨hkeys, hvalues⟩ _ (hdone.insertEntry hkey hvalue)

end Value

namespace Json

/-- What has been read of a container so far is keyed by texts. -/
def Frame.TextKeyed : Frame → Prop
  | .list items => ∀ item ∈ items, item.TextKeyed
  | .entry entries _ => Value.TextEntries entries

namespace Progress

/-- What has been read so far is keyed by texts. -/
structure TextKeyed (p : Progress) : Prop where
  frames : ∀ frame ∈ p.frames, frame.TextKeyed
  result : ∀ value ∈ p.result, value.TextKeyed

variable {p q : Progress}

theorem TextKeyed.deliver {value : Value} (hdeliver : p.deliver value = .ok q)
    (hframes : ∀ frame ∈ p.frames, frame.TextKeyed) (hvalue : value.TextKeyed) : q.TextKeyed := by
  unfold Progress.deliver at hdeliver
  split at hdeliver
  next =>
    obtain rfl := Except.ok.inj hdeliver
    exact ⟨by simp, by simpa using hvalue⟩
  next items rest hp =>
    obtain rfl := Except.ok.inj hdeliver
    obtain ⟨hitems, hrest⟩ := List.forall_mem_cons.1 (hp ▸ hframes)
    exact ⟨List.forall_mem_cons.2 ⟨List.forall_mem_cons.2 ⟨hvalue, hitems⟩, hrest⟩, by simp⟩
  next entries key rest hp =>
    obtain rfl := Except.ok.inj hdeliver
    obtain ⟨hentries, hrest⟩ := List.forall_mem_cons.1 (hp ▸ hframes)
    exact ⟨List.forall_mem_cons.2 ⟨.cons rfl hvalue hentries, hrest⟩, by simp⟩
  next => cases hdeliver

theorem TextKeyed.scalar {value : Value} (hp : p.TextKeyed)
    (hstep : step.scalar p value = .ok q) (hvalue : value.TextKeyed) : q.TextKeyed := by
  unfold step.scalar at hstep
  split at hstep
  · exact .deliver hstep hp.frames hvalue
  · cases hstep

theorem TextKeyed.opened {limits : Limits} {isMap : Bool} {expected : Expected}
    (hp : p.TextKeyed) (frame : Frame) (hframe : frame.TextKeyed)
    (hstep : step.opened limits p isMap ⟨frame :: p.frames, expected, none⟩ = .ok q) :
    q.TextKeyed := by
  unfold step.opened at hstep
  split at hstep
  · cases hstep
  split at hstep
  · obtain rfl := Except.ok.inj hstep
    exact ⟨List.forall_mem_cons.2 ⟨hframe, hp.frames⟩, by simp⟩
  · cases hstep

/-- A token keeps what has been read keyed by texts, as it is a text that is taken as a key. -/
theorem TextKeyed.step {limits : Limits} {token : Token} (hp : p.TextKeyed)
    (hstep : p.step limits token = .ok q) : q.TextKeyed := by
  cases token with
  | openBracket => exact hp.opened (.list []) (by simp [Frame.TextKeyed]) hstep
  | openBrace => exact hp.opened (.entry [] none) .nil hstep
  | closeBracket =>
    simp only [Progress.step] at hstep
    split at hstep
    next items rest heq =>
      split at hstep
      · obtain ⟨hitems, hrest⟩ := List.forall_mem_cons.1 (heq ▸ hp.frames)
        exact .deliver hstep hrest (.list fun item hitem => hitems item (List.mem_reverse.1 hitem))
      · cases hstep
    next => cases hstep
  | closeBrace =>
    simp only [Progress.step] at hstep
    split at hstep
    next entries rest heq =>
      split at hstep
      · obtain ⟨hentries, hrest⟩ := List.forall_mem_cons.1 (heq ▸ hp.frames)
        have hreverse : Value.TextEntries entries.reverse :=
          ⟨fun entry hentry => hentries.keys entry (List.mem_reverse.1 hentry),
            fun entry hentry => hentries.values entry (List.mem_reverse.1 hentry)⟩
        exact .deliver hstep hrest hreverse.textKeyed_mapOfEntries
      · cases hstep
    next => cases hstep
  | colon =>
    simp only [Progress.step] at hstep
    split at hstep
    · obtain rfl := Except.ok.inj hstep
      exact ⟨hp.frames, hp.result⟩
    · cases hstep
  | comma =>
    simp only [Progress.step] at hstep
    split at hstep
    · split at hstep
      · obtain rfl := Except.ok.inj hstep
        exact ⟨hp.frames, hp.result⟩
      · obtain rfl := Except.ok.inj hstep
        exact ⟨hp.frames, hp.result⟩
      · cases hstep
    · cases hstep
  | null => exact hp.scalar hstep (.leaf nofun nofun)
  | bool b => exact hp.scalar hstep (.leaf nofun nofun)
  | float x => exact hp.scalar hstep (.leaf nofun nofun)
  | integer n digits =>
    simp only [Progress.step] at hstep
    split at hstep
    · cases hstep
    split at hstep
    · cases hstep
    · exact .deliver hstep hp.frames (.leaf nofun nofun)
  | text s =>
    simp only [Progress.step] at hstep
    split at hstep
    next entries rest heq =>
      split at hstep
      · obtain rfl := Except.ok.inj hstep
        obtain ⟨hentries, hrest⟩ := List.forall_mem_cons.1 (heq ▸ hp.frames)
        exact ⟨List.forall_mem_cons.2 ⟨hentries, hrest⟩, by simp⟩
      · cases hstep
    next => exact hp.scalar hstep (.leaf nofun nofun)

theorem TextKeyed.foldlM {limits : Limits} {tokens : List Token} (hp : p.TextKeyed)
    (hfold : tokens.foldlM (Progress.step limits) p = .ok q) : q.TextKeyed := by
  induction tokens generalizing p with
  | nil =>
    obtain rfl := Except.ok.inj hfold
    exact hp
  | cons token rest ih =>
    rw [List.foldlM_cons] at hfold
    cases hstep : p.step limits token with
    | error fault =>
      rw [hstep] at hfold
      cases hfold
    | ok next =>
      rw [hstep] at hfold
      exact ih (hp.step hstep) hfold

end Progress

/-- The mappings of a JSON text have texts as keys. -/
theorem textKeyed_of_read {limits : Limits} {s : String} {v : Value} (hread : read limits s = .ok v) :
    v.TextKeyed := by
  unfold read at hread
  cases hfold : (tokens s).1.foldlM (Progress.step limits) .start with
  | error fault =>
    simp only [hfold, bind, Except.bind] at hread
    cases hread
  | ok final =>
    have hfinal : final.TextKeyed :=
      Progress.TextKeyed.foldlM ⟨by simp [Progress.start], by simp [Progress.start]⟩ hfold
    simp only [hfold, bind, Except.bind] at hread
    split at hread
    next value _ hvalue =>
      obtain rfl := Except.ok.inj hread
      exact hfinal.result value hvalue
    next => cases hread

end Json

end Stepwise
