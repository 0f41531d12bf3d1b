import Stepwise.Proofs.Value.Alike
import Stepwise.Yaml.Reader

namespace Stepwise.Yaml

variable {α β : Type}

theorem Built.map_eq_ok {f : α → β} {x : Built α} {b : β} (h : x.map f = .ok b) :
    ∃ a, f a = b := by
  cases x with
  | ok a => exact ⟨a, Built.ok.inj h⟩
  | bad depth fault => cases h

theorem scalar_ne_map {tag : Tag} {s : String} {entries : List (Value × Value)} :
    scalar tag s ≠ .ok (.map entries) := by
  intro h
  unfold scalar at h
  split at h
  · cases h
  · split at h <;> cases h
  · cases hinteger : integer s <;> simp [hinteger, Except.map] at h
  · cases hfloat : float s <;> simp [hfloat, Except.map] at h
  · cases h
  · split at h
    · split at h <;> cases h
    · cases h
  · unfold moment at h
    split at h
    · cases h
    · split at h <;> cases h
  · cases h

theorem bind_scalar_ne_map {tag : Tag} {x : Except Fault String} {entries : List (Value × Value)} :
    (do scalar tag (← x)) ≠ .ok (.map entries) := by
  cases x with
  | ok s => exact scalar_ne_map
  | error fault =>
    intro h
    cases h

theorem ofExcept_ne_map {depth : Nat} {x : Except Fault Value} {entries : List (Value × Value)}
    (hx : x ≠ .ok (.map entries)) : Built.ofExcept depth x ≠ .ok (.map entries) := by
  intro h
  cases x with
  | ok v =>
    cases h
    exact hx rfl
  | error fault => cases h

/-- Mappings are built of entries in which each key comes once. -/
theorem exists_of_build_eq_map {fuel depth : Nat} {node : Node} {xs : List (Value × Value)}
    (h : build fuel depth node = .ok (.map xs)) :
    ∃ entries, Value.mapOfEntries entries = .map xs := by
  cases fuel with
  | zero => cases h
  | succ fuel =>
    unfold build at h
    dsimp only at h
    split at h
    · next tag s =>
      cases tag <;> first
        | exact absurd h (ofExcept_ne_map scalar_ne_map)
        | cases h
    · split at h
      · obtain ⟨items, hitems⟩ := Built.map_eq_ok h
        cases hitems
      · obtain ⟨items, hitems⟩ := Built.map_eq_ok h
        cases hitems
      · obtain ⟨items, hitems⟩ := Built.map_eq_ok h
        cases hitems
      all_goals cases h
    · split at h
      · exact Built.map_eq_ok h
      · obtain ⟨entries, hentries⟩ := Built.map_eq_ok h
        cases hentries
      · cases h
      · cases h
      · cases h
      · split at h
        · exact absurd h (ofExcept_ne_map bind_scalar_ne_map)
        · cases h

/-- A mapping that is read has no text key twice. -/
theorem nodup_of_read {s : String} {xs : List (Value × Value)} (h : read s = .ok (.map xs)) :
    (Value.textKeys xs).Nodup := by
  unfold read at h
  cases htokens : tokens s with
  | error fault =>
    rw [htokens] at h
    cases h
  | ok ts =>
    cases hnode : Node.ofTokens ts with
    | error fault =>
      simp only [htokens, hnode, bind, Except.bind] at h
      cases h
    | ok node? =>
      cases node? with
      | none =>
        simp only [htokens, hnode, bind, Except.bind] at h
        cases h
      | some node =>
        simp only [htokens, hnode, bind, Except.bind] at h
        split at h
        · next value hbuild =>
          cases h
          obtain ⟨entries, hentries⟩ := exists_of_build_eq_map hbuild
          exact Value.nodup_mapOfEntries hentries
        · cases h

end Stepwise.Yaml
