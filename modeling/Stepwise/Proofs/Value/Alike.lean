import Stepwise.Value.Basic

namespace Stepwise.Value

/-- The two values are the same, but for the order in which mappings and sets are given. -/
inductive Alike : Value → Value → Prop where
  | refl (v : Value) : Alike v v
  | list {xs ys : List Value} (hlength : xs.length = ys.length)
    (hitems : ∀ i (hx : i < xs.length) (hy : i < ys.length), Alike xs[i] ys[i]) :
    Alike (.list xs) (.list ys)
  | map {xs ys : List (Value × Value)} (hkeys : ∀ k, k ∈ xs.map Prod.fst ↔ k ∈ ys.map Prod.fst)
    (hvalues : ∀ k v w, (k, v) ∈ xs → (k, w) ∈ ys → Alike v w) : Alike (.map xs) (.map ys)
  | set {xs ys : List Value} (hmembers : ∀ v, v ∈ xs ↔ v ∈ ys) : Alike (.set xs) (.set ys)

variable {name other : String} {k v w : Value} {xs ys : List (Value × Value)}

namespace Alike

theorem trans {a b c : Value} (h : Alike a b) (h' : Alike b c) : Alike a c := by
  induction h generalizing c with
  | refl => exact h'
  | list hlength hitems ih =>
    cases h' with
    | refl => exact .list hlength hitems
    | list hlength' hitems' =>
      refine .list (hlength.trans hlength') fun i hx hz => ?_
      have hy := hlength ▸ hx
      exact ih i hx hy (hitems' i hy hz)
  | map hkeys hvalues ih =>
    cases h' with
    | refl => exact .map hkeys hvalues
    | map hkeys' hvalues' =>
      refine .map (fun k => (hkeys k).trans (hkeys' k)) fun k v w hv hw => ?_
      obtain ⟨⟨_, u⟩, hu, rfl⟩ := List.mem_map.1 ((hkeys k).1 (List.mem_map_of_mem hv))
      exact ih _ v u hv hu (hvalues' _ u w hu hw)
  | set hmembers =>
    cases h' with
    | refl => exact .set hmembers
    | set hmembers' => exact .set fun v => (hmembers v).trans (hmembers' v)

/-- What is alike to a mapping is one. -/
theorem exists_map (h : Alike v w) (hv : v = .map xs) : ∃ ys, w = .map ys := by
  cases h with
  | refl => exact ⟨xs, hv⟩
  | list => cases hv
  | map => exact ⟨_, rfl⟩
  | set => cases hv

theorem exists_right (h : Alike (.map xs) (.map ys)) (hmem : (k, v) ∈ xs) :
    ∃ w, (k, w) ∈ ys ∧ Alike v w := by
  cases h with
  | refl => exact ⟨v, hmem, .refl v⟩
  | map hkeys hvalues =>
    obtain ⟨⟨_, w⟩, hw, rfl⟩ := List.mem_map.1 ((hkeys k).1 (List.mem_map_of_mem hmem))
    exact ⟨w, hw, hvalues _ v w hmem hw⟩

theorem exists_left (h : Alike (.map xs) (.map ys)) (hmem : (k, w) ∈ ys) :
    ∃ v, (k, v) ∈ xs ∧ Alike v w := by
  cases h with
  | refl => exact ⟨w, hmem, .refl w⟩
  | map hkeys hvalues =>
    obtain ⟨⟨_, v⟩, hv, rfl⟩ := List.mem_map.1 ((hkeys k).2 (List.mem_map_of_mem hmem))
    exact ⟨v, hv, hvalues _ v w hv hmem⟩

end Alike

/-! ### Checking values -/

mutual

/-- The two values are the same and hold no number with a fraction, which has no equality that can
    be decided. -/
def isSame : Value → Value → Bool
  | .null, .null => true
  | .bool a, .bool b => a == b
  | .int n, .int m => n == m
  | .text s, .text t => s == t
  | .bytes bs, .bytes cs => bs == cs
  | .moment m, .moment n => m == n
  | .list xs, .list ys | .set xs, .set ys => areSame xs ys
  | .map xs, .map ys => areSameEntries xs ys
  | _, _ => false

def areSame : List Value → List Value → Bool
  | [], [] => true
  | x :: xs, y :: ys => isSame x y && areSame xs ys
  | _, _ => false

def areSameEntries : List (Value × Value) → List (Value × Value) → Bool
  | [], [] => true
  | (k, v) :: xs, (l, w) :: ys => isSame k l && isSame v w && areSameEntries xs ys
  | _, _ => false

end

mutual

theorem eq_of_isSame {a b : Value} (h : isSame a b = true) : a = b := by
  unfold isSame at h
  split at h
  · rfl
  · rw [beq_iff_eq.1 h]
  · rw [beq_iff_eq.1 h]
  · rw [beq_iff_eq.1 h]
  · rw [beq_iff_eq.1 h]
  · rw [beq_iff_eq.1 h]
  · rw [eq_of_areSame h]
  · rw [eq_of_areSame h]
  · rw [eq_of_areSameEntries h]
  · cases h

theorem eq_of_areSame {xs ys : List Value} (h : areSame xs ys = true) : xs = ys := by
  unfold areSame at h
  split at h
  · rfl
  · obtain ⟨hfirst, hrest⟩ := Bool.and_eq_true_iff.1 h
    rw [eq_of_isSame hfirst, eq_of_areSame hrest]
  · cases h

theorem eq_of_areSameEntries {xs ys : List (Value × Value)} (h : areSameEntries xs ys = true) :
    xs = ys := by
  unfold areSameEntries at h
  split at h
  · rfl
  · obtain ⟨hfirst, hrest⟩ := Bool.and_eq_true_iff.1 h
    obtain ⟨hkey, hvalue⟩ := Bool.and_eq_true_iff.1 hfirst
    rw [eq_of_isSame hkey, eq_of_isSame hvalue, eq_of_areSameEntries hrest]
  · cases h

end

/-! ### Entries under text keys -/

theorem sameKey_text_iff : sameKey k (.text name) = true ↔ k = .text name := by
  cases k <;> simp [sameKey, sameNumber, ratio?]

section cons

variable {value : Value} {rest : List (Value × Value)}

theorem lookup_cons_self : lookup name ((.text name, v) :: rest) = some v := by
  rw [lookup, if_pos rfl]

theorem lookup_cons_ne (hne : k ≠ .text name) :
    lookup name ((k, v) :: rest) = lookup name rest := by
  conv => lhs; unfold lookup
  split
  · contradiction
  · next heq =>
    cases heq
    rw [if_neg]
    rintro rfl
    exact hne rfl
  · next heq =>
    cases heq
    rfl

theorem eraseField_cons_self : eraseField name ((.text name, v) :: rest) = rest := by
  rw [eraseField, if_pos rfl]

theorem eraseField_cons_ne (hne : k ≠ .text name) :
    eraseField name ((k, v) :: rest) = (k, v) :: eraseField name rest := by
  conv => lhs; unfold eraseField
  split
  · contradiction
  · next heq =>
    cases heq
    rw [if_neg]
    rintro rfl
    exact hne rfl
  · next heq =>
    cases heq
    rfl

theorem insertEntry_cons_self :
    insertEntry (.text name) value ((.text name, v) :: rest) = (.text name, value) :: rest := by
  rw [insertEntry, if_pos (sameKey_text_iff.2 rfl)]

theorem insertEntry_cons_ne (hne : k ≠ .text name) :
    insertEntry (.text name) value ((k, v) :: rest) =
      (k, v) :: insertEntry (.text name) value rest := by
  rw [insertEntry, if_neg fun hsame => hne (sameKey_text_iff.1 hsame)]

end cons

theorem mem_of_lookup (h : lookup name xs = some v) : (.text name, v) ∈ xs := by
  induction xs with
  | nil => cases h
  | cons entry rest ih =>
    obtain ⟨k, w⟩ := entry
    by_cases hk : k = .text name
    · subst hk
      rw [lookup_cons_self] at h
      cases h
      exact List.mem_cons_self
    · rw [lookup_cons_ne hk] at h
      exact List.mem_cons_of_mem _ (ih h)

theorem exists_lookup_of_mem (hmem : (.text name, v) ∈ xs) : ∃ w, lookup name xs = some w := by
  induction xs with
  | nil => cases hmem
  | cons entry rest ih =>
    obtain ⟨k, w⟩ := entry
    by_cases hk : k = .text name
    · subst hk
      exact ⟨w, lookup_cons_self⟩
    · rw [lookup_cons_ne hk]
      refine ih ((List.mem_cons.1 hmem).resolve_left ?_)
      rintro ⟨⟩
      exact hk rfl

/-- A value is found under the same text keys of mappings that are alike. -/
theorem Alike.lookup (h : Alike (.map xs) (.map ys)) (hlookup : lookup name xs = some v) :
    ∃ w, Value.lookup name ys = some w ∧ Alike v w := by
  cases h with
  | refl => exact ⟨v, hlookup, .refl v⟩
  | map hkeys hvalues =>
    have hv := mem_of_lookup hlookup
    obtain ⟨⟨_, u⟩, hu, rfl⟩ := List.mem_map.1 ((hkeys _).1 (List.mem_map_of_mem hv))
    obtain ⟨w, hw⟩ := exists_lookup_of_mem hu
    exact ⟨w, hw, hvalues _ v w hv (mem_of_lookup hw)⟩

theorem Alike.lookup_eq_none (h : Alike (.map xs) (.map ys)) (hnone : Value.lookup name xs = none) :
    Value.lookup name ys = none := by
  cases hlookup : Value.lookup name ys with
  | none => rfl
  | some w =>
    obtain ⟨v, hv, _⟩ := h.exists_left (mem_of_lookup hlookup)
    obtain ⟨u, hu⟩ := exists_lookup_of_mem hv
    rw [hnone] at hu
    cases hu

theorem lookup_insertEntry_self : lookup name (insertEntry (.text name) v xs) = some v := by
  induction xs with
  | nil => exact lookup_cons_self
  | cons entry rest ih =>
    obtain ⟨k, w⟩ := entry
    by_cases hk : k = .text name
    · subst hk
      rw [insertEntry_cons_self, lookup_cons_self]
    · rw [insertEntry_cons_ne hk, lookup_cons_ne hk, ih]

theorem mem_insertEntry_iff (hk : k ≠ .text name) :
    (k, w) ∈ insertEntry (.text name) v xs ↔ (k, w) ∈ xs := by
  induction xs with
  | nil => simp [insertEntry, hk]
  | cons entry rest ih =>
    obtain ⟨key, value⟩ := entry
    by_cases hkey : key = .text name
    · subst hkey
      simp [insertEntry_cons_self, hk]
    · simp [insertEntry_cons_ne hkey, ih]

theorem lookup_insertEntry_ne (hne : other ≠ name) :
    lookup other (insertEntry (.text name) v xs) = lookup other xs := by
  have htext : Value.text name ≠ .text other := by
    rintro ⟨⟩
    exact hne rfl
  induction xs with
  | nil => exact lookup_cons_ne htext
  | cons entry rest ih =>
    obtain ⟨key, value⟩ := entry
    by_cases hkey : key = .text name
    · subst hkey
      rw [insertEntry_cons_self, lookup_cons_ne htext, lookup_cons_ne htext]
    · rw [insertEntry_cons_ne hkey]
      by_cases hother : key = .text other
      · subst hother
        rw [lookup_cons_self, lookup_cons_self]
      · rw [lookup_cons_ne hother, lookup_cons_ne hother, ih]

theorem mem_eraseField_iff (hk : k ≠ .text name) :
    (k, w) ∈ eraseField name xs ↔ (k, w) ∈ xs := by
  induction xs with
  | nil => rfl
  | cons entry rest ih =>
    obtain ⟨key, value⟩ := entry
    by_cases hkey : key = .text name
    · subst hkey
      simp [eraseField_cons_self, hk]
    · simp [eraseField_cons_ne hkey, ih]

theorem lookup_eraseField_ne (hne : other ≠ name) :
    lookup other (eraseField name xs) = lookup other xs := by
  have htext : Value.text name ≠ .text other := by
    rintro ⟨⟩
    exact hne rfl
  induction xs with
  | nil => rfl
  | cons entry rest ih =>
    obtain ⟨key, value⟩ := entry
    by_cases hkey : key = .text name
    · subst hkey
      rw [eraseField_cons_self, lookup_cons_ne htext]
    · rw [eraseField_cons_ne hkey]
      by_cases hother : key = .text other
      · subst hother
        rw [lookup_cons_self, lookup_cons_self]
      · rw [lookup_cons_ne hother, lookup_cons_ne hother, ih]

/-! ### Mappings that have each text key once -/

/-- The texts among the keys. -/
def textKeys (xs : List (Value × Value)) : List String :=
  xs.filterMap (·.1.text?)

theorem mem_textKeys (hmem : (.text name, v) ∈ xs) : name ∈ textKeys xs :=
  List.mem_filterMap.2 ⟨_, hmem, rfl⟩

theorem lookup_eraseField_self (honce : (textKeys xs).Nodup) :
    lookup name (eraseField name xs) = none := by
  induction xs with
  | nil => rfl
  | cons entry rest ih =>
    obtain ⟨key, value⟩ := entry
    by_cases hkey : key = .text name
    · subst hkey
      rw [eraseField_cons_self]
      have hnew : name ∉ textKeys rest := (List.nodup_cons.1 honce).1
      cases hlookup : lookup name rest with
      | none => rfl
      | some v => exact absurd (mem_textKeys (mem_of_lookup hlookup)) hnew
    · rw [eraseField_cons_ne hkey, lookup_cons_ne hkey]
      refine ih (honce.sublist ?_)
      exact (List.sublist_cons_self _ rest).filterMap _

theorem nodup_eraseField (honce : (textKeys xs).Nodup) : (textKeys (eraseField name xs)).Nodup := by
  refine honce.sublist (List.Sublist.filterMap _ ?_)
  induction xs with
  | nil => exact List.Sublist.refl _
  | cons entry rest ih =>
    obtain ⟨key, value⟩ := entry
    by_cases hkey : key = .text name
    · subst hkey
      rw [eraseField_cons_self]
      exact List.sublist_cons_self _ rest
    · rw [eraseField_cons_ne hkey]
      exact (ih (honce.sublist ((List.sublist_cons_self _ rest).filterMap _))).cons_cons _

theorem textKeys_cons (entry : Value × Value) (rest : List (Value × Value)) :
    textKeys (entry :: rest) = entry.1.text?.toList ++ textKeys rest := by
  unfold textKeys
  rw [List.filterMap_cons]
  cases entry.1.text? <;> rfl

/-- Entries keep their text keys when one is set, or get one at the end that is new. -/
theorem textKeys_insertEntry (key value : Value) (xs : List (Value × Value)) :
    textKeys (insertEntry key value xs) = textKeys xs ∨
      ∃ name, key = .text name ∧ name ∉ textKeys xs ∧
        textKeys (insertEntry key value xs) = textKeys xs ++ [name] := by
  induction xs with
  | nil => cases key <;> simp [insertEntry, textKeys, text?]
  | cons entry rest ih =>
    obtain ⟨k, v⟩ := entry
    rw [insertEntry]
    split
    · exact .inl rfl
    · next hsame =>
      simp only [textKeys_cons]
      rcases ih with heq | ⟨name, rfl, hnew, heq⟩
      · exact .inl (by rw [heq])
      · refine .inr ⟨name, rfl, ?_, by rw [heq, List.append_assoc]⟩
        rw [List.mem_append, not_or]
        refine ⟨fun hmem => hsame (sameKey_text_iff.2 ?_), hnew⟩
        cases k <;> simp_all [text?]

theorem nodup_insertEntry (key value : Value) (honce : (textKeys xs).Nodup) :
    (textKeys (insertEntry key value xs)).Nodup := by
  rcases textKeys_insertEntry key value xs with heq | ⟨name, _, hnew, heq⟩
  · rwa [heq]
  · rw [heq]
    refine List.nodup_append.2 ⟨honce, by simp, ?_⟩
    rintro n hn _ hname rfl
    obtain rfl := List.mem_singleton.1 hname
    exact hnew hn

theorem nodup_foldl_insertEntry (entries : List (Value × Value)) (honce : (textKeys xs).Nodup) :
    (textKeys (entries.foldl (fun done (key, value) => insertEntry key value done) xs)).Nodup := by
  induction entries generalizing xs with
  | nil => exact honce
  | cons entry rest ih => exact ih (nodup_insertEntry entry.1 entry.2 honce)

theorem nodup_mapOfEntries {entries : List (Value × Value)} (h : mapOfEntries entries = .map xs) :
    (textKeys xs).Nodup := by
  cases h
  exact nodup_foldl_insertEntry entries List.nodup_nil

end Stepwise.Value
