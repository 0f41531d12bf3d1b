import Stepwise.Proofs.Bridge.Retract

namespace Stepwise

/-- A question that was put: the inquiry that put it, its step and its kind. -/
structure Posed where
  inquiry : Nat
  step : String
  kind : Question.Kind

/-- An answer that found its question: the ticket it settled, and what it said. -/
structure Grant (α : Type) where
  ticket : Nat
  step : String
  kind : Question.Kind
  answer : α

/-- A bridge with the questions put through it, by the numbers of their tickets, and the answers
    that found their question, in order. -/
structure Ledger (α : Type) where
  bridge : Bridge α
  posed : List Posed
  grants : List (Grant α)

variable {α : Type}

namespace Ledger

/-- The books agree with the bridge, which began with the answers `seed`. -/
structure Coherent (seed : Table α) (l : Ledger α) : Prop where
  numbered : l.posed.length = l.bridge.tickets.length
  /-- No inquiry puts two questions. -/
  asked_once : (l.posed.map Posed.inquiry).Nodup
  recorded : ∀ p ∈ l.bridge.pending, ∃ i, l.posed[p.ticket]? = some ⟨i, p.step, p.kind⟩
  latest : ∀ p ∈ l.bridge.pending, ∀ t r, l.posed[t]? = some r → r.step = p.step → t ≤ p.ticket
  /-- Questions that wait for an answer can be answered. -/
  awaited : ∀ t, l.bridge.isUnsettled t → ∃ p ∈ l.bridge.pending, p.ticket = t
  granted : ∀ t a, l.bridge.ticket? t = some (.answered a) → ∃ g ∈ l.grants, g.ticket = t ∧ g.answer = a
  settled : ∀ g ∈ l.grants, l.bridge.ticket? g.ticket = some (.answered g.answer) ∧
    ∃ i, l.posed[g.ticket]? = some ⟨i, g.step, g.kind⟩
  granted_once : (l.grants.map Grant.ticket).Nodup
  answers : l.bridge.answers = seed.insertAll (l.grants.map fun g => (g.step, g.answer))
  /-- A bridge that replays asks nothing that it has an answer to. -/
  unanswered : l.bridge.replays → ∀ p ∈ l.bridge.pending, l.bridge.answers.get? p.step = none

variable {seed : Table α} {l : Ledger α}

theorem getElem?_concat_iff {β : Type} {xs : List β} {x y : β} {t : Nat} :
    (xs ++ [x])[t]? = some y ↔ xs[t]? = some y ∨ t = xs.length ∧ x = y := by
  grind

theorem nodup_map_concat {β γ : Type} {f : β → γ} {xs : List β} {x : β} (hnodup : (xs.map f).Nodup)
    (hnew : ∀ y ∈ xs, f y ≠ f x) : ((xs ++ [x]).map f).Nodup := by
  rw [List.map_append, List.nodup_append]
  refine ⟨hnodup, by simp, ?_⟩
  intro j hj k hk
  obtain ⟨y, hy, rfl⟩ := List.mem_map.1 hj
  rw [List.mem_singleton.1 hk]
  exact hnew y hy

theorem coherent_start (replays : Bool) (seed : Table α) :
    Coherent seed ⟨.start replays seed, [], []⟩ where
  numbered := rfl
  asked_once := List.nodup_nil
  recorded := nofun
  latest := nofun
  awaited _ hunsettled := nomatch Bridge.isUnsettled_iff.1 hunsettled
  granted := nofun
  settled := nofun
  granted_once := List.nodup_nil
  answers := rfl
  unanswered := nofun

namespace Coherent

/-- Only one question of a step can be answered. -/
theorem ticket_eq (h : Coherent seed l) {p p' : Pending} (hp : p ∈ l.bridge.pending)
    (hp' : p' ∈ l.bridge.pending) (hstep : p.step = p'.step) : p.ticket = p'.ticket := by
  obtain ⟨i, hi⟩ := h.recorded p hp
  obtain ⟨i', hi'⟩ := h.recorded p' hp'
  exact Nat.le_antisymm (h.latest p' hp' _ _ hi hstep) (h.latest p hp _ _ hi' hstep.symm)

/-- A refused answer drops a question only if this is settled. -/
theorem retracts_of_refused (h : Coherent seed l) {step : String} {b : Bridge α}
    (hrefused : b = l.bridge ∨ b = l.bridge.forget step ∧
      ∃ p, l.bridge.pending? step = some p ∧ ¬ l.bridge.isUnsettled p.ticket) :
    l.bridge.Retracts b :=
  Bridge.retracts_of_refused (fun _ hp _ hp' => h.ticket_eq hp hp') hrefused

theorem retract (h : Coherent seed l) {b : Bridge α} (hb : l.bridge.Retracts b) :
    Coherent seed { l with bridge := b } where
  numbered := h.numbered.trans hb.length.symm
  asked_once := h.asked_once
  recorded p hp := h.recorded p (hb.pending p hp)
  latest p hp := h.latest p (hb.pending p hp)
  awaited t hunsettled := by
    obtain ⟨p, hp, rfl⟩ := h.awaited t (hb.isUnsettled hunsettled)
    exact ⟨p, hb.kept p hp hunsettled, rfl⟩
  granted t a hticket := by
    rcases hb.ticket t with hsame | ⟨_, hcancelled⟩
    · exact h.granted t a (hsame.symm.trans hticket)
    · exact nomatch hcancelled.symm.trans hticket
  settled g hg := ⟨hb.settled (h.settled g hg).1 nofun, (h.settled g hg).2⟩
  granted_once := h.granted_once
  answers := hb.answers.trans h.answers
  unanswered hreplays p hp := by
    simp only [hb.answers]
    exact h.unanswered (hb.replays.symm.trans hreplays) p (hb.pending p hp)

/-- A question is put at a step where no other can be answered. -/
theorem put (h : Coherent seed l) {i : Nat} {step : String} {kind : Question.Kind}
    (hnone : ∀ p ∈ l.bridge.pending, p.step ≠ step) (hreplay : l.bridge.replay? step = none)
    (hfirst : ∀ r ∈ l.posed, r.inquiry ≠ i) :
    Coherent seed { l with
      bridge := { l.bridge with
        pending := l.bridge.pending ++ [⟨step, kind, l.bridge.tickets.length⟩]
        tickets := l.bridge.tickets ++ [.unsettled] }
      posed := l.posed ++ [⟨i, step, kind⟩] } where
  numbered := by simp [h.numbered]
  asked_once := nodup_map_concat h.asked_once hfirst
  recorded p hp := by
    rcases List.mem_append.1 hp with hold | hnew
    · obtain ⟨j, hj⟩ := h.recorded p hold
      exact ⟨j, getElem?_concat_iff.2 (.inl hj)⟩
    · obtain rfl := List.mem_singleton.1 hnew
      exact ⟨i, getElem?_concat_iff.2 (.inr ⟨h.numbered.symm, rfl⟩)⟩
  latest p hp t r hr hstep := by
    rcases List.mem_append.1 hp with hold | hnew
    · rcases getElem?_concat_iff.1 hr with hr | ⟨rfl, rfl⟩
      · exact h.latest p hold t r hr hstep
      · exact absurd hstep.symm (hnone p hold)
    · obtain rfl := List.mem_singleton.1 hnew
      have hlt := (List.getElem?_eq_some_iff.1 hr).1
      simp only [List.length_append, h.numbered, List.length_singleton] at hlt
      exact Nat.le_of_lt_succ hlt
  awaited t hunsettled := by
    rcases getElem?_concat_iff.1 (Bridge.isUnsettled_iff.1 hunsettled) with hold | ⟨rfl, _⟩
    · obtain ⟨p, hp, rfl⟩ := h.awaited t (Bridge.isUnsettled_iff.2 hold)
      exact ⟨p, List.mem_append_left _ hp, rfl⟩
    · exact ⟨_, List.mem_append_right _ (List.mem_singleton_self _), rfl⟩
  granted t a hticket := by
    rcases getElem?_concat_iff.1 hticket with hold | ⟨_, hnew⟩
    · exact h.granted t a hold
    · cases hnew
  settled g hg := by
    obtain ⟨hticket, j, hj⟩ := h.settled g hg
    exact ⟨getElem?_concat_iff.2 (.inl hticket), j, getElem?_concat_iff.2 (.inl hj)⟩
  granted_once := h.granted_once
  answers := h.answers
  unanswered hreplays p hp := by
    rcases List.mem_append.1 hp with hold | hnew
    · exact h.unanswered hreplays p hold
    · obtain rfl := List.mem_singleton.1 hnew
      simpa [Bridge.replay?, show l.bridge.replays = true from hreplays] using hreplay

/-- The question at a step gets an answer. -/
theorem grant (h : Coherent seed l) {step : String} {p : Pending} (a : α)
    (hpending : l.bridge.pending? step = some p) (hunsettled : l.bridge.isUnsettled p.ticket) :
    Coherent seed { l with
      bridge := { l.bridge.forget step with
        answers := l.bridge.answers.insert step a
        tickets := l.bridge.tickets.set p.ticket (.answered a) }
      grants := l.grants ++ [⟨p.ticket, step, p.kind, a⟩] } := by
  obtain ⟨hmem, hstep⟩ := Bridge.mem_of_pending? hpending
  have hticket := Bridge.isUnsettled_iff.1 hunsettled
  have hnew : ∀ g ∈ l.grants, p.ticket ≠ g.ticket := by
    intro g hg heq
    rw [heq, (h.settled g hg).1] at hticket
    cases hticket
  have hset := Bridge.getElem?_set_tickets hunsettled (.answered a)
  constructor
  case numbered => exact h.numbered.trans List.length_set.symm
  case asked_once => exact h.asked_once
  case recorded => exact fun q hq => h.recorded q (List.mem_filter.1 hq).1
  case latest => exact fun q hq => h.latest q (List.mem_filter.1 hq).1
  case awaited =>
    intro t hunsettled
    rw [Bridge.isUnsettled_iff, Bridge.ticket?, hset] at hunsettled
    split at hunsettled
    · cases hunsettled
    next hne =>
      obtain ⟨q, hq, rfl⟩ := h.awaited t (Bridge.isUnsettled_iff.2 hunsettled)
      have hother : q.step ≠ step := fun heq => hne (h.ticket_eq hmem hq (hstep.trans heq.symm))
      exact ⟨q, List.mem_filter.2 ⟨hq, by simpa using hother⟩, rfl⟩
  case granted =>
    intro t b hanswered
    rw [Bridge.ticket?, hset] at hanswered
    split at hanswered
    next heq =>
      cases hanswered
      exact ⟨_, List.mem_append_right _ (List.mem_singleton_self _), heq, rfl⟩
    next =>
      obtain ⟨g, hg, hsame⟩ := h.granted t b hanswered
      exact ⟨g, List.mem_append_left _ hg, hsame⟩
  case settled =>
    intro g hg
    rcases List.mem_append.1 hg with hold | hlast
    · obtain ⟨hanswered, hown⟩ := h.settled g hold
      exact ⟨((hset _).trans (if_neg (hnew g hold))).trans hanswered, hown⟩
    · obtain rfl := List.mem_singleton.1 hlast
      exact ⟨(hset _).trans (if_pos rfl), hstep ▸ h.recorded p hmem⟩
  case granted_once => exact nodup_map_concat h.granted_once fun g hg => (hnew g hg).symm
  case answers =>
    simp only [h.answers, List.map_append, Table.insertAll, List.foldl_append]
    rfl
  case unanswered =>
    intro hreplays q hq
    obtain ⟨hq, hother⟩ := List.mem_filter.1 hq
    simp only [Table.get?_insert]
    rw [if_neg (by simpa using hother)]
    exact h.unanswered hreplays q hq

end Coherent

/-- The books only grow: no question, no settlement and no replayed answer is taken back. -/
structure Grows (l l' : Ledger α) : Prop where
  replays : l'.bridge.replays = l.bridge.replays
  posed : ∀ (t : Nat) r, l.posed[t]? = some r → l'.posed[t]? = some r
  settled : ∀ t k, l.bridge.ticket? t = some k → k ≠ .unsettled → l'.bridge.ticket? t = some k
  answers : l.bridge.replays → ∀ step a, l.bridge.answers.get? step = some a →
    l'.bridge.answers.get? step = some a

variable {l' l'' : Ledger α}

namespace Grows

theorem refl (l : Ledger α) : l.Grows l :=
  ⟨rfl, fun _ _ hr => hr, fun _ _ hk _ => hk, fun _ _ _ ha => ha⟩

theorem trans (h : l.Grows l') (h' : l'.Grows l'') : l.Grows l'' where
  replays := h'.replays.trans h.replays
  posed t r hr := h'.posed t r (h.posed t r hr)
  settled t k hk hsettled := h'.settled t k (h.settled t k hk hsettled) hsettled
  answers hreplays step a ha := h'.answers (h.replays.trans hreplays) step a
    (h.answers hreplays step a ha)

theorem retract {b : Bridge α} (hb : l.bridge.Retracts b) : l.Grows { l with bridge := b } where
  replays := hb.replays
  posed _ _ hr := hr
  settled _ _ hk hsettled := hb.settled hk hsettled
  answers _ step a ha := by simpa only [hb.answers] using ha

theorem put (l : Ledger α) (i : Nat) (step : String) (kind : Question.Kind) :
    l.Grows { l with
      bridge := { l.bridge with
        pending := l.bridge.pending ++ [⟨step, kind, l.bridge.tickets.length⟩]
        tickets := l.bridge.tickets ++ [.unsettled] }
      posed := l.posed ++ [⟨i, step, kind⟩] } where
  replays := rfl
  posed _ _ hr := getElem?_concat_iff.2 (.inl hr)
  settled _ _ hk _ := getElem?_concat_iff.2 (.inl hk)
  answers _ _ _ ha := ha

theorem grant {seed : Table α} (h : Coherent seed l) {step : String} {p : Pending} (a : α)
    (hpending : l.bridge.pending? step = some p) (hunsettled : l.bridge.isUnsettled p.ticket) :
    l.Grows { l with
      bridge := { l.bridge.forget step with
        answers := l.bridge.answers.insert step a
        tickets := l.bridge.tickets.set p.ticket (.answered a) }
      grants := l.grants ++ [⟨p.ticket, step, p.kind, a⟩] } where
  replays := rfl
  posed _ _ hr := hr
  settled t k hk hsettled := by
    have hne : p.ticket ≠ t := by
      rintro rfl
      rw [Bridge.isUnsettled_iff, hk] at hunsettled
      exact hsettled (Option.some.inj hunsettled)
    exact (List.getElem?_set_ne hne).trans hk
  answers hreplays other b hb := by
    obtain ⟨hmem, hstep⟩ := Bridge.mem_of_pending? hpending
    have hne : other ≠ step := by
      rintro rfl
      rw [← hstep, h.unanswered hreplays p hmem] at hb
      cases hb
    simpa only [Table.get?_insert, if_neg hne] using hb

end Grows

end Ledger

end Stepwise
