import Stepwise.Proofs.Run.Integrity

namespace Stepwise

/-- The run is out of steps. -/
def Fault.IsOverBudget (f : Fault) : Prop :=
  ∃ limit, f = .budgetExceeded limit

namespace Dialogue

variable {α β : Type}

/-- A dialogue that visits nothing and is never out of steps: it asks, and ends by a fault or by
    what `R` allows. A fault of the host ends it at once. -/
inductive Stays (R : α → Prop) : Dialogue α → Prop where
  | done {a : α} (hresult : R a) : Stays R (.done a)
  | fail {c : Context} {f : Fault} (hfault : ¬ f.IsOverBudget) : Stays R (.fail c f)
  | ask {c : Context} {q : Request} {next : Context → Reply → Dialogue α}
      (hvalue : ∀ c v, Stays R (next c (.value v)))
      (hedited : ∀ c options v, Stays R (next c (.edited options v)))
      (hfault : ∀ c f, next c (.fault f) = .fail c f) : Stays R (.ask c q next)

namespace Stays

theorem pure {R : α → Prop} {a : α} (hresult : R a) : Stays R (Pure.pure a) :=
  done hresult

theorem bind {R : α → Prop} {S : β → Prop} {d : Dialogue α} {f : α → Dialogue β} (h : Stays R d)
    (hnext : ∀ a, R a → Stays S (f a)) : Stays S (d >>= f) := by
  induction h with
  | done hresult => exact hnext _ hresult
  | fail hfault => exact fail hfault
  | ask _ _ hfault ihvalue ihedited =>
    refine ask ihvalue ihedited fun c f => ?_
    rw [hfault, Dialogue.bind]

end Stays

section Host

variable {σ : Type} {host : Responder σ} {s s' : σ} {c c' : Context} {q : Request} {reply : Reply}
  {next : Context → Reply → Dialogue α}

theorem marks_ask (hreply : host s c q = (c', reply, s')) :
    (ask c q next).marks host s = .call c q reply :: (next c' reply).marks host s' := by
  rw [marks, hreply]

theorem play_ask (hreply : host s c q = (c', reply, s')) :
    (ask c q next).play host s = (next c' reply).play host s' := by
  rw [play, hreply]

theorem visits_ask (hreply : host s c q = (c', reply, s')) :
    (ask c q next).visits host s = (next c' reply).visits host s' := by
  rw [visits, marks_ask hreply]
  rfl

theorem visits_visit (d : Dialogue α) :
    (visit c d).visits host s = c :: d.visits host s :=
  rfl

end Host

end Dialogue

namespace Run

open Dialogue

variable {hooks : Hooks} {limit limit' : Int} {place : Context}

theorem stays_request (q : Request) : Stays (fun _ => True) (Dialogue.request place q) :=
  .ask (fun _ _ => .done trivial) (fun _ _ _ => .done trivial) fun _ _ => rfl

theorem stays_holds (expression : String) : Stays (fun _ => True) (holds hooks place expression) := by
  unfold holds
  split
  · exact (stays_request _).bind fun x _ => .pure trivial
  · exact .fail nofun

theorem stays_log (message : String) : Stays (fun _ => True) (log hooks place message) := by
  unfold log
  split
  · exact (stays_request _).bind fun x _ => .pure trivial
  · exact .pure trivial

theorem stays_prompt (step message : String) (preset : Option String) :
    Stays (fun _ => True) (prompt hooks place step message preset) := by
  unfold prompt
  split
  · exact (stays_request _).bind fun x _ => .pure trivial
  · exact .fail nofun

theorem stays_choose (step message : String) (options : List Choice) :
    Stays (fun _ => True) (choose hooks place step message options) := by
  have hpick : ∀ c options v, Stays (fun _ => True) (choose.pick step c options v) := by
    intro c options v
    unfold choose.pick
    split
    · exact .done trivial
    · exact .fail (by rintro ⟨_, ⟨⟩⟩)
  unfold choose
  split
  · exact .ask (fun c v => hpick c options v) hpick fun _ _ => rfl
  · exact .fail (by rintro ⟨_, ⟨⟩⟩)

theorem stays_execute (step command : String) (args : Option (List String))
    (cwd : Option String) : Stays (fun _ => True) (execute hooks place step command args cwd) := by
  unfold execute
  split
  · refine (stays_request _).bind fun x _ => ?_
    dsimp only
    split
    · exact .pure trivial
    · exact .fail nofun
  · exact .fail nofun

/-- A step leaves the count of steps alone. -/
theorem stays_perform (p : Position) (step : Step) :
    Stays (fun x => x.1.stepsRun = p.stepsRun) (perform hooks p step) := by
  unfold perform
  cases step.action with
  | prompt message store preset => exact (stays_prompt _ _ _).bind fun x _ => .pure rfl
  | choice message options => exact (stays_choose _ _ _).bind fun x _ => .pure rfl
  | command command args cwd onError =>
    refine (stays_execute _ _ _ _).bind fun x _ => ?_
    dsimp only
    split
    · exact .pure rfl
    · cases onError with
      | fail => exact .pure rfl
      | proceed => exact (stays_log _).bind fun c _ => .pure rfl
  | require expression message =>
    refine (stays_holds _).bind fun x _ => ?_
    dsimp only
    split
    · exact .pure rfl
    · exact .fail nofun
  | goto target => exact .pure rfl
  | finish status message => exact .pure rfl

theorem stays_dispatch (p : Position) (step : Step) :
    Stays (fun x => x.1.stepsRun = p.stepsRun) (dispatch hooks p step) := by
  unfold dispatch
  cases step.guard? with
  | none => exact stays_perform p step
  | some guard =>
    refine (stays_holds _).bind fun x _ => ?_
    dsimp only
    split
    · exact stays_perform { p with context := x.1 } step
    · exact (stays_log _).bind fun c _ => .pure rfl

/-- The rest of a run with a limit beside the rest of the run with a limit that is not lower, when
    `n` steps have been visited: the two ask and visit the same, until the first is at a step that
    the other still visits. -/
inductive Curtails (limit limit' : Int) : Nat → Dialogue Result → Dialogue Result → Prop where
  | done {n : Nat} {r : Result} (hcount : r.stepsRun = n) :
      Curtails limit limit' n (.done r) (.done r)
  | fail {n : Nat} {c : Context} {f : Fault} (hfault : ¬ f.IsOverBudget) :
      Curtails limit limit' n (.fail c f) (.fail c f)
  | beyond {n : Nat} {c : Context} {rest : Dialogue Result} (hspent : n = limit.toNat)
      (hmore : limit.toNat < limit'.toNat) :
      Curtails limit limit' n (.fail c (.budgetExceeded limit)) (.visit c rest)
  | both {n : Nat} {c : Context} (hspent : n = limit.toNat) (hnoMore : limit'.toNat = limit.toNat) :
      Curtails limit limit' n (.fail c (.budgetExceeded limit)) (.fail c (.budgetExceeded limit'))
  | visit {n : Nat} {c : Context} {d d' : Dialogue Result} (hleft : n < limit.toNat)
      (hrest : Curtails limit limit' (n + 1) d d') :
      Curtails limit limit' n (.visit c d) (.visit c d')
  | ask {n : Nat} {c : Context} {q : Request} {next next' : Context → Reply → Dialogue Result}
      (hvalue : ∀ c v, Curtails limit limit' n (next c (.value v)) (next' c (.value v)))
      (hedited : ∀ c options v,
        Curtails limit limit' n (next c (.edited options v)) (next' c (.edited options v)))
      (hfault : ∀ c f, next c (.fault f) = .fail c f)
      (hfault' : ∀ c f, next' c (.fault f) = .fail c f) :
      Curtails limit limit' n (.ask c q next) (.ask c q next')

/-- What comes before a visit does not tell the limits apart. -/
theorem Curtails.of_stays {α : Type} {R : α → Prop} {n : Nat} {d : Dialogue α}
    {f g : α → Dialogue Result} (h : Stays R d)
    (hnext : ∀ a, R a → Curtails limit limit' n (f a) (g a)) :
    Curtails limit limit' n (d >>= f) (d >>= g) := by
  induction h with
  | done hresult => exact hnext _ hresult
  | fail hfault => exact fail hfault
  | ask _ _ hfault ihvalue ihedited =>
    refine ask ihvalue ihedited (fun c f => ?_) (fun c f => ?_)
    · rw [hfault, Dialogue.bind]
    · rw [hfault, Dialogue.bind]

theorem curtails_conclude (p : Position) (status : Status) (message : Option String) :
    Curtails limit limit' p.stepsRun (p.conclude status message) (p.conclude status message) := by
  unfold Position.conclude
  split
  · exact .done rfl
  · exact .fail nofun

/-- By induction on the lower budget: with each visit one step of both budgets is spent. -/
theorem curtails_walk (budget : Nat) {budget' : Nat} (hle : budget ≤ budget') {p : Position}
    (hspent : p.stepsRun + budget = limit.toNat) (hspent' : p.stepsRun + budget' = limit'.toNat) :
    Curtails limit limit' p.stepsRun (walk hooks limit budget p) (walk hooks limit' budget' p) := by
  induction budget generalizing budget' p with
  | zero =>
    unfold walk
    cases p.target.filter (!·.isEmpty) with
    | none => exact curtails_conclude p _ _
    | some id =>
      dsimp only
      cases p.script.step? id with
      | none => exact .fail (by rintro ⟨_, ⟨⟩⟩)
      | some step =>
        cases budget' with
        | zero => exact .both (by omega) (by omega)
        | succ budget' => exact .beyond (by omega) (by omega)
  | succ budget ih =>
    obtain ⟨budget', rfl⟩ := Nat.exists_eq_succ_of_ne_zero (Nat.ne_zero_of_lt hle)
    unfold walk
    cases p.target.filter (!·.isEmpty) with
    | none => exact curtails_conclude p _ _
    | some id =>
      dsimp only
      cases p.script.step? id with
      | none => exact .fail (by rintro ⟨_, ⟨⟩⟩)
      | some step =>
        refine .visit (by omega) (.of_stays (stays_dispatch _ step) ?_)
        rintro ⟨q, move⟩ hcount
        have hcount : q.stepsRun = p.stepsRun + 1 := hcount
        rw [← hcount]
        cases move with
        | go target =>
          have hle' : budget ≤ budget' := Nat.le_of_succ_le_succ hle
          exact ih hle' (p := { q with target }) (by dsimp only; omega) (by dsimp only; omega)
        | stop status message => exact curtails_conclude q status message

/-- A run and the run with a higher limit. -/
theorem curtails_ofInput (hle : limit ≤ limit') (input : Value) (vars : Table Value) :
    Curtails limit limit' 0 (ofInput hooks limit input vars) (ofInput hooks limit' input vars) := by
  unfold ofInput
  cases Script.ofInput input with
  | ok script =>
    have hbudget : limit.toNat ≤ limit'.toNat := Int.toNat_le_toNat hle
    exact curtails_walk (p := ⟨script, script.first?, 0, ⟨none, vars⟩⟩) limit.toNat hbudget
      (Nat.zero_add _) (Nat.zero_add _)
  | error fault => exact .fail nofun

section Limits

variable {σ : Type} {n : Nat} {d d' : Dialogue Result} {host : Responder σ} {s s' : σ}
  {c c' : Context} {q : Request} {reply : Reply} {next next' : Context → Reply → Dialogue Result}

/-- The steps visited so far and the ones still to come are no more than the limit. -/
theorem Curtails.visits_le (h : Curtails limit limit' n d d') (hn : n ≤ limit.toNat)
    (host : Responder σ) (s : σ) : n + (d.visits host s).length ≤ limit.toNat := by
  induction h generalizing s with
  | done | fail | beyond | both => exact hn
  | visit hleft _ ih =>
    have hrest := ih hleft s
    rw [visits_visit, List.length_cons]
    omega
  | @ask _ c q next next' _ _ hfault _ ihvalue ihedited =>
    rcases hreply : host s c q with ⟨c', reply, s'⟩
    rw [visits_ask hreply]
    cases reply with
    | value v => exact ihvalue c' v hn s'
    | edited options v => exact ihedited c' options v hn s'
    | fault f =>
      rw [hfault]
      exact hn

/-- A result counts the steps that were visited. -/
theorem Curtails.stepsRun_eq (h : Curtails limit limit' n d d') (host : Responder σ) (s : σ)
    {r : Result} (hresult : (d.play host s).1 = .ok r) :
    r.stepsRun = n + (d.visits host s).length := by
  induction h generalizing s with
  | done hcount =>
    cases hresult
    exact hcount
  | fail | beyond | both => cases hresult
  | visit _ _ ih =>
    have hcount := ih s hresult
    rw [visits_visit, List.length_cons]
    omega
  | @ask _ c q next next' _ _ hfault _ ihvalue ihedited =>
    rcases hreply : host s c q with ⟨c', reply, s'⟩
    rw [play_ask hreply] at hresult
    rw [visits_ask hreply]
    cases reply with
    | value v => exact ihvalue c' v s' hresult
    | edited options v => exact ihedited c' options v s' hresult
    | fault f =>
      rw [hfault] at hresult
      cases hresult

/-- A run was stopped at a step that its limit leaves no room for. The run with the other limit has
    gone the same way, and visits that step next if its own limit leaves room for it. -/
structure Cuts (limit limit' : Int) (n : Nat) (d d' : Dialogue Result) (host : Responder σ) (s : σ)
    (place : Context) : Prop where
  error : (d.play host s).1 = .error (place, .budgetExceeded limit)
  full : n + (d.visits host s).length = limit.toNat
  further : limit.toNat < limit'.toNat →
    ∃ later, d'.marks host s = d.marks host s ++ .visit place :: later
  noFurther : limit'.toNat = limit.toNat → d'.marks host s = d.marks host s ∧
    d'.play host s = (.error (place, .budgetExceeded limit'), (d.play host s).2)

/-- The limit makes no difference to what is seen of the run. -/
structure Spares (d d' : Dialogue Result) (host : Responder σ) (s : σ) : Prop where
  marks : d'.marks host s = d.marks host s
  play : d'.play host s = d.play host s
  raised : ∀ place f, (d.play host s).1 = .error (place, f) → f.IsOverBudget →
    ∃ c q, (d.marks host s).getLast? = some (.call c q (.fault f))

theorem Spares.visit {place : Context} (h : Spares d d' host s) :
    Spares (.visit place d) (.visit place d') host s where
  marks := congrArg (List.cons _) h.marks
  play := h.play
  raised := by
    intro c f herror hover
    obtain ⟨c', q, hlast⟩ := h.raised c f herror hover
    exact ⟨c', q, by rw [Dialogue.marks, List.getLast?_cons, hlast, Option.getD_some]⟩

theorem Cuts.visit {place c : Context} (h : Cuts limit limit' (n + 1) d d' host s c) :
    Cuts limit limit' n (.visit place d) (.visit place d') host s c where
  error := h.error
  full := by
    have hfull := h.full
    rw [visits_visit, List.length_cons]
    omega
  further hmore := by
    obtain ⟨later, hlater⟩ := h.further hmore
    exact ⟨later, congrArg (List.cons _) hlater⟩
  noFurther hnoMore := by
    obtain ⟨hmarks, hplay⟩ := h.noFurther hnoMore
    exact ⟨congrArg (List.cons _) hmarks, hplay⟩

theorem Spares.ask (hreply : host s c q = (c', reply, s'))
    (h : Spares (next c' reply) (next' c' reply) host s') :
    Spares (.ask c q next) (.ask c q next') host s where
  marks := by rw [marks_ask hreply, marks_ask hreply, h.marks]
  play := by rw [play_ask hreply, play_ask hreply, h.play]
  raised := by
    intro place f herror hover
    rw [play_ask hreply] at herror
    obtain ⟨c', q', hlast⟩ := h.raised place f herror hover
    exact ⟨c', q', by rw [marks_ask hreply, List.getLast?_cons, hlast, Option.getD_some]⟩

theorem Cuts.ask {place : Context} (hreply : host s c q = (c', reply, s'))
    (h : Cuts limit limit' n (next c' reply) (next' c' reply) host s' place) :
    Cuts limit limit' n (.ask c q next) (.ask c q next') host s place where
  error := by rw [play_ask hreply, h.error]
  full := by rw [visits_ask hreply, h.full]
  further hmore := by
    obtain ⟨later, hlater⟩ := h.further hmore
    exact ⟨later, by rw [marks_ask hreply, marks_ask hreply, hlater, List.cons_append]⟩
  noFurther hnoMore := by
    obtain ⟨hmarks, hplay⟩ := h.noFurther hnoMore
    exact ⟨by rw [marks_ask hreply, marks_ask hreply, hmarks],
      by rw [play_ask hreply, play_ask hreply, hplay]⟩

/-- Whoever answers, the lower limit either makes no difference or cuts the run short. -/
theorem Curtails.spares_or_cuts (h : Curtails limit limit' n d d') (host : Responder σ) (s : σ) :
    Spares d d' host s ∨ ∃ place, Cuts limit limit' n d d' host s place := by
  induction h generalizing s with
  | done => exact .inl ⟨rfl, rfl, nofun⟩
  | fail hfault =>
    refine .inl ⟨rfl, rfl, fun place f herror hover => ?_⟩
    cases herror
    exact absurd hover hfault
  | beyond hspent hmore => exact .inr ⟨_, rfl, hspent, fun _ => ⟨_, rfl⟩, by omega⟩
  | both hspent hnoMore => exact .inr ⟨_, rfl, hspent, by omega, fun _ => ⟨rfl, rfl⟩⟩
  | visit _ _ ih => exact (ih s).imp .visit fun ⟨place, h⟩ => ⟨place, h.visit⟩
  | @ask _ c q next next' _ _ hfault hfault' ihvalue ihedited =>
    rcases hreply : host s c q with ⟨c', reply, s'⟩
    cases reply with
    | value v => exact (ihvalue c' v s').imp (.ask hreply) fun ⟨place, h⟩ => ⟨place, h.ask hreply⟩
    | edited options v =>
      exact (ihedited c' options v s').imp (.ask hreply) fun ⟨place, h⟩ => ⟨place, h.ask hreply⟩
    | fault f =>
      -- The host ends both runs here, maybe by raising just the fault of a spent budget.
      have hmarks : ∀ {next : Context → Reply → Dialogue Result},
          (∀ c f, next c (.fault f) = .fail c f) →
            Dialogue.marks host (.ask c q next) s = [.call c q (.fault f)] := by
        intro next hends
        rw [marks_ask hreply, hends, Dialogue.marks]
      refine .inl ⟨by rw [hmarks hfault, hmarks hfault'], ?_, fun place g herror _ => ?_⟩
      · rw [play_ask hreply, play_ask hreply, hfault, hfault']
      · rw [play_ask hreply, hfault] at herror
        cases herror
        exact ⟨c, q, by rw [hmarks hfault]; rfl⟩

end Limits

end Run

end Stepwise
