import Stepwise.Run.Dialogue

namespace Stepwise

/-- The reply leaves the options of the script as they are. -/
def Reply.Keeps : Reply → Prop
  | .edited _ _ => False
  | _ => True

/-- What is seen of a run: the steps that it visits, and the requests with their replies. -/
inductive Mark where
  | visit (place : Context)
  | call (place : Context) (request : Request) (reply : Reply)

/-- The faults that a run raises of itself, rather than its host or its input. -/
def Fault.IsOwn : Fault → Prop
  | .unserved _ _ | .noEvaluator | .unknownChoice _ _ | .requirementFailed _
  | .budgetExceeded _ | .badOutcome _ _ => True
  | _ => False

/-- The result cannot be made, as some variable is no text. -/
def Fault.IsBadResult (f : Fault) : Prop :=
  ∃ issues, f = .host (.badRecord "RunnerResult" issues)

/-- What two dialogues that go the same way have to agree on. -/
structure Accord where
  /-- The contexts of the two, at the same point. -/
  same : Context → Context → Prop
  /-- The steps that may be visited. -/
  visited : String → Prop
  /-- The faults that may be raised. -/
  fault : Fault → Prop
  own : ∀ f, f.IsOwn → fault f
  insert : ∀ {c c' : Context} (name s : String), same c c' →
    same { c with vars := c.vars.insert name (.text s) }
      { c' with vars := c'.vars.insert name (.text s) }
  visit : ∀ {c c' : Context} (id : String), same c c' →
    same { c with step := some id } { c' with step := some id }

/-- Both have the same context. -/
def Accord.ofEq (visited : String → Prop) : Accord where
  same := Eq
  visited := visited
  fault := fun f => f.IsOwn ∨ f.IsBadResult
  own := fun _ => .inl
  insert := by rintro c _ name s rfl; rfl
  visit := by rintro c _ id rfl; rfl

namespace Dialogue

variable {α β γ δ σ : Type}

/-- Everything that is seen of a dialogue with a host. -/
def marks (host : Responder σ) : Dialogue α → σ → List Mark
  | done _, _ => []
  | fail _ _, _ => []
  | visit place rest, s => .visit place :: rest.marks host s
  | ask place request next, s =>
    let (place', reply, s) := host s place request
    .call place request reply :: (next place' reply).marks host s

/-- The visits of a dialogue with a host, in order. -/
def visits (host : Responder σ) (d : Dialogue α) (s : σ) : List Context :=
  (d.marks host s).filterMap fun
    | .visit place => some place
    | .call _ _ _ => none

theorem mem_visits {host : Responder σ} {d : Dialogue α} {s : σ} {place : Context} :
    place ∈ d.visits host s ↔ .visit place ∈ d.marks host s := by
  unfold visits
  rw [List.mem_filterMap]
  constructor
  · rintro ⟨mark, hmark, hplace⟩
    cases mark with
    | visit other =>
      obtain rfl := Option.some.inj hplace
      exact hmark
    | call c q reply => cases hplace
  · exact fun hmark => ⟨_, hmark, rfl⟩

/-- The dialogues put the same requests and visit the same steps as long as they get the same
    replies, and end alike. A fault of the host ends both at once. -/
inductive Related (A : Accord) (R : α → β → Prop) : Dialogue α → Dialogue β → Prop where
  | done {a : α} {b : β} (hresult : R a b) : Related A R (done a) (done b)
  | fail {c c' : Context} {f : Fault} (hsame : A.same c c') (hfault : A.fault f) :
      Related A R (fail c f) (fail c' f)
  | visit {c c' : Context} {id : String} {d : Dialogue α} {d' : Dialogue β} (hsame : A.same c c')
      (hstep : c.step = some id) (hvisited : A.visited id) (hrest : Related A R d d') :
      Related A R (visit c d) (visit c' d')
  | ask {c c' : Context} {q : Request} {next : Context → Reply → Dialogue α}
      {next' : Context → Reply → Dialogue β} (hsame : A.same c c')
      (hvalue : ∀ c c' v, A.same c c' → Related A R (next c (.value v)) (next' c' (.value v)))
      (hfault : ∀ c f, next c (.fault f) = Dialogue.fail c f)
      (hfault' : ∀ c f, next' c (.fault f) = Dialogue.fail c f) :
      Related A R (ask c q next) (ask c' q next')

namespace Related

variable {A : Accord} {R : α → β → Prop} {S : γ → δ → Prop}

theorem pure {a : α} {b : β} (hresult : R a b) :
    Related A R (Pure.pure a) (Pure.pure b) :=
  done hresult

theorem mono {R' : α → β → Prop} {d : Dialogue α} {d' : Dialogue β} (h : Related A R d d')
    (himp : ∀ a b, R a b → R' a b) : Related A R' d d' := by
  induction h with
  | done hresult => exact done (himp _ _ hresult)
  | fail hsame hfault => exact fail hsame hfault
  | visit hsame hstep hvisited _ ih => exact visit hsame hstep hvisited ih
  | ask hsame _ hfault hfault' ih => exact ask hsame ih hfault hfault'

theorem bind {d : Dialogue α} {d' : Dialogue β} {f : α → Dialogue γ} {g : β → Dialogue δ}
    (h : Related A R d d') (hnext : ∀ a b, R a b → Related A S (f a) (g b)) :
    Related A S (d >>= f) (d' >>= g) := by
  induction h with
  | done hresult => exact hnext _ _ hresult
  | fail hsame hfault => exact fail hsame hfault
  | visit hsame hstep hvisited _ ih => exact visit hsame hstep hvisited ih
  | ask hsame _ hfault hfault' ih =>
    refine ask hsame (fun c c' v hc => ih c c' v hc) (fun c f => ?_) (fun c f => ?_)
    · rw [hfault, Dialogue.bind]
    · rw [hfault', Dialogue.bind]

end Related

/-- A host that keeps the script, and that hands contexts on so that they still agree. -/
def Respects (host : Responder σ) (A : Accord) : Prop :=
  ∀ s c c' q, A.same c c' → (host s c q).2.1.Keeps ∧
    A.same (host s c q).1 (host s c' q).1 ∧ (host s c' q).2 = (host s c q).2

theorem respects_ofEq {host : Responder σ} (hkeeps : ∀ s c q, (host s c q).2.1.Keeps)
    (visited : String → Prop) : Respects host (.ofEq visited) := by
  rintro s c _ q rfl
  exact ⟨hkeeps s c q, rfl, rfl⟩

namespace Related

variable {A : Accord} {R : α → β → Prop}

/-- A dialogue related to another visits permitted steps only. -/
theorem visited_of_mem_marks {d : Dialogue α} {d' : Dialogue β} (h : Related A R d d')
    {host : Responder σ} (hhost : Respects host A) (s : σ) {place : Context}
    (hmem : .visit place ∈ d.marks host s) : ∃ id, place.step = some id ∧ A.visited id := by
  induction h generalizing s with
  | done | fail => simp [marks] at hmem
  | visit hsame hstep hvisited _ ih =>
    rcases List.mem_cons.1 hmem with heq | hmem
    · cases heq
      exact ⟨_, hstep, hvisited⟩
    · exact ih s hmem
  | @ask c c' q next next' hsame _ hfault _ ih =>
    obtain ⟨hkeeps, hplaces, _⟩ := hhost s c c' q hsame
    simp only [marks, List.mem_cons, reduceCtorEq, false_or] at hmem
    cases hreply : (host s c q).2.1 with
    | value v => exact ih _ _ v hplaces _ (hreply ▸ hmem)
    | edited options v => simp [hreply, Reply.Keeps] at hkeeps
    | fault f => simp [hreply, hfault, marks] at hmem

/-- A dialogue related to another fails by a permitted fault, unless its host raised the fault as
    its last reply. -/
theorem fault_of_play_error {d : Dialogue α} {d' : Dialogue β} (h : Related A R d d')
    {host : Responder σ} (hhost : Respects host A) (s : σ) {place : Context} {f : Fault}
    (herror : (d.play host s).1 = .error (place, f)) :
    A.fault f ∨ ∃ c q, (d.marks host s).getLast? = some (.call c q (.fault f)) := by
  induction h generalizing s with
  | done => simp [play] at herror
  | fail _ hfault =>
    simp only [play, Except.error.injEq, Prod.mk.injEq] at herror
    exact .inl (herror.2 ▸ hfault)
  | visit _ _ _ _ ih =>
    refine (ih s herror).imp_right fun ⟨c, q, hlast⟩ => ⟨c, q, ?_⟩
    rw [marks, List.getLast?_cons, hlast, Option.getD_some]
  | @ask c c' q next next' hsame _ hfault _ ih =>
    obtain ⟨hkeeps, hplaces, _⟩ := hhost s c c' q hsame
    simp only [play] at herror
    simp only [marks]
    cases hreply : (host s c q).2.1 with
    | value v =>
      rw [hreply] at herror
      refine (ih _ _ v hplaces _ herror).imp_right fun ⟨c, q, hlast⟩ => ⟨c, q, ?_⟩
      rw [List.getLast?_cons, hlast, Option.getD_some]
    | edited options v => simp [hreply, Reply.Keeps] at hkeeps
    | fault g =>
      rw [hreply, hfault] at herror
      simp only [play, Except.error.injEq, Prod.mk.injEq] at herror
      exact .inr ⟨c, q, by simp [hfault, marks, herror.2]⟩

/-- Dialogues that go the same way from equal contexts cannot be told apart by a host. -/
theorem marks_eq_and_play_eq {visited : String → Prop} {d d' : Dialogue α}
    (h : Related (.ofEq visited) Eq d d') {host : Responder σ}
    (hkeeps : ∀ s c q, (host s c q).2.1.Keeps) (s : σ) :
    d.marks host s = d'.marks host s ∧ d.play host s = d'.play host s := by
  induction h generalizing s with
  | done hresult => exact ⟨rfl, by rw [hresult]⟩
  | fail hsame => exact ⟨rfl, by rw [show _ = _ from hsame]⟩
  | visit hsame _ _ _ ih =>
    obtain ⟨hmarks, hplay⟩ := ih s
    exact ⟨by rw [marks, marks, hmarks, show _ = _ from hsame], hplay⟩
  | @ask c c' q next next' hsame _ hfault hfault' ih =>
    obtain rfl : c = c' := hsame
    simp only [marks, play]
    cases hreply : (host s c q).2.1 with
    | value v =>
      obtain ⟨hmarks, hplay⟩ := ih _ _ v rfl (host s c q).2.2
      exact ⟨by rw [hmarks], hplay⟩
    | edited options v => exact absurd (hkeeps s c q) (by simp [hreply, Reply.Keeps])
    | fault f => simp [hfault, hfault', marks, play]

end Related

end Dialogue

end Stepwise
