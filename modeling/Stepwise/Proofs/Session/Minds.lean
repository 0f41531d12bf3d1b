import Stepwise.Proofs.Bridge.Heeds
import Stepwise.Proofs.Bridge.Interview
import Stepwise.Proofs.Session.Abandoned

namespace Stepwise

open Run

/-- A reply to anything but a question is no answer. -/
theorem Mark.answer?_of_not_isQuestion {q : Request} (hq : ¬ q.IsQuestion) (place : Context)
    (reply : Reply) (step : String) : Mark.answer? step (.call place q reply) = none := by
  cases q with
  | prompt | choose => exact absurd trivial hq
  | command | evaluate | log => rfl

theorem Mark.answer?_of_isQuestion {q : Request} (hq : q.IsQuestion) (place : Context) (v : Value)
    (step : String) : Mark.answer? step (.call place q (.value v)) =
      if place.step = some step then some v else none := by
  cases q with
  | prompt | choose => rfl
  | command | evaluate | log => exact hq.elim

theorem Run.Echoes.concat {answers : Table String} {ms : List Mark} (h : Echoes answers ms)
    {q : Request} (hq : ¬ q.IsQuestion) (place : Context) (reply : Reply) :
    Echoes answers (ms ++ [.call place q reply]) := by
  intro step v hlatest
  rw [latest_concat_of_none (Mark.answer?_of_not_isQuestion hq place reply step)] at hlatest
  exact h step v hlatest

/-- An answer that is heard is the last one at its step. -/
theorem Run.echoes_concat {answers : Table String} {ms : List Mark} {place : Context} {q : Request}
    {step a : String} (hstep : place.step = some step) (hq : q.IsQuestion)
    (hothers : ∀ other v, other ≠ step → latest (Mark.answer? other) ms = some v →
      ∃ a, v = .text a ∧ answers.get? other = some a) (ha : answers.get? step = some a) :
    Echoes answers (ms ++ [.call place q (.value (.text a))]) := by
  intro other v hlatest
  rw [latest_concat, Mark.answer?_of_isQuestion hq, hstep] at hlatest
  by_cases hother : other = step
  · subst hother
    rw [if_pos rfl, Option.some_or] at hlatest
    cases hlatest
    exact ⟨a, rfl, ha⟩
  · rw [if_neg fun heq => hother (Option.some.inj heq).symm, Option.none_or] at hlatest
    exact hothers other v hother hlatest

namespace Session

variable {σ : Type} {c : Setup σ} {s m : Session σ} {i j : Nat} {run player ticket : Option Nat}
  {ms : List Mark} {place : Context} {q : Request} {step : String}

/-- What others may have done to the bridge of the active run. -/
def Heeds (s m : Session σ) : Prop :=
  ∀ b, s.bridge = some b → ∃ b', m.bridge = some b' ∧ b.Heeds b'

/-- The answers on the bridge are those that the run heard last. -/
def Echoes (s : Session σ) (ms : List Mark) : Prop :=
  ∃ b, s.bridge = some b ∧ Run.Echoes b.answers ms

/-- The answers on the bridge are those that the run heard last, but for the step at which it waits
    for this ticket. -/
def Minds (s : Session σ) (ms : List Mark) (step : String) (ticket : Option Nat) : Prop :=
  ∃ b, s.bridge = some b ∧ b.Minds ms step ticket

theorem Heeds.of_eq (hsame : m.bridge = s.bridge) : s.Heeds m :=
  fun b hb => ⟨b, hsame.trans hb, .same⟩

theorem Echoes.of_eq (h : s.Echoes ms) (hsame : m.bridge = s.bridge) : m.Echoes ms := by
  obtain ⟨b, hb, hechoes⟩ := h
  exact ⟨b, hsame.trans hb, hechoes⟩

/-- A run that waits for no answer minds all of them. -/
theorem Echoes.minds (h : s.Echoes ms) (step : String) : s.Minds ms step none :=
  h

theorem Minds.of_eq (h : s.Minds ms step ticket) (hsame : m.bridge = s.bridge) :
    m.Minds ms step ticket := by
  obtain ⟨b, hb, hminds⟩ := h
  exact ⟨b, hsame.trans hb, hminds⟩

theorem Minds.heeds (h : s.Minds ms step ticket) (hopen : s.footing.Open player ticket)
    (hheeds : s.Heeds m) : m.Minds ms step ticket := by
  obtain ⟨b, hb, hminds⟩ := h
  obtain ⟨other, hother, _, hexpects⟩ := hopen.bridge
  obtain rfl : other = b := Option.some.inj (hother.symm.trans hb)
  obtain ⟨b', hb', hheeds⟩ := hheeds other hb
  exact ⟨b', hb', hminds.heeds hexpects hheeds⟩

theorem heeds_answer (s : Session σ) (step : String) (r : Response String) :
    s.Heeds (s.answer step r) := by
  intro b hb
  unfold answer
  rw [hb]
  exact ⟨_, rfl, .answered ..⟩

theorem heeds_abandon (hsteady : s.footing.Steady) (current : Option Nat) :
    s.Heeds (s.abandon current) := by
  intro b hb
  obtain ⟨line, heq⟩ := abandon_eq hb (hsteady b hb) current
  rw [heq]
  exact ⟨_, rfl, .closed⟩

theorem heeds_hand (hsteady : s.footing.Steady) (c : Setup σ) (i : Nat) (e : Event) :
    s.Heeds (s.hand c i e) := by
  unfold hand deliver
  dsimp only
  split
  · exact heeds_abandon (s := { s.seat i with
      events := s.events ++ [e], host := (c.host.receive e s.host).2 }) hsteady (some i)
  · exact .of_eq rfl

section Deferring

variable (hdefers : c.defers)

include hdefers

/-- While the active run does not go on, its bridge is only answered or closed. -/
theorem heeds_happen (horder : Order s.footing s.tasks (some i)) {x : Happening}
    (hx : x ≠ .wake i) : s.Heeds (s.happen c x) := by
  cases x with
  | request | shuffle => exact .of_eq rfl
  | message v =>
    simp only [happen, receive]
    split
    · exact .of_eq rfl
    · exact heeds_answer s _ _
    · exact .of_eq rfl
  | abandon current => exact heeds_abandon horder.steady current
  | wake j =>
    have hfooting := footing_wake_aside (c := c) hdefers horder (j := j) fun heq => hx (heq ▸ rfl)
    split at hfooting
    next e _ =>
      intro b hb
      obtain ⟨b', hb', hheeds⟩ := heeds_hand horder.steady c j e b hb
      exact ⟨b', (congrArg Footing.bridge hfooting).trans hb', hheeds⟩
    next => exact .of_eq (congrArg Footing.bridge hfooting)

end Deferring

/-- What is to come fits the request: an answer for a question, and for no other. -/
def Aim.Suits (step : String) (q : Request) : Aim → Prop
  | .reply _ => ¬ q.IsQuestion
  | .retrieve id => id = step ∧ q.IsQuestion
  | .await _ => q.IsQuestion

def Wait.Suits (step : String) (q : Request) : Wait → Prop
  | .delivery _ _ aim => aim.Suits step q
  | .ticket _ => q.IsQuestion
  | .command _ _ _ => ¬ q.IsQuestion

/-- A request is served with the answers kept in mind. -/
def Served.Minds (ms : List Mark) (place : Context) (q : Request) (step : String) :
    Served × Session σ → Prop
  | (.reply r, s) => ∀ v, r = .value v → s.Echoes (ms ++ [.call place q (.value v)])
  | (.wait w, s) => s.Minds ms step w.ticket? ∧ w.Suits step q

theorem minds_reach (aim : Aim) (hstep : place.step = some step)
    (hminds : s.Minds ms step aim.ticket?) (hsuits : aim.Suits step q) :
    Served.Minds ms place q step (s.reach aim, s) := by
  obtain ⟨b, hb, hminds⟩ := hminds
  cases aim with
  | reply r =>
    rintro v rfl
    exact ⟨b, hb, Run.Echoes.concat hminds hsuits place _⟩
  | retrieve id =>
    obtain ⟨rfl, hq⟩ := hsuits
    simp only [reach, hb, Option.bind_some]
    cases ha : b.answers.get? id with
    | none => rintro v ⟨⟩
    | some a =>
      rintro v ⟨⟩
      exact ⟨b, hb, echoes_concat hstep hq (fun other v _ hlatest => hminds other v hlatest) ha⟩
  | await t =>
    have hawaits : b.Awaits ms step t := hminds
    simp only [reach, hb, Option.bind_some]
    cases hticket : b.ticket? t with
    | none => rintro v ⟨⟩
    | some k =>
      cases k with
      | unsettled => exact ⟨⟨b, hb, hawaits⟩, hsuits⟩
      | answered a =>
        rintro v ⟨⟩
        exact ⟨b, hb, echoes_concat hstep hsuits hawaits.echoes (hawaits.due a hticket)⟩
      | cancelled => rintro v ⟨⟩

section Serving

variable (hdefers : c.defers)

include hdefers

theorem minds_announce (aim : Aim) (hstep : place.step = some step)
    (hminds : s.Minds ms step aim.ticket?) (hsuits : aim.Suits step q) (es : List Event) :
    Served.Minds ms place q step (s.announce c i es aim) := by
  cases es with
  | nil => exact minds_reach aim hstep hminds hsuits
  | cons e later =>
    rw [announce_cons hdefers]
    exact ⟨hminds.of_eq rfl, hsuits⟩

theorem minds_collect (hstep : place.step = some step) (hechoes : s.Echoes ms)
    (hq : ¬ q.IsQuestion) (argv : List String) (cwd : Option String) :
    Served.Minds ms place q step (s.collect c i argv cwd) := by
  unfold collect
  generalize c.host.collect argv cwd s.host = result
  obtain ⟨_ | o, host⟩ := result
  · exact nofun
  · exact minds_announce hdefers (s := { s with host }) (.reply _) hstep
      (hechoes.of_eq rfl) hq _

/-- A question is put, or gets the answer that it has already. -/
theorem minds_put (hopen : s.footing.Open (some i) none) (hstep : place.step = some step)
    (hechoes : s.Echoes ms) (hq : q.IsQuestion) (question : Question) :
    Served.Minds ms place q step (s.put c i step question) := by
  obtain ⟨b, hb, hechoes⟩ := hechoes
  obtain ⟨other, hother, _, hcalm⟩ := hopen.bridge
  obtain rfl : other = b := Option.some.inj (hother.symm.trans hb)
  unfold put
  rw [hb]
  dsimp only
  split
  · exact minds_announce hdefers (.retrieve step) hstep ⟨other, hb, hechoes⟩ ⟨rfl, hq⟩ _
  · split
    · rintro v ⟨⟩
    next t change hregister =>
      exact minds_announce hdefers (s := s.apply change) (.await t) hstep
        ⟨_, rfl, Bridge.Calm.register_awaits hcalm hechoes hregister⟩ hq _

theorem minds_serve (hopen : s.footing.Open (some i) none) (hstep : place.step = some step)
    (hne : step ≠ "") (hechoes : s.Echoes ms) :
    Served.Minds ms place q step (s.serve c i place q) := by
  cases q with
  | prompt message preset =>
    simp only [serve, Question.place_of_step hstep hne]
    exact minds_put (q := .prompt message preset) hdefers hopen hstep hechoes trivial _
  | choose message options =>
    simp only [serve, Question.place_of_step hstep hne]
    exact minds_put (q := .choose message options) hdefers hopen hstep hechoes trivial _
  | command command args cwd =>
    simp only [serve]
    split
    · rintro v ⟨⟩
    · split
      · exact ⟨hechoes.of_eq rfl, id⟩
      · exact minds_collect hdefers (s := { s with host := (c.host.begin command s.host).2 }) hstep
          (hechoes.of_eq rfl) id _ _
  | evaluate expression =>
    simp only [serve]
    split
    · rintro v ⟨⟩
    · split
      · exact minds_announce (q := .evaluate expression) hdefers (.reply _) hstep (hechoes.minds step) id _
      · rintro v ⟨⟩
  | log message =>
    simp only [serve]
    split
    · rintro v ⟨⟩
    · exact minds_announce (q := .log message) hdefers (.reply _) hstep (hechoes.minds step) id _

/-- A run that waits goes on. -/
theorem minds_comes {wait : Wait} {isFlagged : Bool} (hopen : s.footing.Open player wait.ticket?)
    (hstep : place.step = some step) (hminds : s.Minds ms step wait.ticket?)
    (hsuits : wait.Suits step q) : Served.Minds ms place q step (s.comes c i wait isFlagged) := by
  unfold comes
  split
  · exact nofun
  · cases wait with
    | delivery e later aim =>
      exact minds_announce hdefers aim hstep (hminds.heeds hopen (heeds_hand hopen.steady c i e)) hsuits
        later
    | ticket t => exact minds_reach (.await t) hstep (hminds.of_eq rfl) hsuits
    | command argv cwd isOver =>
      exact minds_collect (s := s.seat i) hdefers hstep (Echoes.of_eq hminds rfl) hsuits argv cwd

end Serving

end Session

end Stepwise
