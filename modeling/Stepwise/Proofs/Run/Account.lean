import Stepwise.Proofs.Run.Budget
import Stepwise.Proofs.Run.Trail

namespace Stepwise

variable {σ : Type}

/-- A host that hands contexts back as they are. -/
def Responder.KeepsContext (host : Responder σ) : Prop :=
  ∀ s c q, (host s c q).1 = c

theorem Responder.KeepsContext.keepsTexts {host : Responder σ} (h : host.KeepsContext) :
    host.KeepsTexts := by
  intro s c q htextual
  rw [h]
  exact htextual

/-- What such a host does if it leaves the script alone as well: it replies with a value or a
    fault. -/
theorem Responder.KeepsContext.reply_cases {host : Responder σ} (hcontext : host.KeepsContext)
    (hscript : host.KeepsScript) (s : σ) (c : Context) (q : Request) :
    (∃ v s', host s c q = (c, .value v, s')) ∨ ∃ f s', host s c q = (c, .fault f, s') := by
  rcases hreply : host s c q with ⟨c', reply, s'⟩
  obtain rfl : c' = c := by simpa [hreply] using hcontext s c q
  have hkeeps := hscript s c' q
  rw [hreply] at hkeeps
  cases reply with
  | value v => exact .inl ⟨v, s', rfl⟩
  | edited => exact hkeeps.elim
  | fault f => exact .inr ⟨f, s', rfl⟩

theorem Responder.keepsContext_ofValues : Responder.ofValues.KeepsContext := by
  intro s c q
  cases s <;> rfl

/-- Of itself, a run raises no fault that fails to report where it was. -/
theorem Fault.IsOwn.isLocated {f : Fault} (h : f.IsOwn) : f.isLocated = true := by
  cases f <;> first | rfl | exact h.elim

namespace Run

open Dialogue

variable {α : Type} {R : List Mark → α → Prop} {input : Value} {script : Script}
  {vars : Table String} {hooks : Hooks} {limit : Int} {host : Responder σ} {place : Context}

/-- What a host replied to the last request ended the run. -/
def RaisedLast (ms : List Mark) (f : Fault) : Prop :=
  ∃ c q, ms.getLast? = some (.call c q (.fault f))

theorem raisedLast_cons_iff {ms : List Mark} {f : Fault} {mark : Mark}
    (hmark : ∀ c q, mark ≠ .call c q (.fault f)) : RaisedLast (mark :: ms) f ↔ RaisedLast ms f := by
  unfold RaisedLast
  cases hms : ms.getLast? with
  | none => simpa [List.getLast?_cons, hms] using hmark
  | some last => simp [List.getLast?_cons, hms]

namespace Traced

variable {d : Dialogue α} {pre : List Mark}

/-- Whenever a host is asked, the context that it is shown is what the marks up to there say: by
    induction on the dialogue, whose marks so far are `pre`. -/
theorem tracks_of_marks (h : Traced input vars R pre d) (hscript : host.KeepsScript)
    (hcontext : host.KeepsContext) (s : σ) {before after : List Mark} {q : Request} {reply : Reply}
    (hmarks : d.marks host s = before ++ .call place q reply :: after) :
    Tracks input vars (pre ++ before) place := by
  induction h generalizing s before with
  | done | fail => simp [Dialogue.marks] at hmarks
  | visit _ ih =>
    rcases List.cons_eq_append_iff.1 hmarks with ⟨_, hcall⟩ | ⟨before', rfl, hrest⟩
    · cases hcall
    · have hnext := ih s hrest
      rwa [List.append_assoc] at hnext
  | @ask ms c q' next htracks _ hfault ih =>
    rcases hcontext.reply_cases hscript s c q' with ⟨v, s', hhere⟩ | ⟨f, s', hhere⟩
    · rw [marks_ask hhere] at hmarks
      rcases List.cons_eq_append_iff.1 hmarks with ⟨rfl, hcall⟩ | ⟨before', rfl, hrest⟩
      · cases hcall
        rwa [List.append_nil]
      · have hnext := ih v s' hrest
        rwa [List.append_assoc] at hnext
    · rw [marks_ask hhere, hfault] at hmarks
      rcases List.cons_eq_append_iff.1 hmarks with ⟨rfl, hcall⟩ | ⟨before', rfl, hrest⟩
      · cases hcall
        rwa [List.append_nil]
      · simp [Dialogue.marks] at hrest

/-- How a traced dialogue ends is what all its marks say, whether it ends of itself or by a fault of
    its host. -/
theorem play_cases (h : Traced input vars R pre d) (hscript : host.KeepsScript)
    (hcontext : host.KeepsContext) (s : σ) :
    (∃ a, (d.play host s).1 = .ok a ∧ R (pre ++ d.marks host s) a) ∨
    ∃ place f, (d.play host s).1 = .error (place, f) ∧
      (Fails input vars (pre ++ d.marks host s) place f ∧ ¬ RaisedLast (d.marks host s) f ∨
        Tracks input vars (pre ++ d.marks host s) place ∧ RaisedLast (d.marks host s) f) := by
  induction h generalizing s with
  | done hresult => exact .inl ⟨_, rfl, by simpa [Dialogue.marks] using hresult⟩
  | fail hfails =>
    refine .inr ⟨_, _, rfl, .inl ⟨by simpa [Dialogue.marks] using hfails, ?_⟩⟩
    rintro ⟨_, _, ⟨⟩⟩
  | visit _ ih =>
    simpa only [List.append_assoc, List.singleton_append, Dialogue.marks, Dialogue.play, ne_eq,
      reduceCtorEq, not_false_eq_true, implies_true, raisedLast_cons_iff] using ih s
  | @ask ms c q next htracks _ hfault ih =>
    rcases hcontext.reply_cases hscript s c q with ⟨v, s', hhere⟩ | ⟨f, s', hhere⟩
    · rw [marks_ask hhere, play_ask hhere]
      simpa only [List.append_assoc, List.singleton_append, ne_eq, Mark.call.injEq, reduceCtorEq,
        and_false, not_false_eq_true, implies_true, raisedLast_cons_iff] using ih v s'
    · rw [marks_ask hhere, play_ask hhere, hfault]
      exact .inr ⟨c, f, rfl, .inr ⟨htracks.concat_fault q f, c, q, rfl⟩⟩

end Traced

/-- What a run and those with other limits show of its variables. -/
structure Accounts (run : Int → Dialogue Result) (limit : Int) (input : Value)
    (vars : Table String) (host : Responder σ) (s : σ) : Prop where
  /-- At every request the variables are the initial ones, overlaid by what the prompts completed
      so far stored, and the step is the one visited last. -/
  asked : ∀ before place q reply after,
    (run limit).marks host s = before ++ .call place q reply :: after →
      place.vars = (reached input vars before).map .text ∧ place.step = lastVisit before
  result : ∀ r, ((run limit).play host s).1 = .ok r →
    r.vars = reached input vars ((run limit).marks host s)
  /-- A fault comes with the variables of the moment and the step visited last. A run that is out of
      budget has come to one step more: the one that it visits next if its limit is higher. -/
  fault : ∀ place f, ((run limit).play host s).1 = .error (place, f) →
    place.vars = (reached input vars ((run limit).marks host s)).map .text ∧
    (place.step = lastVisit ((run limit).marks host s) ∨
      f = .budgetExceeded limit ∧ ∀ limit' : Int, limit.toNat < limit'.toNat →
        ∃ later, (run limit').marks host s = (run limit).marks host s ++ .visit place :: later)
  /-- Only a fault of the host may fail to report them. -/
  located : ∀ place f, ((run limit).play host s).1 = .error (place, f) → f.isLocated = false →
    RaisedLast ((run limit).marks host s) f

/-- A run that is out of budget stands at the step that it would visit next. -/
theorem over_budget_next {vars : Table Value} {s : σ} {l : Int}
    (herror : ((ofInput hooks limit input vars).play host s).1 = .error (place, .budgetExceeded l))
    (hown : ¬ RaisedLast ((ofInput hooks limit input vars).marks host s) (.budgetExceeded l)) :
    l = limit ∧ ∀ limit' : Int, limit.toNat < limit'.toNat →
      ∃ later, (ofInput hooks limit' input vars).marks host s =
        (ofInput hooks limit input vars).marks host s ++ .visit place :: later := by
  have hcuts : ∀ limit', limit ≤ limit' → ∃ place',
      Cuts limit limit' 0 (ofInput hooks limit input vars) (ofInput hooks limit' input vars) host s
        place' := by
    intro limit' hle
    refine ((curtails_ofInput hle input vars).spares_or_cuts host s).resolve_left fun hspares => ?_
    exact hown (hspares.raised place _ herror ⟨l, rfl⟩)
  constructor
  · obtain ⟨place', hcut⟩ := hcuts limit (Int.le_refl limit)
    obtain ⟨_, hl⟩ : place = place' ∧ l = limit := by simpa [herror] using hcut.error
    exact hl
  · intro limit' hmore
    obtain ⟨place', hcut⟩ := hcuts limit' (by omega)
    obtain ⟨rfl, _⟩ : place = place' ∧ l = limit := by simpa [herror] using hcut.error
    exact hcut.further hmore

/-- For a host that modifies neither the script nor the context: the variables of a run are, at
    every moment, those that it began with, overlaid by the answers that its prompts stored so far;
    a result has these, and a fault too, together with the step that the run came to. An input
    without a proper script is rejected before anything is asked. -/
theorem ofInput_accounts (input : Value) (vars : Table String) {host : Responder σ}
    (hscript : host.KeepsScript) (hcontext : host.KeepsContext) (s : σ) :
    let run := fun limit => ofInput hooks limit input (vars.map .text)
    (∀ f, Script.ofInput input = .error f → (run limit).marks host s = [] ∧
      ((run limit).play host s).1 = .error (⟨none, vars.map .text⟩, .invalidScript f) ∧
      (Fault.invalidScript f).isLocated = false) ∧
    ∀ script, Script.ofInput input = .ok script → Accounts run limit input vars host s := by
  intro run
  have htraced : Traced input vars (Concluded input vars) [] (run limit) := traced_ofInput input vars
  have hends := htraced.play_cases hscript hcontext s
  rw [List.nil_append] at hends
  refine ⟨fun f hinput => ?_, fun script hinput => ⟨?_, fun r hr => ?_, fun place f hf => ?_,
    fun place f hf hlocated => ?_⟩⟩
  · simp only [run, ofInput, hinput]
    exact ⟨rfl, rfl, rfl⟩
  · intro before place q reply after hmarks
    have htracks := htraced.tracks_of_marks hscript hcontext s hmarks
    exact ⟨htracks.vars, htracks.step⟩
  · rcases hends with ⟨r', hr', hreached⟩ | ⟨place, f, hf, _⟩
    · obtain rfl : r' = r := Except.ok.inj (hr'.symm.trans hr)
      exact hreached
    · rw [hr] at hf
      cases hf
  · rcases hends with ⟨r, hr, _⟩ | ⟨place', f', hf', ⟨hfails, hown⟩ | ⟨htracks, _⟩⟩
    · rw [hf] at hr
      cases hr
    · obtain ⟨rfl, rfl⟩ : place = place' ∧ f = f' := by simpa [hf] using hf'
      refine ⟨hfails.vars, hfails.step.imp_right ?_⟩
      rintro ⟨l, rfl⟩
      obtain ⟨rfl, hnext⟩ := over_budget_next hf hown
      exact ⟨rfl, hnext⟩
    · obtain ⟨rfl, rfl⟩ : place = place' ∧ f = f' := by simpa [hf] using hf'
      exact ⟨htracks.vars, .inl htracks.step⟩
  · have hrun : run limit = ofScript hooks limit script (vars.map .text) := by
      simp only [run, ofInput, hinput]
    rw [hrun] at hf ⊢
    have hown := (related_textual (Script.linked_of_ofInput hinput) vars).fault_of_play_error
      (respects_ofTextual hscript hcontext.keepsTexts _) s hf
    refine hown.resolve_left fun hown => ?_
    rw [Fault.IsOwn.isLocated hown] at hlocated
    cases hlocated

/-- A host that serves no choice ends the tour at its second step, where the prompt's answer is
    among the variables. -/
theorem ofInput_accounts_tour :
    Responder.ofValues.KeepsScript ∧ Responder.ofValues.KeepsContext ∧
    Script.ofInput (Script.tour.dump .full) = .ok Script.tour ∧
    let hooks : Hooks := { Hooks.all with choose := false }
    let vars : Table String := .ofList [("ready", "1")]
    let replies : List Value := [.bool true, .text "Ann"]
    let run := fun limit => ofInput hooks limit (Script.tour.dump .full) (vars.map .text)
    let place : Context := ⟨some "pick", (vars.insert "name" "Ann").map .text⟩
    ((run 10).play Responder.ofValues replies).1 = .error (place, .unserved .choose "pick") ∧
    stored (Script.tour.dump .full) ((run 10).marks Responder.ofValues replies) = [("name", "Ann")] ∧
    Accounts run 10 (Script.tour.dump .full) vars Responder.ofValues replies := by
  refine ⟨Responder.keepsScript_ofValues, Responder.keepsContext_ofValues, Script.ofInput_tour, ?_⟩
  intro hooks vars replies run place
  obtain ⟨_, haccounts⟩ := @ofInput_accounts _ hooks 10 (Script.tour.dump .full) vars _
    Responder.keepsScript_ofValues Responder.keepsContext_ofValues replies
  exact ⟨rfl, rfl, haccounts _ Script.ofInput_tour⟩

end Run

end Stepwise
