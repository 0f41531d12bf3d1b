import Mathlib.Data.List.Chain
import Mathlib.Data.List.Perm.Subperm
import Stepwise.Proofs.Run.Budget
import Stepwise.Proofs.Run.Chosen
import Stepwise.Proofs.Script.Pruned

namespace Stepwise

namespace Script

variable {script : Script} {id next : String} {path : List String}

/-- The step with the second id may come right after the step with the first one. -/
def Follows (script : Script) (id next : String) : Prop :=
  ∃ step, script.step? id = some step ∧ next ∈ script.successors step

/-- A way through the script from its first step, along which no step comes twice. -/
structure IsPath (script : Script) (path : List String) : Prop where
  nodup : path.Nodup
  first : path.head? = script.first?
  chain : path.IsChain script.Follows
  reached : ∀ id ∈ path, script.Reaches id

/-- A way that comes to a step again is cut short there. -/
theorem Reaches.exists_path (h : script.Reaches id) :
    ∃ path, script.IsPath path ∧ path.getLast? = some id := by
  induction h with
  | @first id hfirst =>
    refine ⟨[id], ⟨List.nodup_singleton id, hfirst.symm, List.isChain_singleton id, ?_⟩, rfl⟩
    intro x hx
    rw [List.mem_singleton.1 hx]
    exact .first hfirst
  | @step id next step hreaches hstep hnext ih =>
    obtain ⟨path, hpath, hlast⟩ := ih
    by_cases hmem : next ∈ path
    · obtain ⟨before, after, rfl⟩ := List.append_of_mem hmem
      have hstart : before ++ [next] <+: before ++ next :: after := ⟨after, by simp⟩
      refine ⟨before ++ [next], ⟨hstart.sublist.nodup hpath.nodup, ?_,
        hpath.chain.prefix hstart, fun x hx => hpath.reached x (hstart.subset hx)⟩, by simp⟩
      rw [← hpath.first]
      cases before <;> rfl
    · refine ⟨path ++ [next], ⟨?_, ?_, ?_, ?_⟩, by simp⟩
      · exact hpath.nodup.append (List.nodup_singleton next) (by simpa using hmem)
      · rw [← hpath.first]
        cases path with
        | nil => cases hlast
        | cons => rfl
      · refine List.isChain_append.2 ⟨hpath.chain, List.isChain_singleton next, ?_⟩
        intro x hx y hy
        rw [hlast] at hx
        cases hx
        cases hy
        exact ⟨step, hstep, hnext⟩
      · intro x hx
        rcases List.mem_append.1 hx with hold | hnew
        · exact hpath.reached x hold
        · rw [List.mem_singleton.1 hnew]
          exact .step hreaches hstep hnext

/-- A path has no more steps than the script. -/
theorem IsPath.length_le (h : script.IsPath path) (hlinked : script.Linked) :
    path.length ≤ script.steps.length := by
  have hsteps : path ⊆ script.stepIds :=
    fun id hid => hlinked.mem_stepIds_of_reaches (h.reached id hid)
  calc path.length ≤ script.stepIds.length := (h.nodup.subperm hsteps).length_le
    _ = script.steps.length := List.length_map ..

theorem idAfter_append {before rest : List String} (hid : id ∉ before) :
    idAfter id (before ++ id :: next :: rest) = some next := by
  induction before with
  | nil => simp [idAfter]
  | cons other before ih =>
    obtain ⟨hne, hrest⟩ := not_or.1 (mt List.mem_cons.2 hid)
    rw [List.cons_append, idAfter_cons_of_ne (Ne.symm hne)]
    exact ih hrest

theorem mem_successors_iff {step : Step} : next ∈ script.successors step ↔
    next ∈ step.action.targets ∨ script.next? step.id = some next ∧ step.FallsThrough := by
  refine ⟨fun hnext => ?_, ?_⟩
  · unfold successors at hnext
    cases haction : step.action with
    | prompt | command | require =>
      simp only [haction, Option.mem_toList] at hnext
      exact .inr ⟨hnext, .inr (by simp only [haction])⟩
    | choice | goto | finish =>
      simp only [haction] at hnext
      split at hnext
      next hguard =>
        rcases List.mem_append.1 hnext with htarget | hafter
        · exact .inl htarget
        · exact .inr ⟨Option.mem_toList.1 hafter, .inl hguard⟩
      next => exact .inl hnext
  · rintro (htarget | ⟨hafter, hfalls⟩)
    · exact mem_successors_of_target htarget
    · exact mem_successors_of_next hfalls hafter

/-- The ids of a choice's options tell them apart: no one is the id or the target of an option
    before. -/
def Distinguishes (script : Script) : Prop :=
  ∀ step ∈ script.steps, ∀ message options, step.action = .choice message options →
    options.Pairwise fun earlier o => o.id ≠ earlier.id ∧ o.id ≠ earlier.goto

end Script

/-- A host that answers by what is asked and at which step. -/
def Responder.answering (answer : Option String → Request → Value) : Responder Unit :=
  fun s c q => (c, .value (answer c.step q), s)

namespace Dialogue

variable {α β σ : Type} {host : Responder σ} {s s' : σ}

theorem play_bind_of_ok {d : Dialogue α} {a : α} (hplay : d.play host s = (.ok a, s'))
    (f : α → Dialogue β) : (d >>= f).play host s = (f a).play host s' := by
  induction d generalizing s with
  | done =>
    cases hplay
    rfl
  | fail => cases hplay
  | visit place rest ih => exact ih hplay
  | ask place q next ih => exact ih _ _ hplay

theorem visits_bind_of_ok {d : Dialogue α} {a : α} (hplay : d.play host s = (.ok a, s'))
    (f : α → Dialogue β) :
    (d >>= f).visits host s = d.visits host s ++ (f a).visits host s' := by
  induction d generalizing s with
  | done =>
    cases hplay
    rfl
  | fail => cases hplay
  | visit place rest ih => exact congrArg (List.cons place) (ih hplay)
  | ask place q next ih =>
    rcases hreply : host s place q with ⟨place', reply, s''⟩
    rw [play_ask hreply] at hplay
    rw [visits_ask hreply]
    exact (visits_ask hreply).trans (ih _ _ hplay)

end Dialogue

namespace Run

open Dialogue

/-- What to answer at a step so that the run goes on at the step `next`: by way of its guard if
    `skips` says so. -/
def leading (skips : Bool) (next : String) : Request → Value
  | .evaluate _ => .bool !skips
  | .choose _ options => ((options.find? (·.goto = next)).map fun o => Value.text o.id).getD .null
  | .command _ _ _ => Outcome.dump ⟨0, none, none⟩
  | .prompt _ _ | .log _ => .null

/-- Leads a run along a path. -/
def guide (script : Script) (path : List String) (current : Option String) (q : Request) : Value :=
  match current.bind script.step?, current.bind (Script.idAfter · path) with
  | some step, some next =>
    leading (step.guard?.isSome && script.next? step.id == some next) next q
  | _, _ => .null

variable {α β : Type} {answer : Option String → Request → Value} {script : Script}
  {hooks : Hooks} {log : Bool} {limit : Int} {p : Position} {step : Step} {next : String}
  {skips : Bool}

/-- The dialogue with the host that answers so comes to this. -/
def Yields (answer : Option String → Request → Value) (d : Dialogue α) (a : α) : Prop :=
  d.play (.answering answer) () = (.ok a, ())

theorem Yields.bind {d : Dialogue α} {a : α} {f : α → Dialogue β} {b : β} (h : Yields answer d a)
    (hnext : Yields answer (f a) b) : Yields answer (d >>= f) b :=
  (play_bind_of_ok h f).trans hnext

theorem yields_pure (a : α) : Yields answer (pure a) a := rfl

theorem yields_request (place : Context) (q : Request) :
    Yields answer (Dialogue.request place q) (place, answer place.step q) := rfl

/-- All that a run can ask for is served, apart from the log perhaps. -/
def serving (log : Bool) : Hooks := { Hooks.all with log }

theorem yields_holds (place : Context) (expression : String) :
    Yields answer (holds (serving log) place expression)
      (place, (answer place.step (.evaluate expression)).isTruthy) := rfl

theorem yields_log (place : Context) (message : String) :
    Yields answer (Run.log (serving log) place message) place := by
  cases log <;> rfl

/-- A choice that distinguishes its options is led to any of their targets. -/
theorem chosen?_leading (skips : Bool) (message : String) {options : List Choice}
    (hdistinct : options.Pairwise fun earlier o => o.id ≠ earlier.id ∧ o.id ≠ earlier.goto)
    (hnext : next ∈ options.map Choice.goto) :
    chosen? options (leading skips next (.choose message options)) = some next := by
  obtain ⟨o, hfind⟩ : ∃ o, options.find? (·.goto = next) = some o := by
    obtain ⟨o, ho, rfl⟩ := List.mem_map.1 hnext
    exact Option.isSome_iff_exists.1 (List.find?_isSome.2 ⟨o, ho, by simp⟩)
  obtain ⟨hgoto, earlier, later, rfl, _⟩ := List.find?_eq_some_iff_append.1 hfind
  have hbefore := (List.pairwise_append.1 hdistinct).2.2
  have hfirst : ∀ e ∈ earlier, e.id ≠ o.id :=
    fun e he => (hbefore e he o List.mem_cons_self).1.symm
  have hlanding : landing earlier o = o.goto := by
    refine if_neg ?_
    rintro ⟨e, he, heq⟩
    exact (hbefore e he o List.mem_cons_self).2 heq.symm
  simp only [leading, hfind, Option.map_some, Option.getD_some]
  rw [chosen?_text later hfirst, hlanding]
  exact congrArg some (of_decide_eq_true hgoto)

theorem yields_prompt (place : Context) (step message : String) (preset : Option String) :
    Yields answer (prompt (serving log) place step message preset)
      (place, answerText (answer place.step (.prompt message preset))) := rfl

theorem yields_choose {place : Context} {message : String} {options : List Choice}
    (hchosen : chosen? options (answer place.step (.choose message options)) = some next)
    (step : String) : Yields answer (choose (serving log) place step message options)
      (place, options, next) := by
  change (choose.pick step place options (answer place.step (.choose message options))).play _ () = _
  unfold choose.pick
  rw [hchosen]
  rfl

theorem yields_execute {place : Context} {command : String} {args : Option (List String)}
    {cwd : Option String} {outcome : Outcome}
    (hanswer : answer place.step (.command command args cwd) = outcome.dump) (step : String)
    (hdecode : Outcome.decode outcome.dump = .ok outcome) :
    Yields answer (execute (serving log) place step command args cwd) (place, outcome) := by
  refine (yields_request place (.command command args cwd)).bind ?_
  dsimp only
  rw [hanswer, hdecode]
  exact yields_pure _

section Led

variable (hlinked : script.Linked) (hdistinct : script.Distinguishes) (hstep : step ∈ script.steps)

include hlinked hdistinct hstep

/-- A step that is not skipped is led on to one that its action names, or to what follows it. -/
theorem yields_perform (log : Bool) (hanswer : answer p.context.step = leading false next)
    (hsame : p.script = script)
    (hnext : next ∈ step.action.targets ∨
      script.next? step.id = some next ∧ step.FallsThrough ∧ step.guard? = none) :
    ∃ p', p'.script = script ∧
      Yields answer (perform (serving log) p step) (p', .go (some next)) := by
  subst hsame
  unfold perform
  cases haction : step.action with
  | prompt message store preset =>
    obtain ⟨hafter, _⟩ := hnext.resolve_left (by simp [haction, Action.targets])
    rw [hafter]
    refine ⟨_, ?_, (yields_prompt p.context step.id message preset).bind (yields_pure _)⟩
    rfl
  | choice message options =>
    have htarget : next ∈ options.map Choice.goto := by
      rcases hnext with htarget | ⟨_, hfalls, hguard⟩
      · simpa [haction, Action.targets] using htarget
      · simp [Step.FallsThrough, hguard, haction] at hfalls
    have hchosen := chosen?_leading false message
      (hdistinct step hstep message options haction) htarget
    rw [← hanswer] at hchosen
    refine ⟨_, ?_, (yields_choose hchosen step.id).bind (yields_pure _)⟩
    exact Script.withOptions_self hlinked.nodup hstep haction
  | command command args cwd onError =>
    obtain ⟨hafter, _⟩ := hnext.resolve_left (by simp [haction, Action.targets])
    rw [hafter]
    have houtcome : answer p.context.step (.command command args cwd) =
        Outcome.dump ⟨0, none, none⟩ := by
      rw [hanswer]
      rfl
    exact ⟨p, rfl, (yields_execute houtcome step.id rfl).bind (yields_pure _)⟩
  | require expression message =>
    obtain ⟨hafter, _⟩ := hnext.resolve_left (by simp [haction, Action.targets])
    rw [hafter]
    refine ⟨p, rfl, (yields_holds p.context expression).bind ?_⟩
    simp only [hanswer, leading, Value.isTruthy, Bool.not_false, if_true]
    exact yields_pure _
  | goto target =>
    rcases hnext with htarget | ⟨_, hfalls, hguard⟩
    · obtain rfl : next = target := by simpa [haction, Action.targets] using htarget
      exact ⟨p, rfl, yields_pure _⟩
    · simp [Step.FallsThrough, hguard, haction] at hfalls
  | finish status message =>
    rcases hnext with htarget | ⟨_, hfalls, hguard⟩
    · simp [haction, Action.targets] at htarget
    · simp [Step.FallsThrough, hguard, haction] at hfalls

/-- A step is led on to any of its successors: one that is declared next and has a guard before it
    by way of the guard, and any other by way of its action. -/
theorem yields_dispatch (log : Bool)
    (hanswer : answer p.context.step =
      leading (step.guard?.isSome && script.next? step.id == some next) next)
    (hsame : p.script = script) (hnext : next ∈ script.successors step) :
    ∃ p', p'.script = script ∧
      Yields answer (dispatch (serving log) p step) (p', .go (some next)) := by
  subst hsame
  rw [Script.mem_successors_iff] at hnext
  unfold dispatch
  cases hguard : step.guard? with
  | none =>
    rw [hguard] at hanswer
    exact yields_perform hlinked hdistinct hstep log hanswer rfl
      (hnext.imp_right fun ⟨hafter, hfalls⟩ => ⟨hafter, hfalls, hguard⟩)
  | some guard =>
    by_cases hafter : p.script.next? step.id = some next
    · refine ⟨p, rfl, (yields_holds p.context guard).bind ?_⟩
      simp only [hanswer, hguard, hafter, leading, Value.isTruthy, Option.isSome_some, BEq.rfl,
        Bool.and_self, Bool.not_true, Bool.false_eq_true, if_false]
      exact (yields_log p.context _).bind (yields_pure _)
    · have htarget := hnext.resolve_right fun h => hafter h.1
      have hanswer : answer p.context.step = leading false next := by
        rw [hanswer, beq_false_of_ne hafter, Bool.and_false]
      obtain ⟨p', hsame', hyields⟩ := yields_perform hlinked hdistinct hstep log hanswer rfl
        (.inl htarget)
      refine ⟨p', hsame', (yields_holds p.context guard).bind ?_⟩
      simp only [hanswer, leading, Value.isTruthy, Bool.not_false, if_true]
      exact hyields

end Led

/-- A run with budget left visits the step that it is to go on at. -/
theorem walk_succ_eq_visit (hfound : p.script.step? step.id = some step)
    (hfilled : step.id.isEmpty = false) (htarget : p.target = some step.id) (budget : Nat) :
    walk hooks limit (budget + 1) p = .visit { p.context with step := some step.id } (do
      match ← dispatch hooks { p with
        context := { p.context with step := some step.id }, stepsRun := p.stepsRun + 1 } step with
      | (p, .go target) => walk hooks limit budget { p with target }
      | (p, .stop status message) => p.conclude status message) := by
  have hnext : p.target.filter (!·.isEmpty) = some step.id := by
    simp [htarget, hfilled]
  rw [walk]
  simp only [hnext, hfound] <;> rfl

/-- Led along a path, a run with enough budget visits the path's last step: by induction on the rest
    of the path. -/
theorem exists_visit_of_path (hlinked : script.Linked) (hschema : script.MeetsSchema)
    (hdistinct : script.Distinguishes) {path : List String} (hpath : script.IsPath path)
    (before : List String) {rest : List String} {id : String}
    (hsplit : path = before ++ id :: rest) {budget : Nat} (hbudget : rest.length < budget)
    (hsame : p.script = script) (htarget : p.target = some id) :
    ∃ place ∈ (walk (serving log) limit budget p).visits (.answering (guide script path)) (),
      place.step = path.getLast? := by
  induction rest generalizing before id budget p with
  | nil =>
    obtain ⟨budget, rfl⟩ := Nat.exists_eq_succ_of_ne_zero (Nat.ne_zero_of_lt hbudget)
    have hid : id ∈ script.stepIds :=
      hlinked.mem_stepIds_of_reaches (hpath.reached id (by simp [hsplit]))
    obtain ⟨step, hfound⟩ := Script.exists_step?_of_mem hid
    obtain ⟨_, rfl⟩ := Script.step?_eq_some hfound
    rw [walk_succ_eq_visit (hsame.symm ▸ hfound) (hschema.isEmpty_of_mem_stepIds hid) htarget,
      visits_visit]
    exact ⟨_, List.mem_cons_self, by simp [hsplit]⟩
  | cons next rest ih =>
    obtain ⟨budget, rfl⟩ := Nat.exists_eq_succ_of_ne_zero (Nat.ne_zero_of_lt hbudget)
    have hchain := hpath.chain
    rw [hsplit, List.isChain_append_cons_cons] at hchain
    obtain ⟨step, hfound, hnext⟩ := hchain.2.1
    obtain ⟨hstep, rfl⟩ := Script.step?_eq_some hfound
    have hid : step.id ∈ script.stepIds := List.mem_map_of_mem hstep
    have hanswer : guide script path (some step.id) =
        leading (step.guard?.isSome && script.next? step.id == some next) next := by
      have hbefore : step.id ∉ before := by
        have hnodup := hsplit ▸ hpath.nodup
        exact fun hmem => (List.nodup_append.1 hnodup).2.2 _ hmem _ List.mem_cons_self rfl
      have hafter : Script.idAfter step.id path = some next := by
        rw [hsplit, Script.idAfter_append hbefore]
      funext q
      simp only [guide, Option.bind_some, hfound, hafter]
    obtain ⟨p', hsame', hyields⟩ := yields_dispatch (p := { p with
      context := { p.context with step := some step.id }, stepsRun := p.stepsRun + 1 })
      hlinked hdistinct hstep log hanswer hsame hnext
    obtain ⟨place, hplace, hlast⟩ := ih (p := { p' with target := some next }) (before ++ [step.id])
      (by simp [hsplit]) (Nat.lt_of_succ_lt_succ hbudget) hsame' rfl
    refine ⟨place, ?_, hlast⟩
    rw [walk_succ_eq_visit (hsame.symm ▸ hfound) (hschema.isEmpty_of_mem_stepIds hid) htarget,
      visits_visit, visits_bind_of_ok hyields]
    exact List.mem_cons_of_mem _ (List.mem_append_right _ hplace)

/-- Each step that is not listed as unreachable is visited by some run: there are answers, to be
    given by what is asked and at which step, that lead every run there whose limit is at least the
    number of steps. -/
theorem ofInput_visits_reachable {input : Value} (hinput : Script.ofInput input = .ok script)
    (hdistinct : script.Distinguishes) {id : String} (hid : id ∈ script.stepIds)
    (hreachable : id ∉ script.unreachable) :
    ∃ answer : Option String → Request → Value, ∀ (log : Bool) (limit : Int) (vars : Table Value),
      (script.steps.length : Int) ≤ limit →
        ∃ place ∈ (ofInput (serving log) limit input vars).visits (.answering answer) (),
          place.step = some id := by
  obtain ⟨⟨v, hdecode⟩, hlinked⟩ := Script.decode_of_ofInput hinput
  have hschema := Script.meetsSchema_of_decode hdecode
  have hreaches : script.Reaches id := by
    by_contra hnot
    exact hreachable (Script.mem_unreachable_iff.2 ⟨hid, hnot⟩)
  obtain ⟨path, hpath, hlast⟩ := hreaches.exists_path
  refine ⟨guide script path, fun log limit vars hlimit => ?_⟩
  have hlength := hpath.length_le hlinked
  cases path with
  | nil => cases hlast
  | cons first rest =>
    rw [List.length_cons] at hlength
    simp only [ofInput, hinput, ← hlast]
    exact exists_visit_of_path hlinked hschema hdistinct hpath [] rfl (by omega) rfl
      hpath.first.symm

theorem distinguishes_tour : Script.tour.Distinguishes := by
  intro step hstep message options haction
  simp only [Script.tour, List.mem_cons, List.not_mem_nil, or_false] at hstep
  rcases hstep with rfl | rfl | rfl | rfl
  · cases haction
  · cases haction
    simp
  · cases haction
  · cases haction

/-- With four steps to spend, some run of the tour gets to its end. -/
theorem ofInput_visits_reachable_tour :
    Script.ofInput (Script.tour.dump .full) = .ok Script.tour ∧ Script.tour.Distinguishes ∧
    "done" ∈ Script.tour.stepIds ∧ "done" ∉ Script.tour.unreachable ∧
    (Script.tour.steps.length : Int) ≤ 4 ∧
    ∃ answer, ∃ place ∈ (ofInput (serving true) 4 (Script.tour.dump .full) .empty).visits
      (.answering answer) (), place.step = some "done" := by
  have hid : "done" ∈ Script.tour.stepIds := by decide
  have hreachable : "done" ∉ Script.tour.unreachable := by
    rw [show Script.tour.unreachable = ["stray"] by cbv]
    decide
  have hlimit : (Script.tour.steps.length : Int) ≤ 4 := by decide
  obtain ⟨answer, hvisits⟩ :=
    ofInput_visits_reachable Script.ofInput_tour distinguishes_tour hid hreachable
  exact ⟨Script.ofInput_tour, distinguishes_tour, hid, hreachable, hlimit, answer,
    hvisits true 4 .empty hlimit⟩

end Run

end Stepwise
