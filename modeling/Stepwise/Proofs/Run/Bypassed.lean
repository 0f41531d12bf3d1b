import Stepwise.Proofs.Run.Budget
import Stepwise.Proofs.Script.RoundTrip

namespace Stepwise

namespace Script

variable {script : Script} {id next x : String} {step : Step} {options : List Choice}

section Map

variable {f : Step → Step} (hids : ∀ step, (f step).id = step.id)

include hids

/-- Steps that are changed under their ids keep their places. -/
theorem stepIds_map : stepIds { script with steps := script.steps.map f } = script.stepIds := by
  simp only [stepIds, List.map_map]
  exact List.map_congr_left fun step _ => hids step

theorem step?_map : step? { script with steps := script.steps.map f } x = (script.step? x).map f := by
  have hsame : (fun step : Step => step.id == x) ∘ f = fun step => step.id == x := by
    funext step
    simp only [Function.comp_apply, hids]
  simp only [step?, List.find?_map, hsame]

end Map

/-- The step is in the script, and this is the one declared after it. -/
structure Declares (script : Script) (step : Step) (next : String) : Prop where
  found : script.step? step.id = some step
  next : script.next? step.id = some next

/-- New options for another step leave it there. -/
theorem Declares.withOptions (h : script.Declares step next) (hne : x ≠ step.id)
    (options : List Choice) : (script.withOptions x options).Declares step next where
  found := by
    unfold Script.withOptions
    rw [step?_map fun step => by split <;> rfl, h.found, Option.map_some, if_neg hne.symm]
  next := by
    unfold Script.withOptions
    rw [next?, stepIds_map fun step => by split <;> rfl]
    exact h.next

/-- A step that leads on to another one, whatever happens. -/
def passage (id next : String) : Step :=
  ⟨id, none, none, .goto next⟩

/-- The script in which a step only leads on to another one, under the same id. -/
def bypassed (script : Script) (id next : String) : Script :=
  { script with steps := script.steps.map fun step => if step.id = id then passage id next else step }

theorem id_bypass (id next : String) (step : Step) :
    (if step.id = id then passage id next else step).id = step.id := by
  split
  next heq => exact heq.symm
  next => rfl

theorem stepIds_bypassed : (script.bypassed id next).stepIds = script.stepIds :=
  stepIds_map (id_bypass id next)

theorem next?_bypassed : (script.bypassed id next).next? x = script.next? x := by
  rw [next?, stepIds_bypassed, next?]

theorem first?_bypassed : (script.bypassed id next).first? = script.first? := by
  rw [first?, stepIds_bypassed, first?]
  rfl

theorem step?_bypassed : (script.bypassed id next).step? x =
    (script.step? x).map fun step => if step.id = id then passage id next else step :=
  step?_map (id_bypass id next)

theorem bypassed_withOptions (hne : x ≠ id) :
    (script.withOptions x options).bypassed id next =
      (script.bypassed id next).withOptions x options := by
  simp only [bypassed, withOptions, List.map_map, mk.injEq, true_and]
  refine List.map_congr_left fun step _ => ?_
  simp only [Function.comp_apply]
  by_cases hid : step.id = id
  · simp [hid, hne.symm, passage]
  · by_cases hx : step.id = x <;> simp [hid, hx, hne]

/-- What leads to a step of the script leads to a step still. -/
theorem Linked.bypassed (hlinked : script.Linked) (hnext : next ∈ script.stepIds) :
    (script.bypassed id next).Linked where
  nodup := by
    rw [stepIds_bypassed]
    exact hlinked.nodup
  start := by
    rw [stepIds_bypassed]
    exact hlinked.start
  target := by
    intro target htarget
    rw [stepIds_bypassed]
    obtain ⟨step', hmem, htarget⟩ := List.mem_flatMap.1 htarget
    obtain ⟨step, hstep, rfl⟩ := List.mem_map.1 hmem
    split at htarget
    · rw [List.mem_singleton.1 htarget]
      exact hnext
    · exact hlinked.target target (List.mem_flatMap.2 ⟨step, hstep, htarget⟩)

theorem MeetsSchema.isId (hschema : script.MeetsSchema) (hid : id ∈ script.stepIds) : IsId id := by
  obtain ⟨step, hstep, rfl⟩ := List.mem_map.1 hid
  exact (hschema.step step hstep).id

theorem MeetsSchema.bypassed (hschema : script.MeetsSchema) (hid : id ∈ script.stepIds)
    (hnext : next ∈ script.stepIds) : (script.bypassed id next).MeetsSchema where
  start := hschema.start
  steps := (List.length_map ..).symm ▸ hschema.steps
  step := by
    intro step' hmem
    obtain ⟨step, hstep, rfl⟩ := List.mem_map.1 hmem
    split
    · exact ⟨hschema.isId hid, hschema.isId hnext⟩
    · exact hschema.step step hstep

end Script

/-- The request is one for a text, a choice or a command. -/
def Request.isAct : Request → Bool
  | .prompt _ _ | .choose _ _ | .command _ _ _ => true
  | .evaluate _ | .log _ => false

def Mark.isAct : Mark → Bool
  | .call _ q _ => q.isAct
  | .visit _ => false

namespace Responder

variable {σ : Type}

/-- Between states that are the same, the host makes no difference. -/
structure Blurs (host : Responder σ) (same : σ → σ → Prop) : Prop where
  refl : ∀ s, same s s
  trans : ∀ {s s' s''}, same s s' → same s' s'' → same s s''
  place : ∀ {s s'} c q, same s s' → (host s' c q).1 = (host s c q).1
  reply : ∀ {s s'} c q, same s s' → (host s' c q).2.1 = (host s c q).2.1
  state : ∀ {s s'} c q, same s s' → same (host s c q).2.2 (host s' c q).2.2

/-- The host takes the request, says no if it is asked whether an expression holds, and goes on as
    if nothing had been asked. -/
def Shrugs (host : Responder σ) (same : σ → σ → Prop) (q : Request) : Prop :=
  ∀ s c, ∃ v s', host s c q = (c, .value v, s') ∧ same s s' ∧
    ∀ expression, q = .evaluate expression → v.isTruthy = false

end Responder

namespace Dialogue

variable {α β γ δ σ : Type} {idle : Request → Prop}

/-- The first dialogue is the second one, but now and then it makes an idle request, from which it
    goes on unless it is told that an expression holds. -/
inductive Skips (idle : Request → Prop) (R : α → β → Prop) : Dialogue α → Dialogue β → Prop where
  | done {a : α} {b : β} (hresult : R a b) : Skips idle R (.done a) (.done b)
  | fail (place : Context) (fault : Fault) : Skips idle R (.fail place fault) (.fail place fault)
  | visit (place : Context) {d : Dialogue α} {d' : Dialogue β} (hrest : Skips idle R d d') :
      Skips idle R (.visit place d) (.visit place d')
  | ask (place : Context) (q : Request) {next : Context → Reply → Dialogue α}
      {next' : Context → Reply → Dialogue β}
      (hnext : ∀ place reply, Skips idle R (next place reply) (next' place reply)) :
      Skips idle R (.ask place q next) (.ask place q next')
  | skip (place : Context) {q : Request} {next : Context → Reply → Dialogue α} {d' : Dialogue β}
      (hidle : idle q)
      (hnext : ∀ v : Value, (∀ expression, q = .evaluate expression → v.isTruthy = false) →
        Skips idle R (next place (.value v)) d') :
      Skips idle R (.ask place q next) d'

namespace Skips

theorem refl {R : α → α → Prop} (hresult : ∀ a, R a a) (d : Dialogue α) : Skips idle R d d := by
  induction d with
  | done a => exact done (hresult a)
  | fail place fault => exact fail place fault
  | visit place _ ih => exact visit place ih
  | ask place q _ ih => exact ask place q ih

theorem pure {R : α → β → Prop} {a : α} {b : β} (hresult : R a b) :
    Skips idle R (Pure.pure a) (Pure.pure b) :=
  done hresult

theorem bind {R : α → β → Prop} {S : γ → δ → Prop} {d : Dialogue α} {d' : Dialogue β}
    {f : α → Dialogue γ} {g : β → Dialogue δ} (h : Skips idle R d d')
    (hnext : ∀ a b, R a b → Skips idle S (f a) (g b)) : Skips idle S (d >>= f) (d' >>= g) := by
  induction h with
  | done hresult => exact hnext _ _ hresult
  | fail place fault => exact fail place fault
  | visit place _ ih => exact visit place ih
  | ask place q _ ih => exact ask place q ih
  | skip place hidle _ ih => exact skip place hidle ih

/-- The same dialogue, and then two of which the first one skips. -/
theorem then_ {S : γ → δ → Prop} (d : Dialogue α) {f : α → Dialogue γ} {g : α → Dialogue δ}
    (hnext : ∀ a, Skips idle S (f a) (g a)) : Skips idle S (d >>= f) (d >>= g) :=
  (refl (R := Eq) (fun _ => rfl) d).bind fun a _ heq => heq ▸ hnext a

end Skips

/-- What is seen of the second dialogue is what is seen of the first one, apart from what this one
    skips. -/
structure Matches (host : Responder σ) (same : σ → σ → Prop) (d d' : Dialogue α) (s s' : σ) :
    Prop where
  outcome : (d'.play host s').1 = (d.play host s).1
  state : same (d'.play host s').2 (d.play host s).2
  visits : d'.visits host s' = d.visits host s
  acts : (d'.marks host s').filter Mark.isAct = (d.marks host s).filter Mark.isAct

/-- By induction on how the first dialogue skips, from states that are the same. -/
theorem Skips.matches {d d' : Dialogue α} (h : Skips idle Eq d d')
    (hidle : ∀ q, idle q → q.isAct = false) {host : Responder σ} {same : σ → σ → Prop}
    (hblurs : host.Blurs same) (hshrugs : ∀ q, idle q → host.Shrugs same q) {s s' : σ}
    (hsame : same s' s) : Matches host same d d' s s' := by
  induction h generalizing s s' with
  | done hresult => exact ⟨congrArg Except.ok hresult.symm, hsame, rfl, rfl⟩
  | fail => exact ⟨rfl, hsame, rfl, rfl⟩
  | visit place _ ih =>
    obtain ⟨houtcome, hstate, hvisits, hacts⟩ := ih hsame
    exact ⟨houtcome, hstate, congrArg (List.cons place) hvisits, hacts⟩
  | ask place q _ ih =>
    have hreply : host s place q = ((host s' place q).1, (host s' place q).2.1, (host s place q).2.2) :=
      Prod.ext (hblurs.place place q hsame) (Prod.ext (hblurs.reply place q hsame) rfl)
    obtain ⟨houtcome, hstate, hvisits, hacts⟩ :=
      ih (host s' place q).1 (host s' place q).2.1 (hblurs.state place q hsame)
    refine ⟨?_, ?_, ?_, ?_⟩
    · rw [play_ask hreply]
      exact houtcome
    · rw [play_ask hreply]
      exact hstate
    · rw [visits_ask hreply]
      exact hvisits
    · rw [marks_ask hreply, marks_ask rfl, List.filter_cons, List.filter_cons, hacts]
  | @skip place q _ _ hq _ ih =>
    obtain ⟨v, t, hreply, ht, hfalse⟩ := hshrugs q hq s place
    obtain ⟨houtcome, hstate, hvisits, hacts⟩ := ih v hfalse (hblurs.trans hsame ht)
    refine ⟨?_, ?_, ?_, ?_⟩
    · rw [play_ask hreply, houtcome]
    · rw [play_ask hreply]
      exact hstate
    · rw [visits_ask hreply, hvisits]
    · rw [marks_ask hreply, List.filter_cons, hacts]
      simp [Mark.isAct, hidle q hq]

end Dialogue

namespace Run

open Dialogue

variable {hooks : Hooks} {limit : Int} {script : Script} {step : Step} {guard next : String}
  {p : Position}

/-- The position in the bypassed script. -/
def Position.bypassed (p : Position) (id next : String) : Position :=
  { p with script := p.script.bypassed id next }

/-- What a run asks as it skips the step. -/
def IsIdle (hooks : Hooks) (step : Step) (guard : String) (q : Request) : Prop :=
  q = .evaluate guard ∨ hooks.log = true ∧ q = .log ("Skipped step " ++ step.id)

/-- After a step, the one run is where the other one is, in the bypassed script. -/
def InStep (step : Step) (next : String) (x x' : Position × Move) : Prop :=
  x' = (x.1.bypassed step.id next, x.2) ∧ x.1.script.Declares step next

/-- Any other step is the same in both scripts. -/
theorem skips_perform {other : Step} (hne : other.id ≠ step.id)
    (hdeclares : p.script.Declares step next) :
    Skips (IsIdle hooks step guard) (InStep step next) (perform hooks p other)
      (perform hooks (p.bypassed step.id next) other) := by
  have hafter : (p.bypassed step.id next).script.next? other.id = p.script.next? other.id :=
    Script.next?_bypassed
  unfold perform
  rw [hafter]
  cases other.action with
  | prompt message store preset => exact .then_ _ fun _ => .pure ⟨rfl, hdeclares⟩
  | choice message options =>
    refine .then_ _ fun x => .pure ⟨?_, hdeclares.withOptions hne x.2.1⟩
    simp only [Position.bypassed, Script.bypassed_withOptions hne]
  | command command args cwd onError =>
    refine .then_ _ fun x => ?_
    dsimp only
    split
    · exact .pure ⟨rfl, hdeclares⟩
    · cases onError with
      | fail => exact .pure ⟨rfl, hdeclares⟩
      | proceed => exact .then_ _ fun _ => .pure ⟨rfl, hdeclares⟩
  | require expression message =>
    refine .then_ _ fun x => ?_
    dsimp only
    split
    · exact .pure ⟨rfl, hdeclares⟩
    · exact .fail _ _
  | goto target => exact .pure ⟨rfl, hdeclares⟩
  | finish status message => exact .pure ⟨rfl, hdeclares⟩

theorem skips_dispatch {other : Step} (hne : other.id ≠ step.id)
    (hdeclares : p.script.Declares step next) :
    Skips (IsIdle hooks step guard) (InStep step next) (dispatch hooks p other)
      (dispatch hooks (p.bypassed step.id next) other) := by
  have hafter : (p.bypassed step.id next).script.next? other.id = p.script.next? other.id :=
    Script.next?_bypassed
  unfold dispatch
  cases other.guard? with
  | none => exact skips_perform hne hdeclares
  | some guard =>
    refine .then_ _ fun x => ?_
    dsimp only
    split
    · exact skips_perform (p := { p with context := x.1 }) hne hdeclares
    · rw [hafter]
      exact .then_ _ fun _ => .pure ⟨rfl, hdeclares⟩

/-- The step itself asks for its guard, and goes on at the next one. -/
theorem skips_dispatch_self (hguard : step.guard? = some guard) (hevaluate : hooks.evaluate = true)
    (hdeclares : p.script.Declares step next) :
    Skips (IsIdle hooks step guard) (InStep step next) (dispatch hooks p step)
      (dispatch hooks (p.bypassed step.id next) (Script.passage step.id next)) := by
  unfold dispatch
  rw [hguard]
  simp only [holds, hevaluate, if_true]
  refine .skip p.context (.inl rfl) fun v hfalse => ?_
  have hfalse : v.isTruthy = false := hfalse guard rfl
  have hover : Skips (IsIdle hooks step guard) (InStep step next)
      (Pure.pure (p, .go (p.script.next? step.id)))
      (Pure.pure (p.bypassed step.id next, .go (some next))) :=
    .pure ⟨by rw [hdeclares.next], hdeclares⟩
  change Skips _ _ (if v.isTruthy then _ else _) _
  rw [hfalse]
  cases hlog : hooks.log with
  | false =>
    simp only [log, hlog]
    exact hover
  | true =>
    simp only [log, hlog]
    exact .skip p.context (.inr ⟨hlog, rfl⟩) fun _ _ => hover

theorem skips_conclude (p : Position) (id : String) (status : Status) (message : Option String) :
    Skips (IsIdle hooks step guard) Eq (p.conclude status message)
      ((p.bypassed id next).conclude status message) :=
  .refl (fun _ => rfl) _

/-- A step of the script is the one that is bypassed, or the same in both scripts. -/
theorem skips_visit (hguard : step.guard? = some guard) (hevaluate : hooks.evaluate = true)
    (hdeclares : p.script.Declares step next) {id : String} {other : Step}
    (hfound : p.script.step? id = some other) :
    ∃ other', (p.bypassed step.id next).script.step? id = some other' ∧ other'.id = other.id ∧
      ∀ q : Position, q.script = p.script →
        Skips (IsIdle hooks step guard) (InStep step next) (dispatch hooks q other)
          (dispatch hooks (q.bypassed step.id next) other') := by
  obtain ⟨_, rfl⟩ := Script.step?_eq_some hfound
  refine ⟨_, Script.step?_bypassed.trans (congrArg (Option.map _) hfound), Script.id_bypass ..,
    fun q hsame => ?_⟩
  have hdeclares : q.script.Declares step next := hsame ▸ hdeclares
  dsimp only
  split
  next heq =>
    obtain rfl : step = other := by
      rw [heq, ← hsame, hdeclares.found] at hfound
      exact Option.some.inj hfound
    exact skips_dispatch_self hguard hevaluate hdeclares
  next hne => exact skips_dispatch hne hdeclares

/-- By induction on the budget: at the step both runs spend one visit and go on at the next step, and
    elsewhere they do the same. -/
theorem skips_walk (hguard : step.guard? = some guard) (hevaluate : hooks.evaluate = true)
    (budget : Nat) (hdeclares : p.script.Declares step next) :
    Skips (IsIdle hooks step guard) Eq (walk hooks limit budget p)
      (walk hooks limit budget (p.bypassed step.id next)) := by
  have hmissing : ∀ {p : Position} {id}, p.script.step? id = none →
      (p.bypassed step.id next).script.step? id = none :=
    fun hnone => Script.step?_bypassed.trans (congrArg (Option.map _) hnone)
  have htarget : (p.bypassed step.id next).target = p.target := rfl
  induction budget generalizing p with
  | zero =>
    unfold walk
    rw [htarget]
    cases p.target.filter (!·.isEmpty) with
    | none => exact skips_conclude p step.id _ _
    | some id =>
      dsimp only
      cases hfound : p.script.step? id with
      | none =>
        rw [hmissing hfound]
        exact .fail _ _
      | some other =>
        obtain ⟨other', hfound', hid, _⟩ := skips_visit hguard hevaluate hdeclares hfound
        rw [hfound']
        dsimp only
        rw [hid]
        exact .fail _ _
  | succ budget ih =>
    unfold walk
    rw [htarget]
    cases p.target.filter (!·.isEmpty) with
    | none => exact skips_conclude p step.id _ _
    | some id =>
      dsimp only
      cases hfound : p.script.step? id with
      | none =>
        rw [hmissing hfound]
        exact .fail _ _
      | some other =>
        obtain ⟨other', hfound', hid, hdispatch⟩ := skips_visit hguard hevaluate hdeclares hfound
        rw [hfound']
        dsimp only
        rw [hid]
        refine .visit _ ((hdispatch { p with
          context := { p.context with step := some other.id }, stepsRun := p.stepsRun + 1 } rfl).bind
          ?_)
        rintro ⟨q, move⟩ _ ⟨rfl, hdeclares⟩
        cases move with
        | go target => exact ih (p := { q with target }) hdeclares rfl
        | stop status message => exact skips_conclude q step.id status message

theorem isAct_of_isIdle {q : Request} (hidle : IsIdle hooks step guard q) : q.isAct = false := by
  rcases hidle with rfl | ⟨_, rfl⟩ <;> rfl

/-- A guard that never holds makes a step a mere passage to the one declared next: the script in
    which the step leads there at once is accepted as well, and its run makes the same prompts,
    choices and commands, visits the same steps and ends alike, provided that it makes no difference
    to the host that it is asked for the guard and told of the skip. -/
theorem ofInput_bypassed {input : Value} (hinput : Script.ofInput input = .ok script)
    (hstep : step ∈ script.steps) (hguard : step.guard? = some guard)
    (hnext : script.next? step.id = some next) (hevaluate : hooks.evaluate = true)
    (style : DumpStyle) :
    let other := (script.bypassed step.id next).dump style
    Script.ofInput other = .ok (script.bypassed step.id next) ∧
    ∀ {σ : Type} (host : Responder σ) (same : σ → σ → Prop), host.Blurs same →
      host.Shrugs same (.evaluate guard) →
      (hooks.log = true → host.Shrugs same (.log ("Skipped step " ++ step.id))) →
      ∀ (limit : Int) (vars : Table Value) (s : σ),
        Matches host same (ofInput hooks limit input vars) (ofInput hooks limit other vars) s s := by
  intro other
  obtain ⟨⟨v, hdecode⟩, hlinked⟩ := Script.decode_of_ofInput hinput
  have hschema := Script.meetsSchema_of_decode hdecode
  have hid : step.id ∈ script.stepIds := List.mem_map_of_mem hstep
  have hmem : next ∈ script.stepIds := Script.mem_stepIds_of_next hnext
  have hother : Script.ofInput other = .ok (script.bypassed step.id next) :=
    Script.ofInput_dump (hschema.bypassed hid hmem) (hlinked.bypassed hmem)
  refine ⟨hother, fun host same hblurs hshrugs hlog limit vars s => ?_⟩
  have hskips : Skips (IsIdle hooks step guard) Eq (ofInput hooks limit input vars)
      (ofInput hooks limit other vars) := by
    simp only [ofInput, hinput, hother, ofScript, Script.first?_bypassed]
    exact skips_walk (p := ⟨script, script.first?, 0, ⟨none, vars⟩⟩) hguard hevaluate limit.toNat
      ⟨hlinked.step?_of_mem hstep, hnext⟩
  refine hskips.matches (fun _ => isAct_of_isIdle) hblurs ?_ (hblurs.refl s)
  rintro q (rfl | ⟨hlogs, rfl⟩)
  · exact hshrugs
  · exact hlog hlogs

/-- A script that asks for a reason if there is need for one, and then for a name. -/
def enquiry : Script where
  name := none
  version := none
  start := none
  steps := [
    ⟨"reason", none, some "vars.strict", .prompt "Why?" "reason" none⟩,
    ⟨"name", none, none, .prompt "Name?" "name" none⟩]

theorem ofInput_enquiry : Script.ofInput (enquiry.dump .full) = .ok enquiry := by rfl

/-- A host to whom nothing holds and who is called Ann. It counts what it is asked. -/
def ann : Responder Nat :=
  fun n c q => (c, match q with
    | .evaluate _ => .value (.bool false)
    | _ => .value (.text "Ann"), n + 1)

theorem ofInput_bypassed_enquiry :
    let reason : Step := ⟨"reason", none, some "vars.strict", .prompt "Why?" "reason" none⟩
    let other := (enquiry.bypassed "reason" "name").dump .full
    let same : Nat → Nat → Prop := fun _ _ => True
    Script.ofInput (enquiry.dump .full) = .ok enquiry ∧ reason ∈ enquiry.steps ∧
    reason.guard? = some "vars.strict" ∧ enquiry.next? "reason" = some "name" ∧
    Hooks.all.evaluate = true ∧ ann.Blurs same ∧ ann.Shrugs same (.evaluate "vars.strict") ∧
    (Hooks.all.log = true → ann.Shrugs same (.log "Skipped step reason")) ∧
    Script.ofInput other = .ok (enquiry.bypassed "reason" "name") ∧
    Matches ann same (ofInput .all 2 (enquiry.dump .full) .empty) (ofInput .all 2 other .empty) 0 0 ∧
    ((ofInput .all 2 other .empty).play ann 0).1 =
      .ok ⟨.success, 2, Table.empty.insert "name" "Ann", none⟩ := by
  intro reason other same
  have hblurs : ann.Blurs same :=
    ⟨fun _ => trivial, fun _ _ => trivial, fun _ _ _ => rfl, fun _ _ _ => rfl, fun _ _ _ => trivial⟩
  have hguard : ann.Shrugs same (.evaluate "vars.strict") :=
    fun s c => ⟨.bool false, s + 1, rfl, trivial, fun _ _ => rfl⟩
  have hlog : Hooks.all.log = true → ann.Shrugs same (.log "Skipped step reason") :=
    fun _ s c => ⟨.text "Ann", s + 1, rfl, trivial, nofun⟩
  have hreason : reason ∈ enquiry.steps := List.mem_cons_self
  obtain ⟨hother, hmatches⟩ := @ofInput_bypassed .all enquiry reason "vars.strict" "name" _
    ofInput_enquiry hreason rfl rfl rfl .full
  exact ⟨ofInput_enquiry, hreason, rfl, rfl, rfl, hblurs, hguard, hlog, hother,
    hmatches ann same hblurs hguard hlog 2 .empty 0, rfl⟩

/-- A host to whom nothing holds either, and who gives up for good at the first message it is to
    log. -/
def quitter : Responder Bool
  | given, c, .evaluate _ => (c, .value (.bool false), given)
  | _, c, .log _ => (c, .value .null, true)
  | true, c, _ => (c, .fault .cancelled, true)
  | false, c, _ => (c, .value (.text "Ann"), false)

/-- To such a host the skip makes a difference, although what it is asked to evaluate does not. -/
theorem skip_ends_run :
    Script.ofInput (enquiry.dump .full) = .ok enquiry ∧
    (enquiry.step? "reason").bind Step.guard? = some "vars.strict" ∧
    enquiry.next? "reason" = some "name" ∧
    (∀ given c expression, quitter given c (.evaluate expression) = (c, .value (.bool false), given)) ∧
    ((ofInput .all 2 (enquiry.dump .full) .empty).play quitter false).1 =
      .error (⟨some "name", .empty⟩, .cancelled) ∧
    ((ofInput .all 2 ((enquiry.bypassed "reason" "name").dump .full) .empty).play quitter false).1 =
      .ok ⟨.success, 2, Table.empty.insert "name" "Ann", none⟩ := by
  refine ⟨ofInput_enquiry, rfl, rfl, fun given _ _ => ?_, rfl, rfl⟩
  cases given <;> rfl

end Run

end Stepwise
