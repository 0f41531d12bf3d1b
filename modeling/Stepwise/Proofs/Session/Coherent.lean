import Mathlib.Data.List.Chain
import Stepwise.Proofs.Session.Recorded
import Stepwise.Proofs.Session.Spared

namespace Stepwise

namespace Session

variable {σ : Type} {c : Setup σ} {s : Session σ} {i j : Nat} {ds : List (Deed σ)} {task : Task}

/-- Whether a run is given up as this happens. -/
def gaveUp (c : Setup σ) (s : Session σ) (x : Happening) (i : Nat) : List (Deed σ) :=
  if s.givenUp? c x = some i then [.giveUp] else []

theorem own_append (log log' : List (Nat × Deed σ)) (i : Nat) :
    own (log ++ log') i = own log i ++ own log' i :=
  List.filterMap_append

theorem own_map_self (ds : List (Deed σ)) (i : Nat) : own (ds.map (i, ·)) i = ds := by
  simp [own, List.filterMap_map]

theorem own_map_ne (ds : List (Deed σ)) (hne : i ≠ j) : own (ds.map (i, ·)) j = [] := by
  simp [own, List.filterMap_map, hne]

theorem own_giveUp (c : Setup σ) (s : Session σ) (x : Happening) (i : Nat) :
    own ((s.givenUp? c x).toList.map (·, .giveUp)) i = s.gaveUp c x i := by
  unfold gaveUp own
  cases s.givenUp? c x with
  | none => simp
  | some j => by_cases hj : j = i <;> simp [hj]

theorem own_entries_self (c : Setup σ) (s : Session σ) (i : Nat) :
    own (s.entries c (.wake i)) i = s.gaveUp c (.wake i) i ++ (s.deeds c i ++ s.callDeeds c i) := by
  unfold entries
  rw [own_append, own_giveUp, own_map_self]

theorem own_entries_ne (c : Setup σ) (s : Session σ) {x : Happening} (hx : x ≠ .wake i) :
    own (s.entries c x) i = s.gaveUp c x i := by
  unfold entries
  rw [own_append, own_giveUp]
  cases x with
  | wake j =>
    rw [own_map_ne _ fun heq => hx (congrArg _ heq), List.append_nil]
  | request | message | abandon | shuffle => exact List.append_nil _

theorem own_entries_cases (c : Setup σ) (s : Session σ) (x : Happening) (i : Nat) :
    own (s.entries c x) i = s.gaveUp c x i ∨
      x = .wake i ∧
        own (s.entries c x) i = s.gaveUp c x i ++ (s.deeds c i ++ s.callDeeds c i) := by
  by_cases hx : x = .wake i
  · subst hx
    exact .inr ⟨rfl, own_entries_self ..⟩
  · exact .inl (own_entries_ne c _ hx)

/-- A task that has nothing more to do as it goes on, and ends. -/
theorem own_entries_of_finished {ending : Ending} {isFlagged : Bool} (hdeeds : s.deeds c i = [])
    (hafter : (s.happen c (.wake i)).tasks[i]? = some ⟨.finished ending, isFlagged⟩) :
    own (s.entries c (.wake i)) i = s.gaveUp c (.wake i) i := by
  have hcalls : s.callDeeds c i = [] := by
    simp [callDeeds, hafter, Phase.underway?]
  rw [own_entries_self, hdeeds, hcalls]
  exact List.append_nil _

theorem of_note (c : Setup σ) (ch : Chronicle σ) (x : Happening) (i : Nat) :
    (ch.note c x).of i = ch.of i ++ own (ch.session.entries c x) i :=
  own_append ..

/-- That a run is given up changes nothing of what it did before. -/
theorem Recorded.giveUp {phase : Phase} (h : Recorded c ds phase) (hopen : phase.isOpen) :
    Recorded c (ds ++ [.giveUp]) phase := by
  have hcalls : calls (ds ++ [.giveUp]) = calls ds := calls_append_of_nil rfl
  have htrail : trail (ds ++ [.giveUp]) = trail ds := trail_concat ds .giveUp
  have hjudged : ∀ {plan vars v}, Judged c ds plan vars v → Judged c (ds ++ [.giveUp]) plan vars v := by
    rintro plan vars v ⟨hplans, hvars, hending⟩
    refine ⟨?_, hvars, ?_⟩
    · simpa [plans] using hplans
    · rw [htrail]
      simpa [endings] using hending
  cases h with
  | ready plan vars e later hbegun hfresh hopens =>
    exact .ready plan vars e later (hbegun.append rfl rfl) (htrail.trans hfresh)
      (hcalls.symm ▸ hopens)
  | playing plan vars next wait place q hbegun hplays hasked htracks hvalue hfault =>
    exact .playing plan vars next wait place q (hbegun.append rfl rfl) (hcalls.symm ▸ hplays)
      (htrail.symm ▸ hasked) (htrail.symm ▸ htracks) (htrail.symm ▸ hvalue) hfault
  | closing plan vars e later v hv hjudges =>
    exact .closing plan vars e later v (hjudged hv) (hcalls.symm ▸ hjudges)
  | new | refusing | refused | opening | ending | ended => cases hopen

/-- Only a run that has a bridge is given up. -/
theorem isOpen_of_givenUp {x : Happening} (hgiven : s.givenUp? c x = some i) :
    ∃ task, s.tasks[i]? = some task ∧ task.phase.isOpen := by
  unfold givenUp? at hgiven
  split at hgiven
  · obtain ⟨hlt, hopen, _⟩ := List.findIdx?_eq_some_iff_getElem.1 hgiven
    exact ⟨_, List.getElem?_eq_getElem hlt, hopen⟩
  · cases hgiven

theorem gaveUp_of_none (hnone : s.tasks[i]? = none) (x : Happening) : s.gaveUp c x i = [] := by
  refine if_neg fun hgiven => ?_
  obtain ⟨task, htask, _⟩ := isOpen_of_givenUp hgiven
  cases hnone.symm.trans htask

theorem gaveUp_of_aside (htask : s.tasks[i]? = some task) (haside : task.phase.IsAside)
    (x : Happening) : s.gaveUp c x i = [] := by
  refine if_neg fun hgiven => ?_
  obtain ⟨other, hother, hopen⟩ := isOpen_of_givenUp hgiven
  obtain rfl : other = task := Option.some.inj (hother.symm.trans htask)
  unfold Phase.isOpen at hopen
  split at hopen <;> simp_all [Phase.IsAside]

theorem Recorded.gaveUp (h : Recorded c ds task.phase) (htask : s.tasks[i]? = some task)
    (x : Happening) : Recorded c (ds ++ s.gaveUp c x i) task.phase := by
  unfold Session.gaveUp
  split
  next hgiven =>
    obtain ⟨other, hother, hopen⟩ := isOpen_of_givenUp hgiven
    obtain rfl : other = task := Option.some.inj (hother.symm.trans htask)
    exact h.giveUp hopen
  next => rwa [List.append_nil]

/-- A run that is cancelled is recorded as before. -/
theorem Recorded.dropped (h : Recorded c ds task.phase) : Recorded c ds task.dropped.phase := by
  obtain ⟨phase, isFlagged⟩ := task
  cases h with
  | playing plan vars next wait place q hbegun hplays hasked htracks hvalue hfault =>
    rcases wait with _ | _ | ⟨argv, cwd, _ | _⟩ <;>
      exact .playing plan vars next _ place q hbegun hplays hasked htracks hvalue hfault
  | new r vars hvars hnone => exact .new r vars hvars hnone
  | refusing e he hall => exact .refusing e he hall
  | refused e he hall => exact .refused e he hall
  | opening plan vars e hbegun htrail he hcalls => exact .opening plan vars e hbegun htrail he hcalls
  | ready plan vars e later hbegun htrail hcalls =>
    exact .ready plan vars e later hbegun htrail hcalls
  | closing plan vars e later v hjudged hcalls => exact .closing plan vars e later v hjudged hcalls
  | ending plan vars v hjudged hcalls hcloses => exact .ending plan vars v hjudged hcalls hcloses
  | ended plan vars v hjudged hcalls hcloses => exact .ended plan vars v hjudged hcalls hcloses

theorem calls_playDeeds (c : Setup σ) (i : Nat) (plan : Plan) (d : Dialogue Result) (s : Session σ) :
    calls (playDeeds c i plan d s) = [] := by
  induction d generalizing s with
  | done r => rfl
  | fail place fault => rfl
  | visit place rest ih => exact ih s
  | ask place q next ih =>
    unfold playDeeds
    obtain ⟨reply | wait, s'⟩ := s.serve c i place q
    · exact ih place reply s'
    · rfl

theorem calls_deeds (c : Setup σ) (s : Session σ) (i : Nat) : calls (s.deeds c i) = [] := by
  unfold deeds
  split
  · unfold acceptDeeds
    split <;> rfl
  · exact calls_playDeeds ..
  · unfold replyDeeds
    split
    · exact calls_playDeeds ..
    · rfl
  · rfl

theorem calls_append (ds ds' : List (Deed σ)) : calls (ds ++ ds') = calls ds ++ calls ds' :=
  List.filterMap_append

theorem calls_map_call (es : List Event) (before after : Session σ) :
    calls (es.map (.call · before after)) = es := by
  simp [calls, List.filterMap_map]

/-- The calls as something happens are those of the task that goes on. -/
theorem calls_entries (c : Setup σ) (s : Session σ) (x : Happening) :
    calls ((s.entries c x).map Prod.snd) = match x with
      | .wake i => calls (s.callDeeds c i)
      | _ => [] := by
  have hgiven : calls (((s.givenUp? c x).toList.map fun i => (i, (Deed.giveUp : Deed σ))).map
      Prod.snd) = [] := by
    cases s.givenUp? c x <;> rfl
  unfold entries
  rw [List.map_append, calls_append, hgiven]
  cases x with
  | wake i => simp [Function.comp_def, calls_append, calls_deeds]
  | request | message | abandon | shuffle => rfl

/-- Whatever happens, a task that does not go on stays as it is, or is cancelled. -/
theorem others_happen (hdefers : c.defers) (hsteady : s.footing.Steady) {x : Happening}
    (hx : x ≠ .wake i) (htask : s.tasks[i]? = some task) :
    (s.happen c x).tasks[i]? = some task ∨ (s.happen c x).tasks[i]? = some task.dropped := by
  have hrequest : ∀ r, (s.request r).tasks[i]? = some task := fun r =>
    Ledger.getElem?_concat_iff.2 (.inl htask)
  cases x with
  | request script resumes clears vars => exact .inl (hrequest _)
  | shuffle line => exact .inl htask
  | message v =>
    simp only [happen, receive]
    split
    · exact .inl (hrequest _)
    next step r _ => exact .inl ((congrArg (·[i]?) (stirs_answer hsteady step r).2).trans htask)
    · exact .inl htask
  | abandon current =>
    rcases (stirs_abandon hsteady current).2 with hsame | ⟨_, hdropped⟩
    · exact .inl ((congrArg (·[i]?) hsame).trans htask)
    · have hget : (s.abandon current).tasks[i]? = (dropPlayer s.player current s.tasks)[i]? :=
        congrArg (·[i]?) hdropped
      unfold dropPlayer at hget
      split at hget
      next k _ =>
        split at hget
        · exact .inl (hget.trans htask)
        · by_cases hk : k = i
          · subst hk
            exact .inr (hget.trans ((List.getElem?_modify_eq ..).trans (congrArg _ htask)))
          · exact .inl (hget.trans ((List.getElem?_modify_ne _ _ hk).trans htask))
      next => exact .inl (hget.trans htask)
  | wake j =>
    have hothers := others_wake (c := c) hdefers hsteady (j := i) (i := j) fun heq => hx (heq ▸ rfl)
    rwa [htask] at hothers

/-- What is made of two fields is no request for a run unless it is made so. -/
theorem ne_run_of_fields {α β : Type} {f : α → β → Message} {x : Record.Decoded α}
    {y : Record.Decoded β} {r : RunRequest} (hne : ∀ a b, f a b ≠ .run r) :
    (f <$> x <*> y).toExcept.toOption ≠ some (.run r) := by
  cases x <;> cases y <;> first | exact fun heq => hne _ _ (Option.some.inj heq) | exact nofun

/-- A message asks for a run without variables. -/
theorem vars_of_decode {v : Value} {r : RunRequest}
    (hdecode : Message.decode? v = some (.run r)) : r.vars = .empty := by
  have hrunOf : ∀ {entries resumes clears}, (Message.runOf entries resumes clears).toExcept.toOption =
      some (.run r) → r.vars = .empty := by
    intro entries resumes clears heq
    unfold Message.runOf at heq
    generalize Record.optional entries "scriptId" ["script_id"] none (Record.nullable Record.text) =
      script at heq
    cases script with
    | ok script =>
      cases heq
      rfl
    | bad issues => cases heq
  unfold Message.decode? at hdecode
  split at hdecode
  · split at hdecode
    · exact hrunOf hdecode
    · exact hrunOf hdecode
    · exact hrunOf hdecode
    · exact absurd hdecode (ne_run_of_fields nofun)
    · exact absurd hdecode (ne_run_of_fields nofun)
    · cases hdecode
  · cases hdecode

/-- A task that is new has a run asked for, with texts as its variables. -/
theorem new_of_happen (hdefers : c.defers) (hsteady : s.footing.Steady) {x : Happening}
    (hnone : s.tasks[i]? = none) (htask : (s.happen c x).tasks[i]? = some task) :
    ∃ r, ∃ vars : Table String, task.phase = .new r ∧ r.vars = vars.map .text := by
  have hrequest : ∀ {r : RunRequest}, (s.request r).tasks[i]? = some task → task.phase = .new r := by
    intro r hget
    rcases Ledger.getElem?_concat_iff.1 hget with hold | ⟨_, rfl⟩
    · cases hnone.symm.trans hold
    · rfl
  have hstays : ∀ {tasks : List Task}, tasks.length = s.tasks.length → tasks[i]? ≠ some task := by
    intro tasks hlength hget
    rw [List.getElem?_eq_none (hlength ▸ List.getElem?_eq_none_iff.1 hnone)] at hget
    cases hget
  cases x with
  | request script resumes clears vars => exact ⟨_, vars, hrequest htask, rfl⟩
  | shuffle line => cases hnone.symm.trans htask
  | message v =>
    simp only [happen, receive] at htask
    split at htask
    next r hdecode =>
      refine ⟨r, .empty, hrequest htask, ?_⟩
      rw [vars_of_decode hdecode]
      rfl
    next step r _ =>
      exact absurd htask (hstays (congrArg List.length (stirs_answer hsteady step r).2))
    · cases hnone.symm.trans htask
  | abandon current =>
    refine absurd htask (hstays ?_)
    rcases (stirs_abandon hsteady current).2 with hsame | ⟨_, hdropped⟩
    · exact congrArg List.length hsame
    · refine (congrArg List.length hdropped).trans ?_
      unfold dropPlayer
      split
      · split
        · rfl
        · exact List.length_modify ..
      · rfl
  | wake j =>
    by_cases hj : i = j
    · subst hj
      rw [wake_none hnone] at htask
      cases hnone.symm.trans htask
    · have hothers := others_wake (c := c) hdefers hsteady (j := i) (i := j) hj
      rw [htask, hnone] at hothers
      rcases hothers with heq | heq <;> cases heq

end Session

open Session

namespace Chronicle

variable {σ : Type} {c : Setup σ} {ch : Chronicle σ}

/-- A surface that was not busy is told in turns that it is and that it is not, and by now that it is
    as the flag says. -/
structure Alternates (bs : List Bool) (isBusy : Bool) : Prop where
  chain : (false :: bs).IsChain (· ≠ ·)
  last : (false :: bs).getLast? = some isBusy

theorem Alternates.concat {bs : List Bool} {b : Bool} (h : Alternates bs (!b)) :
    Alternates (bs ++ [b]) b := by
  refine ⟨h.chain.append (.singleton b) fun last hlast next hnext => ?_,
    by simp [List.getLast?_cons]⟩
  rw [h.last, Option.mem_some_iff] at hlast
  rw [List.head?_cons, Option.mem_some_iff] at hnext
  subst hlast hnext
  cases b <;> decide

theorem Alternates.tell {es : List Event} {before after : Option (Bridge String)}
    {told : Option Event} (h : Alternates (busies es) before.isSome)
    (htoggles : Toggles before after told) :
    Alternates (busies (es ++ told.toList)) after.isSome := by
  have hsame : busies (es ++ told.toList) = busies es ++ busies told.toList :=
    List.filterMap_append
  have hquiet : busies told.toList = [] → after.isSome = before.isSome →
      Alternates (busies (es ++ told.toList)) after.isSome := by
    intro hnone hisSome
    rwa [hsame, hnone, List.append_nil, hisSome]
  rcases told with _ | e
  · exact hquiet rfl htoggles
  · cases e with
    | busy b =>
      obtain ⟨hbefore, hafter⟩ := htoggles
      rw [hsame, hafter]
      exact Alternates.concat (hbefore ▸ h)
    | init | reset | log | status | prompt | choice => exact hquiet rfl htoggles

/-- The record and the session agree, and the session is in order. -/
structure Coherent (c : Setup σ) (ch : Chronicle σ) : Prop where
  order : ∃ run, Order ch.session.footing ch.session.tasks run
  recorded : ∀ i task, ch.session.tasks[i]? = some task → Recorded c (ch.of i) task.phase
  unknown : ∀ i, ch.session.tasks[i]? = none → ch.of i = []
  alternates : Alternates (busies (calls (ch.log.map Prod.snd))) ch.session.bridge.isSome

theorem coherent_start (c : Setup σ) (saved : Option SavedRun) (host : σ) :
    Coherent c (start c saved host) where
  order := ⟨none, .idle ⟨rfl, rfl, rfl⟩ fun _ hmem => nomatch hmem⟩
  recorded _ _ htask := nomatch htask
  unknown _ _ := rfl
  alternates := ⟨.singleton _, rfl⟩

variable {x : Happening} {i : Nat} {task : Task}

/-- The record of a run goes on with its task. -/
theorem Coherent.recorded_wake (h : Coherent c ch) (hdefers : c.defers) (hhost : c.host.Keeps)
    (htask : ch.session.tasks[i]? = some task) :
    ∃ phase, (ch.session.happen c (.wake i)).tasks[i]? = some ⟨phase, false⟩ ∧
      Recorded c ((ch.note c (.wake i)).of i) phase ∧
      ∃ told : Option Event, calls (ch.session.callDeeds c i) = told.toList ∧
        Toggles ch.session.bridge (ch.session.happen c (.wake i)).bridge told := by
  obtain ⟨run, horder⟩ := h.order
  have hrecorded := (h.recorded i task htask).gaveUp (c := c) htask (.wake i)
  rw [of_note, own_entries_self, ← List.append_assoc, ← List.append_assoc]
  rcases arrives_wake horder hdefers hhost htask hrecorded with ⟨ending, hphase⟩ | harrives
  · obtain ⟨phase, isFlagged⟩ := task
    dsimp only at hphase
    subst hphase
    obtain rfl : isFlagged = false := horder.isFlagged htask trivial
    have hwake := wake_still (c := c) htask trivial
    have hdeeds : ch.session.deeds c i = [] := by
      simp only [deeds, htask]
    have hcalls : ch.session.callDeeds c i = [] := by
      simp [callDeeds, hwake, htask, Phase.underway?]
    rw [hdeeds, hcalls, List.append_nil, List.append_nil, hwake]
    exact ⟨_, htask, hrecorded, none, rfl, rfl⟩
  · obtain ⟨phase, hget, hphase, htoggles⟩ := harrives
    have hcallDeeds : ch.session.callDeeds c i = phase.underway?.toList.map
        (.call · ch.session (ch.session.happen c (.wake i))) := by
      simp only [callDeeds, hget, Option.bind_some]
    rw [hcallDeeds]
    exact ⟨phase, hget, hphase, phase.underway?, calls_map_call .., htoggles⟩

/-- Whatever happens, the record of every run goes on with its phase. -/
theorem Coherent.recorded_note (h : Coherent c ch) (hdefers : c.defers) (hhost : c.host.Keeps)
    (x : Happening) (htask : (ch.note c x).session.tasks[i]? = some task) :
    Recorded c ((ch.note c x).of i) task.phase := by
  obtain ⟨run, horder⟩ := h.order
  cases hbefore : ch.session.tasks[i]? with
  | none =>
    obtain ⟨r, vars, hphase, hvars⟩ := new_of_happen hdefers horder.steady hbefore htask
    have hx : x ≠ .wake i := by
      rintro rfl
      rw [Chronicle.note, wake_none hbefore] at htask
      cases hbefore.symm.trans htask
    rw [of_note, own_entries_ne c _ hx, h.unknown i hbefore, gaveUp_of_none hbefore, hphase]
    exact .new r vars hvars rfl
  | some before =>
    by_cases hx : x = .wake i
    · subst hx
      obtain ⟨phase, hget, hrecorded, _⟩ := h.recorded_wake hdefers hhost hbefore
      obtain rfl : ⟨phase, false⟩ = task := Option.some.inj (hget.symm.trans htask)
      exact hrecorded
    · rw [of_note, own_entries_ne c _ hx]
      have hrecorded := (h.recorded i before hbefore).gaveUp (c := c) hbefore x
      rcases others_happen hdefers horder.steady hx hbefore with hsame | hdropped
      · obtain rfl : before = task := Option.some.inj (hsame.symm.trans htask)
        exact hrecorded
      · obtain rfl : before.dropped = task := Option.some.inj (hdropped.symm.trans htask)
        exact hrecorded.dropped

/-- Whatever happens, a run gets its bridge just if it says that the surface is busy. -/
theorem Coherent.toggles (h : Coherent c ch) (hdefers : c.defers) (hhost : c.host.Keeps)
    (x : Happening) :
    ∃ told : Option Event, calls ((ch.session.entries c x).map Prod.snd) = told.toList ∧
      Toggles ch.session.bridge (ch.session.happen c x).bridge told := by
  obtain ⟨run, horder⟩ := h.order
  rw [calls_entries]
  cases x with
  | request | shuffle => exact ⟨none, rfl, rfl⟩
  | message v =>
    refine ⟨none, rfl, ?_⟩
    simp only [happen, receive]
    split
    · exact rfl
    next step r _ => exact (stirs_answer horder.steady step r).1.isSome_eq
    · exact rfl
  | abandon current => exact ⟨none, rfl, (stirs_abandon horder.steady current).1.isSome_eq⟩
  | wake i =>
    cases htask : ch.session.tasks[i]? with
    | none =>
      refine ⟨none, ?_, ?_⟩
      · simp [callDeeds, wake_none htask, htask, calls]
      · rw [wake_none htask]
        rfl
    | some task =>
      obtain ⟨_, _, _, htold⟩ := h.recorded_wake hdefers hhost htask
      exact htold

/-- Nothing is recorded of a run before it is asked for. -/
theorem of_note_eq_nil (hdefers : c.defers) (hsteady : ch.session.footing.Steady)
    (hunknown : ch.session.tasks[i]? = none → ch.of i = [])
    (hstays : x = .wake i → ∀ task, ch.session.tasks[i]? = some task →
      ∃ task', (ch.note c x).session.tasks[i]? = some task')
    (hnone : (ch.note c x).session.tasks[i]? = none) : (ch.note c x).of i = [] := by
  cases hbefore : ch.session.tasks[i]? with
  | none =>
    rw [of_note, hunknown hbefore]
    by_cases hx : x = .wake i
    · subst hx
      rw [own_entries_self, gaveUp_of_none hbefore]
      simp [deeds, callDeeds, hbefore, wake_none]
    · rw [own_entries_ne c _ hx, gaveUp_of_none hbefore, List.append_nil]
  | some before =>
    by_cases hx : x = .wake i
    · obtain ⟨task', hget⟩ := hstays hx before hbefore
      cases hnone.symm.trans hget
    · rcases others_happen hdefers hsteady hx hbefore with hget | hget <;>
        cases hnone.symm.trans hget

/-- Whatever happens, the record and the session agree. -/
theorem Coherent.note (h : Coherent c ch) (hdefers : c.defers) (hhost : c.host.Keeps)
    (x : Happening) : Coherent c (ch.note c x) := by
  obtain ⟨run, horder⟩ := h.order
  obtain ⟨told, htold, htoggles⟩ := h.toggles hdefers hhost x
  have hcalls : calls ((ch.note c x).log.map Prod.snd) =
      calls (ch.log.map Prod.snd) ++ told.toList := by
    rw [← htold, Chronicle.note, List.map_append, calls_append]
  refine ⟨?_, fun i task htask => h.recorded_note hdefers hhost x htask, fun i hnone => ?_, ?_⟩
  · obtain ⟨run', horder', _⟩ := order_happen hdefers horder x
    exact ⟨run', horder'⟩
  · refine of_note_eq_nil hdefers horder.steady (h.unknown i) (fun hx task htask => ?_) hnone
    subst hx
    obtain ⟨phase, hget, _⟩ := h.recorded_wake hdefers hhost htask
    exact ⟨_, hget⟩
  · rw [hcalls]
    exact h.alternates.tell htoggles

theorem Coherent.run (h : Coherent c ch) (hdefers : c.defers) (hhost : c.host.Keeps)
    (xs : List Happening) : Coherent c (ch.run c xs) := by
  induction xs generalizing ch with
  | nil => exact h
  | cons x xs ih => exact ih (h.note hdefers hhost x)

/-- Every session is coherent with its record, at any time. -/
theorem coherent_run (hdefers : c.defers) (hhost : c.host.Keeps) (saved : Option SavedRun)
    (host : σ) (xs : List Happening) : Coherent c ((start c saved host).run c xs) :=
  (coherent_start c saved host).run hdefers hhost xs

end Chronicle

end Stepwise
