import Stepwise.Proofs.Session.Lifecycle

namespace Stepwise

namespace Session

variable {σ : Type} {c : Setup σ} {s : Session σ} {i : Nat} {task : Task}

/-- The last things that a run says that was given up. -/
def farewell : List Event :=
  [.log .warn "Run abandoned", .status .cancel "Run abandoned", .busy false]

/-- What is kept of a run that was given up. -/
def Verdict.abandoned (vars : Table String) : Verdict :=
  ⟨.cancel, some "Run abandoned", vars.map .text, none⟩

/-- What is saved of a run that was given up. -/
def Plan.abandoned (plan : Plan) (c : Setup σ) (answers vars : Table String) : SavedRun :=
  ⟨plan.entry.id, answers, vars, some "cancel", some "Run abandoned", c.now⟩

/-- The run waits in the middle of its script. -/
def Phase.isPlaying : Phase → Bool
  | .playing _ _ _ => true
  | _ => false

/-- How often a task goes on. -/
def turnsOf (i : Nat) (xs : List Happening) : Nat :=
  xs.countP fun
    | .wake j => j = i
    | _ => false

end Session

open Session Run

namespace Chronicle

variable {σ : Type} {c : Setup σ} {ch : Chronicle σ} {i : Nat} {plan : Plan} {es : List Event}
  {vars : Table String} {n : Nat}

/-- A run that was given up while it waited, after its task went on this often: it had told this much,
    and says no more than farewell; it leaves these variables, and comes to no result. -/
structure Cancels (c : Setup σ) (plan : Plan) (es : List Event) (vars : Table String)
    (ch : Chronicle σ) (i n : Nat) : Prop where
  told : calls (ch.of i) = es ++ farewell.take n
  closing : 3 ≤ n → ∃ ds before after answers,
    ch.of i = ds ++ [.call (.busy false) before after] ∧
    after.saved = some (plan.abandoned c answers vars) ∧
    c.host.load after.host = .ok after.saved
  ends : 4 ≤ n → ch.session.tasks[i]? = some ⟨.finished (.result none), false⟩

/-- Where the task of such a run stands. -/
inductive Winds (plan : Plan) (vars : Table String) (s : Session σ) (i : Nat) : Nat → Prop where
  | waits (next : Reply → Dialogue Result) (wait : Wait) (place : Context)
      (htask : s.tasks[i]? = some ⟨.playing plan next wait, true⟩)
      (hfault : next (.fault .cancelled) = .fail place .cancelled)
      (hvars : place.vars = vars.map .text) : Winds plan vars s i 0
  | warns (htask : s.tasks[i]? = some ⟨.posting (.log .warn "Run abandoned")
      [.status .cancel "Run abandoned"] (.keep plan (.abandoned vars)), false⟩) :
      Winds plan vars s i 1
  | tells (htask : s.tasks[i]? = some ⟨.posting (.status .cancel "Run abandoned") []
      (.keep plan (.abandoned vars)), false⟩) : Winds plan vars s i 2
  | leaves (htask : s.tasks[i]? = some ⟨.posting (.busy false) [] (.finish (.result none)), false⟩) :
      Winds plan vars s i 3
  | left (n : Nat) (hn : 4 ≤ n) (htask : s.tasks[i]? = some ⟨.finished (.result none), false⟩) :
      Winds plan vars s i n

/-- Until its task goes on, it stays where it is. -/
theorem Coherent.winds_note_ne (h : Coherent c ch) (hdefers : c.defers) {x : Happening}
    (hx : x ≠ .wake i) (hwinds : Winds plan vars ch.session i n) :
    Winds plan vars (ch.note c x).session i n := by
  obtain ⟨run, horder⟩ := h.order
  obtain ⟨run', horder', _⟩ := order_happen hdefers horder x
  have hclosing : ∀ {e later v}, ch.session.tasks[i]? = some ⟨.posting e later (.keep plan v), false⟩ →
      (ch.note c x).session.tasks[i]? = some ⟨.posting e later (.keep plan v), false⟩ := by
    intro e later v htask
    rcases others_happen hdefers horder.steady hx htask with hsame | hdropped
    · exact hsame
    · obtain ⟨_, _, hstands⟩ := horder'.stands hdropped id
      cases hstands
  cases hwinds with
  | waits next wait place htask hfault hvars =>
    rcases others_happen hdefers horder.steady hx htask with hsame | hdropped
    · exact .waits next wait place hsame hfault hvars
    · rcases wait with _ | _ | ⟨argv, cwd, _ | _⟩ <;>
        exact .waits next _ place hdropped hfault hvars
  | warns htask => exact .warns (hclosing htask)
  | tells htask => exact .tells (hclosing htask)
  | leaves htask => exact .leaves (h.aside_note hdefers htask trivial hx).1
  | left n hn htask => exact .left n hn (h.aside_note hdefers htask trivial hx).1

/-- As its task goes on, it says the next thing. -/
theorem Coherent.winds_note_self (h : Coherent c ch) (hdefers : c.defers) (hhost : c.host.Keeps)
    (hwinds : Winds plan vars ch.session i n) :
    Winds plan vars (ch.note c (.wake i)).session i (n + 1) := by
  obtain ⟨run, horder⟩ := h.order
  have hactive : ∀ {task}, ch.session.tasks[i]? = some task →
      ∀ e, (ch.session.hand c i e).tasks[i]? = some ⟨.active, false⟩ := fun htask =>
    getElem?_hand_self horder.steady htask
  cases hwinds with
  | waits next wait place htask hfault hvars =>
    obtain ⟨rfl, _, hstands⟩ := horder.stands htask id
    have habandoned : ch.session.isAbandoned = true := by
      cases hstands with
      | playing _ _ _ _ _ _ hflag => exact hflag rfl
    have hseat := getElem?_seat_self htask
    have hwake : (ch.note c (.wake i)).session = { ch.session.seat i with player := none }.judge c i
        plan (.error (place, .cancelled)) := by
      rw [Chronicle.note, wake_playing htask, comes, if_pos rfl]
      simp only [Served.cancelled, carryOn, hfault]
      rfl
    have hverdict : plan.verdict ch.session.isAbandoned (.error (place, .cancelled)) =
        some (.log .warn "Run abandoned", [.status .cancel "Run abandoned"], .abandoned vars) := by
      simp only [Plan.verdict, habandoned, if_true, hvars, Verdict.abandoned]
    rw [hwake, judge_eq hdefers]
    simp only [seat, hverdict]
    exact .warns (getElem?_tell_self (s := { ch.session.seat i with
      player := none, diagnostics := _ }) hseat ..)
  | warns htask =>
    rw [Chronicle.note, wake_posting_cons hdefers htask]
    exact .tells (getElem?_tell_self (hactive htask _) ..)
  | tells htask =>
    obtain ⟨host, hsave, _⟩ := hhost.save _ (ch.session.hand c i _).host
    rw [Chronicle.note, wake_posting_nil htask, reachGoal, keep_eq (texts_map_text vars) hsave,
      conclude_eq hdefers]
    refine .leaves (getElem?_tell_self ?_ ..)
    rw [tasks_concluded]
    exact hactive htask _
  | leaves htask =>
    rw [Chronicle.note, wake_posting_nil htask]
    exact .left 4 le_rfl (getElem?_setPhase_self (hactive htask _) _)
  | left n hn htask => exact .left (n + 1) (by omega) (h.finished_note hdefers htask _).1

theorem callDeeds_of_underway {s : Session σ} {e : Event}
    (htold : (((s.happen c (.wake i)).tasks[i]?).bind fun task => task.phase.underway?) = some e) :
    s.callDeeds c i = [.call e s (s.happen c (.wake i))] := by
  simp only [callDeeds, htold]
  rfl

/-- That a run is over changes nothing of what is saved. -/
theorem saved_conclude (hdefers : c.defers) (s : Session σ) (i : Nat) (ending : Ending) :
    (s.conclude c i ending).saved = s.saved ∧ (s.conclude c i ending).host = s.host := by
  rw [conclude_eq hdefers, concluded]
  cases s.bridge <;> exact ⟨rfl, rfl⟩

theorem calls_gaveUp (c : Setup σ) (s : Session σ) (x : Happening) (i : Nat) :
    calls (s.gaveUp c x i) = [] := by
  unfold gaveUp
  split <;> rfl

/-- What it says is the next thing of all that it says. -/
theorem Winds.underway {s : Session σ} (h : Winds plan vars s i (n + 1)) :
    ((s.tasks[i]?).bind fun task => task.phase.underway?) = farewell[n]? := by
  generalize hm : n + 1 = m at h
  cases h with
  | waits => omega
  | warns htask | tells htask | leaves htask =>
    obtain rfl : n = _ := Nat.succ.inj hm
    rw [htask]
    rfl
  | left _ hn htask =>
    subst hm
    rw [htask, List.getElem?_eq_none (by simp only [farewell, List.length_cons, List.length_nil]; omega)]
    rfl

theorem Winds.over {s : Session σ} (h : Winds plan vars s i n) (hn : 4 ≤ n) :
    s.tasks[i]? = some ⟨.finished (.result none), false⟩ := by
  cases h with
  | left _ _ htask => exact htask
  | waits | warns | tells | leaves => omega

/-- Until its task goes on, nothing more is recorded of it than that it was given up. -/
theorem Coherent.cancels_note_ne (h : Coherent c ch) (hdefers : c.defers) {x : Happening}
    (hx : x ≠ .wake i) (hwinds : Winds plan vars ch.session i n)
    (hcancels : Cancels c plan es vars ch i n) : Cancels c plan es vars (ch.note c x) i n where
  told := by
    rw [of_note, own_entries_ne c _ hx, calls_append, calls_gaveUp, List.append_nil]
    exact hcancels.told
  closing hn := by
    have hof : (ch.note c x).of i = ch.of i := by
      cases hwinds with
      | waits | warns | tells => omega
      | leaves htask | left _ _ htask => exact (h.aside_note hdefers htask trivial hx).2
    rw [hof]
    exact hcancels.closing hn
  ends hn := (h.winds_note_ne hdefers hx hwinds).over hn

/-- What is kept of it is saved by the time that it says that it is over. -/
theorem Coherent.closing_note (h : Coherent c ch) (hdefers : c.defers) (hhost : c.host.Keeps)
    (htask : ch.session.tasks[i]? = some ⟨.posting (.status .cancel "Run abandoned") []
      (.keep plan (.abandoned vars)), false⟩) :
    ∃ ds before after answers, (ch.note c (.wake i)).of i = ds ++ [.call (.busy false) before after] ∧
      after.saved = some (plan.abandoned c answers vars) ∧
      c.host.load after.host = .ok after.saved := by
  have hnext := (h.winds_note_self hdefers hhost (.tells htask)).underway
  have hcalls : ch.session.callDeeds c i =
      [.call (.busy false) ch.session (ch.session.happen c (.wake i))] :=
    callDeeds_of_underway hnext
  refine ⟨ch.of i ++ ch.session.gaveUp c (.wake i) i, ch.session,
    ch.session.happen c (.wake i), ?_⟩
  generalize hanswers : ((ch.session.hand c i (.status .cancel "Run abandoned")).bridge.map
    Bridge.answers).getD .empty = answers
  refine ⟨answers, ?_, ?_⟩
  · have hdeeds : ch.session.deeds c i = [] := by simp only [deeds, htask]
    rw [of_note, own_entries_self, hdeeds, hcalls, List.nil_append, List.append_assoc]
  · obtain ⟨host, hsave, hload⟩ :=
      hhost.save (some (plan.abandoned c answers vars))
        (ch.session.hand c i (.status .cancel "Run abandoned")).host
    subst hanswers
    rw [wake_posting_nil htask, reachGoal, keep_eq (texts_map_text vars) hsave]
    obtain ⟨hkept, hhosted⟩ := saved_conclude hdefers _ i (.result (Verdict.abandoned vars).result)
    exact ⟨hkept, by rw [hkept, hhosted]; exact hload⟩

/-- As its task goes on, what it says next is recorded, and once it is over nothing. -/
theorem Coherent.cancels_note_self (h : Coherent c ch) (hdefers : c.defers) (hhost : c.host.Keeps)
    (hwinds : Winds plan vars ch.session i n) (hcancels : Cancels c plan es vars ch i n) :
    Cancels c plan es vars (ch.note c (.wake i)) i (n + 1) where
  told := by
    have hnext := h.winds_note_self hdefers hhost hwinds
    have hcalls : calls (ch.session.callDeeds c i) = farewell[n]?.toList := by
      rw [callDeeds, calls_map_call, ← hnext.underway]
      rfl
    rw [of_note, own_entries_self, calls_append, calls_append, calls_append, calls_gaveUp,
      calls_deeds, hcalls, hcancels.told, List.take_add_one]
    simp
  closing hn := by
    cases hwinds with
    | waits | warns => omega
    | tells htask => exact h.closing_note hdefers hhost htask
    | leaves htask =>
      have hleaves : Winds plan vars ch.session i 3 := .leaves htask
      have hover := (h.winds_note_self hdefers hhost hleaves).over le_rfl
      have hof : (ch.note c (.wake i)).of i = ch.of i := by
        rw [of_note, own_entries_of_finished (by simp only [deeds, htask]) hover,
          gaveUp_of_aside htask trivial, List.append_nil]
      rw [hof]
      exact hcancels.closing le_rfl
    | left n hn htask =>
      rw [(h.finished_note hdefers htask _).2]
      exact hcancels.closing (by omega)
  ends hn := (h.winds_note_self hdefers hhost hwinds).over hn

theorem Coherent.cancels_run (h : Coherent c ch) (hdefers : c.defers) (hhost : c.host.Keeps)
    (hwinds : Winds plan vars ch.session i n) (hcancels : Cancels c plan es vars ch i n)
    (xs : List Happening) : Cancels c plan es vars (ch.run c xs) i (n + turnsOf i xs) := by
  induction xs generalizing ch n with
  | nil => exact hcancels
  | cons x xs ih =>
    by_cases hx : x = .wake i
    · subst hx
      have hturns : n + turnsOf i (.wake i :: xs) = n + 1 + turnsOf i xs := by
        simp only [turnsOf, List.countP_cons, decide_true, if_true]
        omega
      rw [hturns]
      exact ih (h.note hdefers hhost _) (h.winds_note_self hdefers hhost hwinds)
        (h.cancels_note_self hdefers hhost hwinds hcancels)
    · have hturns : turnsOf i (x :: xs) = turnsOf i xs := by
        refine List.countP_cons_of_neg fun hwake => hx ?_
        cases x with
        | wake j => exact congrArg _ (of_decide_eq_true hwake)
        | request | message | abandon | shuffle => cases hwake
      rw [hturns]
      exact ih (h.note hdefers hhost x) (h.winds_note_ne hdefers hx hwinds)
        (h.cancels_note_ne hdefers hx hwinds hcancels)

/-- A run that waits is given up by another task. -/
theorem Coherent.winds_abandon (h : Coherent c ch) {next : Reply → Dialogue Result} {wait : Wait}
    {isFlagged : Bool} {current : Option Nat}
    (htask : ch.session.tasks[i]? = some ⟨.playing plan next wait, isFlagged⟩)
    (hcurrent : current ≠ some i) :
    ∃ vars : Table String, plan.vars = vars.map .text ∧
      Winds plan (reached plan.entry.script vars (trail (ch.of i)).marks)
        (ch.note c (.abandon current)).session i 0 := by
  obtain ⟨run, horder⟩ := h.order
  obtain ⟨rfl, _, hstands⟩ := horder.stands htask id
  cases h.recorded i _ htask with
  | playing _ vars _ _ place q hbegun _ _ htracks _ hfault =>
    cases hstands with
    | playing _ _ _ _ hopen _ _ =>
      obtain ⟨b, hb, _⟩ := hopen.bridge
      obtain ⟨line, heq⟩ := abandon_eq hb (horder.steady b hb) current
      have hplayer : ch.session.player = some i := hopen.player
      have htask' : (ch.note c (.abandon current)).session.tasks[i]? =
          some (Task.dropped ⟨.playing plan next wait, isFlagged⟩) := by
        rw [Chronicle.note, happen, heq]
        simp only [dropPlayer, hplayer, if_neg hcurrent]
        exact (List.getElem?_modify_eq ..).trans (congrArg _ htask)
      refine ⟨vars, hbegun.textual, ?_⟩
      rcases wait with _ | _ | ⟨argv, cwd, _ | _⟩ <;>
        exact .waits next _ place htask' (hfault _) htracks.vars

/-- A run that is given up by another task while it waits in the middle of its script ends as soon as
    its own task goes on, whatever else happens: it says so with one status, which is that it was
    cancelled, saves that and the variables that it had reached when it was given up, and comes to no
    result. -/
theorem abandon_cancels (c : Setup σ) (hhost : c.host.Keeps) (saved : Option SavedRun) (host : σ)
    (xs ys : List Happening) {current : Option Nat} {next : Reply → Dialogue Result} {wait : Wait}
    {isFlagged : Bool} (hch : (start c.deferring saved host).run c.deferring xs = ch)
    (htask : ch.session.tasks[i]? = some ⟨.playing plan next wait, isFlagged⟩)
    (hcurrent : current ≠ some i) :
    ∃ vars : Table String, plan.vars = vars.map .text ∧
      Cancels c.deferring plan (calls (ch.of i))
        (reached plan.entry.script vars (trail (ch.of i)).marks)
        ((ch.note c.deferring (.abandon current)).run c.deferring ys) i (turnsOf i ys) := by
  subst hch
  have hkeeps : c.deferring.host.Keeps := hhost
  have hcoherent := coherent_run (c := c.deferring) rfl hkeeps saved host xs
  generalize (start c.deferring saved host).run c.deferring xs = ch at *
  obtain ⟨vars, hvars, hwinds⟩ := hcoherent.winds_abandon htask hcurrent
  refine ⟨vars, hvars, ?_⟩
  have hcancels : Cancels c.deferring plan (calls (ch.of i))
      (reached plan.entry.script vars (trail (ch.of i)).marks)
      (ch.note c.deferring (.abandon current)) i 0 := by
    refine ⟨?_, fun hn => absurd hn (by omega), fun hn => absurd hn (by omega)⟩
    have hx : Happening.abandon current ≠ .wake i := nofun
    rw [of_note, own_entries_ne _ _ hx, calls_append, calls_gaveUp]
    rfl
  have hrun := (hcoherent.note rfl hkeeps (.abandon current)).cancels_run rfl hkeeps hwinds hcancels ys
  rwa [Nat.zero_add] at hrun

/-- A run that has asked for a name is given up, and then gets an answer. -/
theorem abandon_cancels_greeting :
    let c := (Setup.shelf greeting fun _ => false).deferring
    let ch := (start c none none).run c
      [.request none false false (.ofList [("x", "1")]), .wake 0, .wake 0, .wake 0, .wake 0, .wake 0]
    let ys := [.message (.map [(.text "type", .text "promptResponse"), (.text "stepId", .text "ask"),
      (.text "value", .text "ann")]), .wake 0, .wake 0, .wake 0, .wake 0]
    ((calls (ch.of 0)).map Event.kind = ["busy", "reset", "log", "prompt"]) ∧
    ∃ vars : Table String, ∃ plan : Plan, plan.vars = vars.map .text ∧
      Cancels c plan (calls (ch.of 0)) (reached plan.entry.script vars (trail (ch.of 0)).marks)
        ((ch.note c (.abandon none)).run c ys) 0 4 := by
  intro c ch ys
  refine ⟨by decide +kernel, ?_⟩
  have hplays : (ch.session.tasks[0]?).any (fun task => task.phase.isPlaying) = true := by
    decide +kernel
  obtain ⟨⟨phase, isFlagged⟩, htask, hphase⟩ := (Option.any_eq_true _ _).1 hplays
  cases phase with
  | playing plan next wait =>
    have hcurrent : (none : Option Nat) ≠ some 0 := by decide
    obtain ⟨vars, hvars, hcancels⟩ := abandon_cancels (Setup.shelf greeting fun _ => false)
      (keeps_shelf ..) none none _ ys rfl htask hcurrent
    exact ⟨vars, plan, hvars, hcancels⟩
  | new | posting | active | finished => cases hphase

/-- A script that only ends. -/
def farewellOnly : Script where
  name := none
  version := none
  start := none
  steps := [⟨"end", none, none, .finish .success none⟩]

/-- A surface that gives a run up while it is told that the run begins finds it a success if nothing
    is asked of it any more. -/
theorem abandon_misses_finish :
    let c := Setup.shelf farewellOnly fun e => e matches .log .info _
    let s := (start c none none).session.happens c [.request none false false .empty, .wake 0]
    s.isAbandoned = true ∧ s.events.map Event.kind =
      ["busy", "reset", "log", "status", "busy"] ∧
      s.host.map SavedRun.lastStatus = some (some "success") := by decide +kernel

end Chronicle

end Stepwise
