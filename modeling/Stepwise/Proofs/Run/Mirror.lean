import Stepwise.Proofs.Run.Steps

namespace Stepwise

namespace Run

open Dialogue

variable {A : Accord} {T : String → Prop} {script script' : Script} {hooks : Hooks} {limit : Int}

/-- Two positions from which two scripts go on alike. -/
structure Abreast (A : Accord) (T : String → Prop) (script script' : Script) (p p' : Position) :
    Prop where
  script : p.script = script
  script' : p'.script = script'
  target : p'.target = p.target
  inside : ∀ {id}, p.target = some id → T id
  stepsRun : p'.stepsRun = p.stepsRun
  same : A.same p.context p'.context

/-- Runs from two such positions go the same way, visit steps in `T` only, and end alike if they
    do so at each end of the script. -/
theorem related_walk {R : Result → Result → Prop} (hmirrors : script.Mirrors T script')
    (hvisited : ∀ id, T id → A.visited id)
    (hconclude : ∀ (p p' : Position) status message, A.same p.context p'.context →
      p'.stepsRun = p.stepsRun →
        Related A R (p.conclude status message) (p'.conclude status message))
    (budget : Nat) {p p' : Position} (habreast : Abreast A T script script' p p') :
    Related A R (walk hooks limit budget p) (walk hooks limit budget p') := by
  induction budget generalizing p p' with
  | zero =>
    obtain ⟨_, _, _, c⟩ := p
    obtain ⟨_, target, count, c'⟩ := p'
    obtain ⟨rfl, rfl, rfl, hinside, rfl, hsame⟩ := habreast
    dsimp only at hinside hsame hmirrors
    unfold walk
    dsimp only
    cases htarget : target.filter (!·.isEmpty) with
    | none => exact hconclude _ _ _ _ hsame rfl
    | some id =>
      obtain ⟨step, hstep, hstep'⟩ := hmirrors.step (hinside (Option.filter_eq_some_iff.1 htarget).1)
      simp only [hstep, hstep']
      exact .fail (A.visit _ hsame) (A.own _ trivial)
  | succ budget ih =>
    obtain ⟨_, _, _, c⟩ := p
    obtain ⟨_, target, count, c'⟩ := p'
    obtain ⟨rfl, rfl, rfl, hinside, rfl, hsame⟩ := habreast
    dsimp only at hinside hsame hmirrors
    unfold walk
    dsimp only
    cases htarget : target.filter (!·.isEmpty) with
    | none => exact hconclude _ _ _ _ hsame rfl
    | some id =>
      have hin : T id := hinside (Option.filter_eq_some_iff.1 htarget).1
      obtain ⟨step, hstep, hstep'⟩ := hmirrors.step hin
      obtain ⟨hmem, hid⟩ := Script.step?_eq_some hstep
      simp only [hstep, hstep']
      refine .visit (A.visit step.id hsame) rfl (hid ▸ hvisited id hin) ?_
      refine (related_dispatch {
        nodup := hmirrors.nodup
        nodup' := hmirrors.nodup'
        mem := hmem
        mem' := (Script.step?_eq_some hstep').1
        next := hmirrors.next hin hstep
        same := A.visit step.id hsame }).bind fun ⟨q, move⟩ ⟨q', move'⟩ hstepped => ?_
      obtain rfl : move' = move := hstepped.move
      have hcount : q'.stepsRun = q.stepsRun := by rw [hstepped.stepsRun, hstepped.stepsRun']
      cases move' with
      | go next =>
        refine ih { hstepped with
          target := rfl
          inside := fun hnext => ?_
          stepsRun := hcount }
        obtain rfl : next = some _ := hnext
        exact hmirrors.closed hin hstep _ (hstepped.successor rfl)
      | stop status message => exact hconclude q q' status message hstepped.same hcount

/-- Two runs of scripts that begin with the same step in `T`. -/
theorem related_ofScript {R : Result → Result → Prop} (hmirrors : script.Mirrors T script')
    (hfirst : script'.first? = script.first?) (hinside : ∀ {id}, script.first? = some id → T id)
    (hvisited : ∀ id, T id → A.visited id)
    (hconclude : ∀ (p p' : Position) status message, A.same p.context p'.context →
      p'.stepsRun = p.stepsRun →
        Related A R (p.conclude status message) (p'.conclude status message))
    {vars vars' : Table Value} (hsame : A.same ⟨none, vars⟩ ⟨none, vars'⟩) :
    Related A R (ofScript hooks limit script vars) (ofScript hooks limit script' vars') :=
  related_walk hmirrors hvisited hconclude limit.toNat
    ⟨rfl, rfl, hfirst, hinside, rfl, hsame⟩

end Run

end Stepwise
