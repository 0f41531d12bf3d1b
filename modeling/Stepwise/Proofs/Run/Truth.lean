import Mathlib.Order.Basic
import Stepwise.Run.Evaluator

namespace Stepwise

namespace Guard

variable {maxLength : Int} {expression : String}

/-- Only an expression that is short enough to be looked at can be rejected for the character of
    code zero. -/
theorem accept_eq_nul_iff :
    accept maxLength expression = .error .nul ↔
      (expression.length : Int) ≤ maxLength ∧ '\x00' ∈ expression.toList := by
  unfold accept
  by_cases hlong : maxLength < expression.length
  · rw [if_pos hlong]
    constructor
    · intro h
      cases h
    · intro ⟨hshort, _⟩
      omega
  · rw [if_neg hlong]
    have hshort : (expression.length : Int) ≤ maxLength := by omega
    by_cases hnul : expression.toList.contains '\x00' = true
    · rw [if_pos hnul]
      exact ⟨fun _ => ⟨hshort, List.contains_iff_mem.1 hnul⟩, fun _ => rfl⟩
    · rw [if_neg hnul]
      constructor
      · intro h
        split at h
        · cases h
        · split at h <;> cases h
      · intro ⟨_, hmem⟩
        exact absurd (List.contains_iff_mem.2 hmem) hnul

theorem evaluate_eq_nul_iff {vars : String → Option Value} :
    evaluate maxLength expression vars = .error .nul ↔
      (expression.length : Int) ≤ maxLength ∧ '\x00' ∈ expression.toList := by
  rw [← accept_eq_nul_iff]
  unfold evaluate
  cases haccept : accept maxLength expression with
  | error trouble => simp
  | ok tree =>
    constructor
    · intro h
      dsimp only at h
      split at h
      · cases h
      · split at h <;> cases h
    · intro h
      cases h

end Guard

namespace Evaluator

variable {e : Evaluator} {expression : String} {vars : Table Value}

/-- The expression is short enough to be looked at, and holds the character of code zero. -/
def Chokes (e : Evaluator) (expression : String) : Prop :=
  (expression.length : Int) ≤ e.maxLength ∧ '\x00' ∈ expression.toList

/-- The report that the truth of an expression comes with is what a host is told. -/
theorem lenient_eq_hook :
    e.lenient expression vars =
      match e.hook (fun message _ => some message) expression vars none with
      | (.ok b, report) => .ok (b, report)
      | (.error fault, _) => .error fault := by
  unfold lenient hook
  cases e.strict expression vars with
  | ok b => rfl
  | error fault => cases fault <;> rfl

theorem strict_of_evaluate_error {trouble : Guard.Trouble} (hreads : ¬ e.Chokes expression)
    (htrouble : e.evaluate expression vars = .error trouble) :
    e.strict expression vars = .error (.badGuard (trouble.message expression)) := by
  have hfault : faultOf expression trouble = .badGuard (trouble.message expression) := by
    cases trouble with
    | nul => exact absurd (Guard.evaluate_eq_nul_iff.1 htrouble) hreads
    | refused refusal => rfl
    | faulty fault => rfl
  rw [strict, htrouble, Except.mapError, hfault]

/-- An expression without the character of code zero has a truth value, or is broken in a way that
    the host is told of once, and then counts as false. -/
theorem hook_decides (hreads : ¬ e.Chokes expression) (vars : Table Value) {σ : Type}
    (onError : String → σ → σ) (s : σ) :
    (∃ b, e.strict expression vars = .ok b ∧ e.hook onError expression vars s = (.ok b, s)) ∨
    ∃ trouble : Guard.Trouble,
      e.strict expression vars = .error (.badGuard (trouble.message expression)) ∧
      e.hook onError expression vars s =
        (.ok false, onError ("Eval error: " ++ trouble.message expression) s) := by
  cases hevaluate : e.evaluate expression vars with
  | ok b =>
    have hstrict : e.strict expression vars = .ok b := by rw [strict, hevaluate, Except.mapError]
    exact .inl ⟨b, hstrict, by rw [hook, hstrict]⟩
  | error trouble =>
    have hstrict := strict_of_evaluate_error hreads hevaluate
    exact .inr ⟨trouble, hstrict, by rw [hook, hstrict]⟩

/-- A number that is none: the host hears of it, and the guard is false. -/
theorem hook_decides_many :
    let expression := "int(vars.count) > 1"
    let vars : Table Value := .ofList [("count", .text "many")]
    let note := fun (message : String) (heard : List String) => heard ++ [message]
    ¬ standard.Chokes expression ∧
    standard.hook note expression vars [] = (.ok false, ["Eval error: Error evaluating " ++
      "'int(vars.count) > 1': invalid literal for int() with base 10: 'many'"]) ∧
    ((∃ b, standard.strict expression vars = .ok b ∧
      standard.hook note expression vars [] = (.ok b, [])) ∨
    ∃ trouble : Guard.Trouble,
      standard.strict expression vars = .error (.badGuard (trouble.message expression)) ∧
      standard.hook note expression vars [] =
        (.ok false, note ("Eval error: " ++ trouble.message expression) [])) := by
  intro expression vars note
  have hreads : ¬ standard.Chokes expression := fun ⟨_, hmem⟩ => absurd hmem (by decide)
  exact ⟨hreads, by decide +kernel, hook_decides hreads vars note []⟩

/-- The character of code zero is the host's fault, so that no host is told of it. -/
theorem hook_chokes :
    standard.strict "\x00" .empty =
      .error (.host (.badValue "source code string cannot contain null bytes")) ∧
    standard.hook (fun message heard => heard ++ [message]) "\x00" .empty [] =
      (.error (.host (.badValue "source code string cannot contain null bytes")), []) := by
  decide +kernel

end Evaluator

end Stepwise
