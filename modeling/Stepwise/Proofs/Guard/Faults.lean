import Mathlib.Order.Defs.LinearOrder
import Stepwise.Proofs.Guard.Data

namespace Stepwise.Guard

/-- The fault lies in how an expression is written, whatever the values of its parts are. -/
@[simp]
def Fault.isOfForm : Fault → Bool
  | .unboundName _ | .notSupported => true
  | _ => false

/-- If the operation fails, it fails on the values that it is given. -/
def FailsOnValues {α : Type} (x : Except Fault α) : Prop :=
  ∀ fault, x = .error fault → fault.isOfForm = false

namespace FailsOnValues

variable {α β : Type}

@[simp]
theorem ok (a : α) : FailsOnValues (.ok a : Except Fault α) := by
  intro fault h
  cases h

@[simp]
theorem error_iff {fault : Fault} :
    FailsOnValues (.error fault : Except Fault α) ↔ fault.isOfForm = false := by
  constructor
  · intro h
    exact h fault rfl
  · intro hform other h
    cases h
    exact hform

theorem bind {x : Except Fault α} {f : α → Except Fault β} (h : FailsOnValues x)
    (hf : ∀ a, x = .ok a → FailsOnValues (f a)) : FailsOnValues (x >>= f) := by
  cases x with
  | ok a => exact hf a rfl
  | error fault => exact error_iff.2 (error_iff.1 h)

theorem map {x : Except Fault α} {f : α → β} (h : FailsOnValues x) : FailsOnValues (x.map f) := by
  cases x with
  | ok a => exact ok (f a)
  | error fault => exact error_iff.2 (error_iff.1 h)

end FailsOnValues

/-- The operation fails, if it does, on the values that it is given, and its result is data. -/
structure Computes (x : Except Fault Datum) : Prop where
  faults : FailsOnValues x
  isData : ∀ d, x = .ok d → d.isData

namespace Computes

@[simp]
theorem ok_iff {d : Datum} : Computes (.ok d) ↔ d.isData := by
  constructor
  · intro h
    exact h.isData d rfl
  · intro hdata
    refine ⟨.ok d, fun other h => ?_⟩
    cases h
    exact hdata

@[simp]
theorem error_iff {fault : Fault} : Computes (.error fault) ↔ fault.isOfForm = false := by
  refine ⟨fun h => FailsOnValues.error_iff.1 h.faults, fun hform => ?_⟩
  exact ⟨FailsOnValues.error_iff.2 hform, fun d h => by cases h⟩

theorem bind {α : Type} {x : Except Fault α} {f : α → Except Fault Datum} (h : FailsOnValues x)
    (hf : ∀ a, Computes (f a)) : Computes (x >>= f) := by
  cases x with
  | ok a => exact hf a
  | error fault => exact error_iff.2 (FailsOnValues.error_iff.1 h)

theorem map {α : Type} {x : Except Fault α} {f : α → Datum} (h : FailsOnValues x)
    (hf : ∀ a, (f a).isData) : Computes (x.map f) := by
  cases x with
  | ok a => exact ok_iff.2 (hf a)
  | error fault => exact error_iff.2 (FailsOnValues.error_iff.1 h)

end Computes

/-! ### Functions -/

theorem computes_integerOfText {base : Nat} {cs : List Char} {shown : String} :
    Computes (integerOfText base cs shown) := by
  unfold integerOfText
  split <;> simp

theorem computes_integerOf (d : Datum) : Computes (integerOf d) := by
  unfold integerOf
  split
  · simp
  · simp
  · split
    · simp
    · split <;> simp
  · exact computes_integerOfText
  · exact computes_integerOfText
  · simp

theorem computes_integerInBase (d base : Datum) : Computes (integerInBase d base) := by
  unfold integerInBase
  split
  · simp
  · split
    · simp
    · split
      · exact computes_integerOfText
      · exact computes_integerOfText
      · simp

theorem computes_floatOf (d : Datum) : Computes (floatOf d) := by
  unfold floatOf
  split
  · simp
  · split <;> simp
  · simp
  · dsimp only
    split <;> simp
  · dsimp only
    split <;> simp
  · simp

theorem computes_lengthOf (d : Datum) : Computes (lengthOf d) := by
  unfold lengthOf
  split <;> simp

theorem computes_textOf (d : Datum) : Computes (textOf d) := by
  unfold textOf
  split <;> simp

theorem failsOnValues_recover {e : Text.Encoding} {name : String} {bad : Text.BadByte}
    {bytes : List UInt8} : FailsOnValues (recover e name bad bytes) := by
  unfold recover
  split <;> simp

theorem computes_decoded {bs : List UInt8} {encoding recovery : String} :
    Computes (decoded bs encoding recovery) := by
  unfold decoded
  split
  · simp
  · split
    · refine .map (fun fault hdecode => ?_) fun _ => rfl
      obtain ⟨bad, bytes, hrecover⟩ := Text.Encoding.exists_of_decode_error hdecode
      exact failsOnValues_recover fault hrecover
    · simp

theorem failsOnValues_nameIn {argument : String} {d : Datum} :
    FailsOnValues (nameIn argument d) := by
  unfold nameIn
  split
  · split <;> simp
  · simp
  · simp

theorem computes_textIn (d encoding : Datum) (recovery : Option Datum) :
    Computes (textIn d encoding recovery) := by
  unfold textIn
  refine .bind failsOnValues_nameIn fun encoding => ?_
  cases recovery with
  | none =>
    refine .bind (.ok "strict") fun recovery => ?_
    split
    · simp
    · exact computes_decoded
    · simp
  | some recovery =>
    refine .bind failsOnValues_nameIn fun recovery => ?_
    split
    · simp
    · exact computes_decoded
    · simp

theorem Builtin.computes_call (f : Builtin) (args : List Datum) : Computes (f.call args) := by
  unfold Builtin.call
  split
  all_goals first
    | exact computes_lengthOf _
    | exact computes_integerOf _
    | exact computes_integerInBase _ _
    | exact computes_floatOf _
    | exact computes_textOf _
    | exact computes_textIn _ _ _
    | simp

/-! ### Methods -/

theorem failsOnValues_bound (d : Datum) (whenNothing : Int) :
    FailsOnValues (bound d whenNothing) := by
  unfold bound
  split
  · simp
  · split <;> simp

theorem failsOnValues_edgeTest_among {method : Method} {isBytes : Bool}
    {test : Datum → Option Bool} (parts : List Datum) :
    FailsOnValues (edgeTest.among method isBytes test parts) := by
  induction parts with
  | nil => simp [edgeTest.among]
  | cons part rest ih =>
    rw [edgeTest.among]
    split
    · simp
    · exact ih
    · split <;> simp

theorem failsOnValues_edgeTest {method : Method} {isBytes : Bool} {test : Datum → Option Bool}
    {d : Datum} : FailsOnValues (edgeTest method isBytes test d) := by
  unfold edgeTest
  split
  · exact failsOnValues_edgeTest_among _
  · split <;> simp

theorem computes_edge {method : Method} {isBytes : Bool}
    {test : Int → Int → Datum → Option Bool} {args : List Datum} :
    Computes (edge method isBytes test args) := by
  cases args with
  | nil => exact Computes.error_iff.2 rfl
  | cons part bounds =>
    dsimp only [edge]
    split
    · exact Computes.error_iff.2 rfl
    · refine .bind (failsOnValues_bound _ _) fun start => ?_
      refine .bind (failsOnValues_bound _ _) fun finish => ?_
      exact .bind failsOnValues_edgeTest fun result => Computes.ok_iff.2 rfl

theorem computes_callOnText {s : String} {method : Method} {args : List Datum} :
    Computes (callOnText s method args) := by
  unfold callOnText
  split
  all_goals first
    | exact computes_edge
    | simp

theorem computes_callOnBytes {bs : List UInt8} {method : Method} {args : List Datum} :
    Computes (callOnBytes bs method args) := by
  unfold callOnBytes
  split
  all_goals first
    | exact computes_edge
    | simp

/-- Whatever is called, its result is data. -/
theorem Datum.isData_of_call {callee d : Datum} {args : List Datum}
    (h : callee.call args = .ok d) : d.isData := by
  unfold call at h
  split at h
  · exact (Builtin.computes_call _ _).isData d h
  · split at h
    · exact computes_callOnText.isData d h
    · exact computes_callOnBytes.isData d h
    · cases h
  · split at h
    · exact computes_callOnText.isData d h
    all_goals cases h
  · cases h

/-! ### Operations -/

theorem computes_negated (d : Datum) : Computes (negated d) := by
  unfold negated
  split <;> simp

variable {vars : String → Option Datum}

theorem failsOnValues_attribute (owner : Datum) (name : String) :
    FailsOnValues (owner.attribute vars name) := by
  unfold Datum.attribute
  split
  · simp
  · split <;> simp

theorem failsOnValues_sequenceItem {α : Type} {kind shown : String} {items : List α}
    {result : α → Datum} {index : Datum} :
    FailsOnValues (sequenceItem kind shown items result index) := by
  unfold sequenceItem
  split
  · simp
  · split
    · simp
    · split <;> simp

theorem failsOnValues_item (owner index : Datum) : FailsOnValues (owner.item vars index) := by
  unfold Datum.item
  split
  · split
    · simp
    · split <;> simp
  · split
    · simp
    · exact failsOnValues_sequenceItem
  · exact failsOnValues_sequenceItem
  · exact failsOnValues_sequenceItem
  · exact failsOnValues_sequenceItem
  · split
    · simp
    · split
      · split <;> simp
      · simp
  · simp
  · simp
  · simp

mutual

theorem failsOnValues_ordered {relation : Relation} :
    (a b : Datum) → FailsOnValues (Datum.ordered relation a b) := by
  intro a b
  fun_cases Datum.ordered relation a b with
  | case1 s t => exact .ok _
  | case2 bs cs => exact .ok _
  | case3 xs ys => exact failsOnValues_orderedItems xs ys
  | case4 xs ys => exact failsOnValues_orderedItems xs ys
  | case5 => exact .ok _
  | case6 => simp

theorem failsOnValues_orderedItems {relation : Relation} :
    (xs ys : List Datum) → FailsOnValues (Datum.orderedItems relation xs ys)
  | [], ys => by simp [Datum.orderedItems]
  | _ :: _, [] => by simp [Datum.orderedItems]
  | x :: xs, y :: ys => by
    rw [Datum.orderedItems]
    split
    · exact failsOnValues_orderedItems xs ys
    · exact failsOnValues_ordered x y

end

theorem failsOnValues_memberOf (x container : Datum) :
    FailsOnValues (x.memberOf vars container) := by
  unfold Datum.memberOf
  split
  · split <;> simp
  · split
    · simp
    · split
      · split <;> simp
      · simp
  · simp
  · simp
  · split
    · simp
    · split <;> simp
  · split
    · simp
    · split <;> simp
  · simp

theorem failsOnValues_related {relation : Relation} {isShared : Bool} (a b : Datum) :
    FailsOnValues (a.related vars relation isShared b) := by
  unfold Datum.related
  split
  · simp
  · simp
  · simp
  · simp
  · exact failsOnValues_memberOf a b
  · exact .map (failsOnValues_memberOf a b)
  · exact failsOnValues_ordered a b

end Stepwise.Guard
