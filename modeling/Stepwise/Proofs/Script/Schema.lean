import Stepwise.Proofs.Record.Fields
import Stepwise.Script.Decode

namespace Stepwise

open Record

/-- The text has the length of an id. -/
def IsId (s : String) : Prop :=
  1 ≤ s.length ∧ s.length ≤ Script.maxIdLength

/-- The text has at least one character. -/
def IsFilled (s : String) : Prop :=
  1 ≤ s.length

structure Choice.MeetsSchema (c : Choice) : Prop where
  id : IsId c.id
  label : IsFilled c.label
  goto : IsId c.goto

def Action.MeetsSchema : Action → Prop
  | .prompt message store _ => IsFilled message ∧ IsFilled store
  | .choice message options =>
    IsFilled message ∧ 1 ≤ options.length ∧ ∀ c ∈ options, c.MeetsSchema
  | .command name _ _ _ => IsFilled name
  | .require expression _ =>
    IsFilled expression ∧ expression.length ≤ Script.maxExpressionLength
  | .goto target => IsId target
  | .finish _ _ => True

structure Step.MeetsSchema (step : Step) : Prop where
  id : IsId step.id
  action : step.action.MeetsSchema

/-- Ids and texts have the lengths that a script asks for, and lists are not empty. -/
structure Script.MeetsSchema (script : Script) : Prop where
  start : ∀ id ∈ script.start, IsId id
  steps : 1 ≤ script.steps.length
  step : ∀ step ∈ script.steps, step.MeetsSchema

namespace Script

theorem idText_eq_ok {v : Value} {s : String} : idText v = .ok s ↔ text v = .ok s ∧ IsId s := by
  simp [idText, boundedText_eq_ok, IsId]

theorem filledText_eq_ok {v : Value} {s : String} :
    filledText v = .ok s ↔ text v = .ok s ∧ IsFilled s := by
  simp [filledText, boundedText_eq_ok, IsFilled]

theorem choice_meetsSchema_of_decode {v : Value} {c : Choice} (hread : decodeChoice v = .ok c) :
    c.MeetsSchema := by
  unfold decodeChoice at hread
  split at hread
  · simp only [Decoded.functorMap_eq, Decoded.seq_eq, Decoded.ap_eq_ok, Decoded.map_eq_ok] at hread
    obtain ⟨_, goto, ⟨_, label, ⟨id, hid, rfl⟩, hlabel, rfl⟩, hgoto, rfl⟩ := hread
    obtain ⟨_, hid⟩ := exists_of_required hid
    obtain ⟨_, hlabel⟩ := exists_of_required hlabel
    obtain ⟨_, hgoto⟩ := exists_of_required hgoto
    exact ⟨(idText_eq_ok.1 hid).2, (filledText_eq_ok.1 hlabel).2, (idText_eq_ok.1 hgoto).2⟩
  · simp at hread

theorem action_meetsSchema_of_decode {entries : List (Value × Value)} {tag : String}
    {action : Action} (hread : decodeAction? entries tag = some (.ok action)) :
    action.MeetsSchema := by
  unfold decodeAction? at hread
  split at hread
  · simp only [Option.some.injEq, Decoded.functorMap_eq, Decoded.seq_eq, Decoded.ap_eq_ok,
      Decoded.map_eq_ok] at hread
    obtain ⟨_, _, ⟨_, store, ⟨message, hmessage, rfl⟩, hstore, rfl⟩, _, rfl⟩ := hread
    obtain ⟨_, hmessage⟩ := exists_of_required hmessage
    obtain ⟨_, hstore⟩ := exists_of_required hstore
    exact ⟨(filledText_eq_ok.1 hmessage).2, (filledText_eq_ok.1 hstore).2⟩
  · simp only [Option.some.injEq, Decoded.functorMap_eq, Decoded.seq_eq, Decoded.ap_eq_ok,
      Decoded.map_eq_ok] at hread
    obtain ⟨_, options, ⟨message, hmessage, rfl⟩, hoptions, rfl⟩ := hread
    obtain ⟨_, hmessage⟩ := exists_of_required hmessage
    obtain ⟨_, hoptions⟩ := exists_of_required hoptions
    obtain ⟨hlist, hleast⟩ := boundedList_eq_ok.1 hoptions
    refine ⟨(filledText_eq_ok.1 hmessage).2, hleast, fun c hc => ?_⟩
    obtain ⟨_, hc⟩ := exists_of_list hlist c hc
    exact choice_meetsSchema_of_decode hc
  · simp only [Option.some.injEq, Decoded.functorMap_eq, Decoded.seq_eq, Decoded.ap_eq_ok,
      Decoded.map_eq_ok] at hread
    obtain ⟨_, _, ⟨_, _, ⟨_, _, ⟨name, hname, rfl⟩, _, rfl⟩, _, rfl⟩, _, rfl⟩ := hread
    obtain ⟨_, hname⟩ := exists_of_required hname
    exact (filledText_eq_ok.1 hname).2
  · simp only [Option.some.injEq, Decoded.functorMap_eq, Decoded.seq_eq, Decoded.ap_eq_ok,
      Decoded.map_eq_ok] at hread
    obtain ⟨_, _, ⟨expression, hexpression, rfl⟩, _, rfl⟩ := hread
    obtain ⟨_, hexpression⟩ := exists_of_required hexpression
    obtain ⟨_, hleast, hmost⟩ := boundedText_eq_ok.1 hexpression
    exact ⟨hleast, hmost _ rfl⟩
  · simp only [Option.some.injEq, Decoded.functorMap_eq, Decoded.map_eq_ok] at hread
    obtain ⟨target, htarget, rfl⟩ := hread
    obtain ⟨_, htarget⟩ := exists_of_required htarget
    exact (idText_eq_ok.1 htarget).2
  · simp only [Option.some.injEq, Decoded.functorMap_eq, Decoded.seq_eq, Decoded.ap_eq_ok,
      Decoded.map_eq_ok] at hread
    obtain ⟨_, _, ⟨_, _, rfl⟩, _, rfl⟩ := hread
    trivial
  · cases hread

theorem step_meetsSchema_of_decode {v : Value} {step : Step} (hread : decodeStep v = .ok step) :
    step.MeetsSchema := by
  unfold decodeStep at hread
  split at hread
  · split at hread
    · simp at hread
    · split at hread
      · simp at hread
      · rename_i tag word action haction
        simp only [Decoded.functorMap_eq, Decoded.seq_eq, Decoded.ap_eq_ok, Decoded.map_eq_ok,
          Decoded.under_eq_ok] at hread
        obtain ⟨_, done, ⟨_, _, ⟨_, _, ⟨id, hid, rfl⟩, _, rfl⟩, _, rfl⟩, hdone, rfl⟩ := hread
        obtain ⟨_, hid⟩ := exists_of_required hid
        obtain ⟨tagText, _, htag⟩ := Option.bind_eq_some_iff.1 haction
        obtain ⟨read, hread, heq⟩ := Option.map_eq_some_iff.1 htag
        cases heq
        exact ⟨(idText_eq_ok.1 hid).2, action_meetsSchema_of_decode (hdone ▸ hread)⟩
  · simp at hread

/-- What is read as a script meets the schema. -/
theorem meetsSchema_of_decode {v : Value} {script : Script} (hread : decode v = .ok script) :
    script.MeetsSchema := by
  unfold decode at hread
  split at hread
  · simp only [Decoded.functorMap_eq, Decoded.seq_eq, Decoded.ap_eq_ok, Decoded.map_eq_ok] at hread
    obtain ⟨_, steps, ⟨_, start, ⟨_, _, ⟨_, _, rfl⟩, _, rfl⟩, hstart, rfl⟩, hsteps, rfl⟩ := hread
    obtain ⟨_, hsteps⟩ := exists_of_required hsteps
    obtain ⟨hlist, hleast⟩ := boundedList_eq_ok.1 hsteps
    refine ⟨fun id hid => ?_, hleast, fun step hstep => ?_⟩
    · obtain rfl : start = some id := hid
      rcases exists_of_optional hstart with hnone | ⟨v, hv⟩
      · cases hnone
      · unfold nullable at hv
        split at hv
        · cases hv
        · obtain ⟨s, hs, heq⟩ := Decoded.map_eq_ok.1 hv
          cases heq
          exact (idText_eq_ok.1 hs).2
    · obtain ⟨_, hread⟩ := exists_of_list hlist step hstep
      exact step_meetsSchema_of_decode hread
  · simp at hread

end Script

end Stepwise
