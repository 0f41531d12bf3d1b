import Stepwise.Runner.Terminal

namespace Stepwise

/-- The words that a command is to be started with can be handed over. -/
structure Handable (argv : List String) (cwd : Option String) : Prop where
  program : argv ≠ []
  clean : ∀ word ∈ argv ++ cwd.toList, '\x00' ∉ word.toList

theorem StartFault.code_ne_zero (fault : StartFault) : fault.code ≠ 0 := by
  cases fault <;> simp [code]

namespace Completion

/-- This can become of a command with these words: it is started, or tried, if they can be handed
    over. -/
def Fits (argv : List String) (cwd : Option String) : Completion → Prop
  | .exited _ _ _ | .timedOut | .notStarted _ => Handable argv cwd
  | .noProgram => argv = []
  | .badWord => ∃ word ∈ argv ++ cwd.toList, '\x00' ∈ word.toList

/-- Whatever the command wrote is text. -/
def IsText : Completion → Prop
  | .exited _ stdout stderr =>
    (∃ out, Text.ofBytes stdout = .ok out) ∧ ∃ err, Text.ofBytes stderr = .ok err
  | .timedOut | .notStarted _ | .noProgram | .badWord => True

/-- What is reported of the command is what it came to: its own exit code and the text that it wrote,
    with plain line ends, or a code that is not zero if it did not come to an end. -/
def Gives (code : Int) (out err : String) : Completion → Prop
  | .exited own stdout stderr => code = own ∧
      (Text.ofBytes stdout).map Text.plainLines = .ok out ∧
      (Text.ofBytes stderr).map Text.plainLines = .ok err
  | .timedOut | .notStarted _ => code ≠ 0 ∧ out = ""
  | .noProgram | .badWord => False

variable {completion : Completion} {argv : List String} {cwd : Option String}

theorem outcome_exited_cases (argv : List String) (code : Int) (stdout stderr : List UInt8)
    (limit : String) :
    ((exited code stdout stderr).IsText ∧ ∃ out err,
      (exited code stdout stderr).outcome argv limit = .ok ⟨code, some out, some err⟩ ∧
      (exited code stdout stderr).Gives code out err) ∨
    ¬ (exited code stdout stderr).IsText ∧
      ∃ bad, (exited code stdout stderr).outcome argv limit = .error (.undecodable bad) := by
  simp only [outcome, IsText, Gives]
  cases Text.ofBytes stdout with
  | error bad => exact .inr ⟨by simp, bad, rfl⟩
  | ok out =>
    cases Text.ofBytes stderr with
    | error bad => exact .inr ⟨by simp, bad, rfl⟩
    | ok err => exact .inl ⟨by simp, _, _, rfl, by simp [Except.map]⟩

/-- A command has an outcome, with texts for its output, if it can be handed over and wrote nothing
    but text. Otherwise there is a fault instead. -/
theorem outcome_cases (hfits : completion.Fits argv cwd) (limit : String) :
    ((Handable argv cwd ∧ completion.IsText) ∧ ∃ code out err,
      completion.outcome argv limit = .ok ⟨code, some out, some err⟩ ∧
      completion.Gives code out err) ∨
    ¬ (Handable argv cwd ∧ completion.IsText) ∧
      ∃ fault, completion.outcome argv limit = .error fault := by
  cases completion with
  | exited code stdout stderr =>
    rcases outcome_exited_cases argv code stdout stderr limit with
      ⟨htext, houtcome⟩ | ⟨htext, bad, hbad⟩
    · exact .inl ⟨⟨hfits, htext⟩, code, houtcome⟩
    · exact .inr ⟨fun h => htext h.2, _, hbad⟩
  | timedOut => exact .inl ⟨⟨hfits, trivial⟩, _, _, _, rfl, by decide, rfl⟩
  | notStarted fault =>
    exact .inl ⟨⟨hfits, trivial⟩, _, _, _, rfl, fault.code_ne_zero, rfl⟩
  | noProgram => exact .inr ⟨fun h => h.1.program hfits, _, rfl⟩
  | badWord =>
    obtain ⟨word, hmem, hnull⟩ := hfits
    exact .inr ⟨fun h => h.1.clean word hmem hnull, _, rfl⟩

end Completion

/-- Whatever becomes of a command on this system can become of one with such words. -/
def System.Fits (system : System) : Prop :=
  ∀ m argv cwd limit, (system m argv cwd limit).1.Fits argv cwd

theorem Machine.fits_run : System.Fits Machine.run := by
  intro m argv cwd limit
  unfold run
  cases argv with
  | nil => rfl
  | cons name words =>
    dsimp only
    split
    next hnull =>
      obtain ⟨word, hmem, hnull⟩ := List.any_eq_true.1 hnull
      exact ⟨word, hmem, List.contains_iff_mem.1 hnull⟩
    next hclean =>
      have hwords : Handable (name :: words) cwd :=
        ⟨List.cons_ne_nil name words, fun word hmem hnull =>
          hclean (List.any_eq_true.2 ⟨word, hmem, List.contains_iff_mem.2 hnull⟩)⟩
      split
      · exact hwords
      · split
        · split <;> exact hwords
        · split
          · split <;> exact hwords
          · split
            · exact hwords
            · split <;> exact hwords

end Stepwise
