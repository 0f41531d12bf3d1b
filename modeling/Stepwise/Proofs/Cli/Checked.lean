import Stepwise.Proofs.Cli.Agreed
import Stepwise.Proofs.Console.Markup

namespace Stepwise.Cli

/-- A line with markup is shown as a text each. -/
def Shows (lines texts : List String) : Prop :=
  List.Forall₂ (fun line text => Console.styled line = .ok text) lines texts

/-- The line has markup that cannot be carried out. -/
def Garbled (line : String) : Prop := ∃ fault, Console.styled line = .error fault

/-- The terminal with some lines more. -/
def showing (w : Workstation) (texts : List String) : Workstation :=
  { w with terminal :=
    { w.terminal with shown := w.terminal.shown ++ String.join (texts.map (· ++ "\n")) } }

theorem showing_nil (w : Workstation) : showing w [] = w := by
  simp [showing]

theorem showing_cons (w : Workstation) (text : String) (texts : List String) :
    showing w (text :: texts) = showing { w with terminal := w.terminal.display text } texts := by
  simp [showing, Terminal.display, Terminal.print, String.append_assoc]

theorem run_print_of_styled {line text : String} (hline : Console.styled line = .ok text)
    (w : Workstation) : (Act.print line).run.run w =
      (.ok (), { w with terminal := w.terminal.display text }) := by
  rw [Act.print, hline]
  rfl

theorem run_print_of_garbled {line : String} (hline : Garbled line) (w : Workstation) :
    (Act.print line).run.run w = (.error (.crash "MarkupError"), w) := by
  obtain ⟨fault, hfault⟩ := hline
  rw [Act.print, hfault]
  rfl

/-- Shows lines one after the other. -/
def printAll (lines : List String) : Act PUnit :=
  forIn lines PUnit.unit fun line _ => do
    Act.print line
    pure (ForInStep.yield PUnit.unit)

theorem run_printAll_cons (line : String) (rest : List String) (w : Workstation) :
    (printAll (line :: rest)).run.run w = (Act.print line >>= fun _ => printAll rest).run.run w := by
  rw [printAll, List.forIn_cons, Act.run_bind, Act.run_bind, Act.run_bind]
  obtain ⟨outcome, terminal, hprint, -⟩ := Act.run_print line w
  rw [hprint]
  cases outcome <;> rfl

theorem run_printAll_of_shows {lines texts : List String} (hshows : Shows lines texts)
    (w : Workstation) : (printAll lines).run.run w = (.ok PUnit.unit, showing w texts) := by
  induction hshows generalizing w with
  | nil => rw [showing_nil]; rfl
  | cons hline _ ih =>
    rw [run_printAll_cons, Act.run_bind, run_print_of_styled hline, showing_cons]
    exact ih _

/-- What comes after a line that is garbled is not shown any more. -/
theorem run_printAll_of_garbled {before texts : List String} (hshows : Shows before texts)
    {line : String} (hgarbled : Garbled line) (after : List String) (w : Workstation) :
    (printAll (before ++ line :: after)).run.run w =
      (.error (.crash "MarkupError"), showing w texts) := by
  induction hshows generalizing w with
  | nil =>
    rw [List.nil_append, run_printAll_cons, Act.run_bind, run_print_of_garbled hgarbled, showing_nil]
  | cons hline _ ih =>
    rw [List.cons_append, run_printAll_cons, Act.run_bind, run_print_of_styled hline, showing_cons]
    exact ih _

/-- All lines can be shown, or those before the first that is garbled. -/
theorem shows_or_garbled (lines : List String) :
    (∃ texts, Shows lines texts) ∨ ∃ before line after texts, lines = before ++ line :: after ∧
      Shows before texts ∧ Garbled line := by
  induction lines with
  | nil => exact .inl ⟨[], .nil⟩
  | cons line rest ih =>
    cases hline : Console.styled line with
    | error fault => exact .inr ⟨[], line, rest, [], rfl, .nil, fault, hline⟩
    | ok text =>
      obtain ⟨texts, hshows⟩ | ⟨before, last, after, texts, hsplit, hshows, hgarbled⟩ := ih
      · exact .inl ⟨text :: texts, .cons hline hshows⟩
      · exact .inr ⟨line :: before, last, after, text :: texts, congrArg (line :: ·) hsplit,
          .cons hline hshows, hgarbled⟩

/-- What the report of a script quotes: its name, and what is wrong with it or the steps that nothing
    leads to. -/
def quoted (name : String) (read : Except ScriptFault Script) : List String :=
  name :: match read with
    | .error fault => [fault.message]
    | .ok script => script.unreachable

/-- The report of a script as it is shown if nothing that it quotes is markup. -/
def plainReport (name : String) (read : Except ScriptFault Script) : List String :=
  let shown (mark rest : String) := Console.plain (mark ++ Console.withPictures rest)
  match read with
  | .error fault => [shown "✗" (" " ++ name ++ ": " ++ fault.message)]
  | .ok script =>
    shown "✓" (" " ++ name ++ ": " ++ toString script.steps.length ++ " steps") ::
      script.unreachable.map fun id => shown "  warning:" (" step '" ++ id ++ "' is unreachable")

/-- A line that begins with a mark in a style, and quotes no markup after it. -/
theorem styled_of_tagged (lead style mark : List Char) {line rest shown : String}
    (hline : line.toList = lead ++ ('[' :: style ++ ']' :: (mark ++ ('[' :: ('/' :: style) ++
      ']' :: rest.toList))))
    (hlead : Console.Piece.IsOrdinary lead) (hstyle : Console.Piece.IsWord style)
    (hmark : Console.Piece.IsOrdinary mark) (hrest : '[' ∉ rest.toList)
    (hshown : Console.withPictures (String.ofList lead) ++ Console.withPictures (String.ofList mark) =
      shown) :
    Console.styled line = .ok (Console.plain (shown ++ Console.withPictures rest)) := by
  have hmarkup := Console.Markup.shown_tagged hlead hstyle hmark hrest
  rw [← hline, String.ofList_toList, String.ofList_toList, hshown] at hmarkup
  rw [Console.styled, hmarkup]
  rfl

theorem styled_refusal {name message : String} (hname : '[' ∉ name.toList)
    (hmessage : '[' ∉ message.toList) :
    Console.styled ("[red]✗[/red] " ++ name ++ ": " ++ message) =
      .ok (Console.plain ("✗" ++ Console.withPictures (" " ++ name ++ ": " ++ message))) :=
  styled_of_tagged [] ['r', 'e', 'd'] ['✗'] (by simp)
    (by simp [Console.Piece.IsOrdinary]) ⟨by simp, by simp⟩ (by simp [Console.Piece.IsOrdinary])
    (by simp [hname, hmessage]) (by decide +kernel)

theorem styled_acceptance {name : String} (hname : '[' ∉ name.toList) (steps : Nat) :
    Console.styled ("[green]✓[/green] " ++ name ++ ": " ++ toString steps ++ " steps") =
      .ok (Console.plain ("✓" ++
        Console.withPictures (" " ++ name ++ ": " ++ toString steps ++ " steps"))) := by
  have hsteps : '[' ∉ Nat.toDigits 10 steps := fun hmem =>
    absurd (Nat.isDigit_of_mem_toDigits (by decide) (by decide) hmem) (by decide)
  exact styled_of_tagged [] ['g', 'r', 'e', 'e', 'n'] ['✓'] (by simp)
    (by simp [Console.Piece.IsOrdinary]) ⟨by simp, by simp⟩ (by simp [Console.Piece.IsOrdinary])
    (by simp [hname, hsteps]) (by decide +kernel)

theorem styled_warning {id : String} (hid : '[' ∉ id.toList) :
    Console.styled ("  [yellow]warning:[/yellow] step '" ++ id ++ "' is unreachable") =
      .ok (Console.plain ("  warning:" ++
        Console.withPictures (" step '" ++ id ++ "' is unreachable"))) :=
  styled_of_tagged [' ', ' '] ['y', 'e', 'l', 'l', 'o', 'w']
    ['w', 'a', 'r', 'n', 'i', 'n', 'g', ':'] (by simp) (by simp [Console.Piece.IsOrdinary])
    ⟨by simp, by simp⟩ (by simp [Console.Piece.IsOrdinary]) (by simp [hid]) (by decide +kernel)

theorem shows_verdict {name : String} {script : Value}
    (hplain : ∀ text ∈ quoted name (Script.ofInput script), '[' ∉ text.toList) :
    Shows (verdict name script).2 (plainReport name (Script.ofInput script)) := by
  obtain ⟨hname, hothers⟩ := List.forall_mem_cons.1 hplain
  unfold verdict
  cases hscript : Script.ofInput script with
  | error fault =>
    rw [hscript] at hothers
    exact .cons (styled_refusal hname (hothers _ List.mem_cons_self)) .nil
  | ok script =>
    rw [hscript] at hothers
    refine .cons (styled_acceptance hname _) ?_
    dsimp only at hothers
    generalize script.unreachable = ids at hothers
    induction ids with
    | nil => exact .nil
    | cons id rest ih =>
      obtain ⟨hid, hrest⟩ := List.forall_mem_cons.1 hothers
      exact .cons (styled_warning hid) (ih hrest)

/-- What the command comes to once the document is read. -/
theorem run_validate_eq {p : Path} {w : Workstation} {settings : Settings} {document : Value}
    (hconfigured : ((configured Settings.logLevel).run.run w).1 = .ok settings)
    (hread : Bundle.readDocument w.machine.disk p = .ok document) :
    (validate p).run.run w = match Bundle.ofValue document with
      | .error fault => (.error (.crash fault.kind), w)
      | .ok entries =>
        let verdicts := (targets p.stem document entries).map fun (name, script) => verdict name script
        (printAll (verdicts.flatMap Prod.snd) >>= fun _ =>
          (if !verdicts.all Prod.fst then throw (.code 1) else pure () : Act Unit)).run.run w := by
  unfold validate
  rw [Act.run_bind, (onlyReads_configured _).run_eq hconfigured]
  dsimp only
  rw [Act.run_bind, Act.run_get]
  dsimp only
  rw [hread, Act.run_bind]
  have hexpected : (expected (.ok document)).run.run w = (.ok document, w) := rfl
  rw [hexpected]
  dsimp only
  cases Bundle.ofValue document <;> rfl

theorem all_verdict_iff {checked : List (String × Value)} :
    (checked.map fun target => verdict target.1 target.2).all Prod.fst = true ↔
      ∀ target ∈ checked, ∃ script, Script.ofInput target.2 = .ok script := by
  rw [List.all_map, List.all_eq_true]
  refine forall₂_congr fun target _ => ?_
  rw [Function.comp_apply, verdict]
  cases Script.ofInput target.2 <;> simp

theorem shows_flatMap {α : Type} {items : List α} {lines texts : α → List String}
    (hshows : ∀ item ∈ items, Shows (lines item) (texts item)) :
    Shows (items.flatMap lines) (items.flatMap texts) := by
  induction items with
  | nil => exact .nil
  | cons item rest ih =>
    obtain ⟨hfirst, hrest⟩ := List.forall_mem_cons.1 hshows
    rw [List.flatMap_cons, List.flatMap_cons]
    exact List.rel_append hfirst (ih hrest)

/-- A workspace with a bundle of this text. -/
def cabin (bundle : String) : Workstation where
  terminal := ⟨[], ""⟩
  machine := ⟨⟨⟨"/", ["home"]⟩, [(["home"], .directory),
    (["home", "b.json"], .file (Text.toBytes bundle))]⟩, []⟩
  isVerbose := false
  limit := none

/-- The scripts in the workspace that are checked, as they are read. -/
def readings? (w : Workstation) : Option (List (String × Except ScriptFault Script)) := do
  let document ← (Bundle.readDocument w.machine.disk (.ofString "b.json")).toOption
  let entries ← (Bundle.ofValue document).toOption
  return (targets (Path.ofString "b.json").stem document entries).map fun target =>
    (target.1, Script.ofInput target.2)

theorem exists_of_readings? (w : Workstation) (readings : List (String × Except ScriptFault Script))
    (h : readings? w = some readings) : ∃ document entries,
      Bundle.readDocument w.machine.disk (.ofString "b.json") = .ok document ∧
      Bundle.ofValue document = .ok entries ∧
      (targets (Path.ofString "b.json").stem document entries).map (fun target =>
        (target.1, Script.ofInput target.2)) = readings := by
  unfold readings? at h
  cases hread : Bundle.readDocument w.machine.disk (.ofString "b.json") with
  | error fault => simp [hread, Except.toOption] at h
  | ok document =>
    cases hvalue : Bundle.ofValue document with
    | error fault => simp [hread, hvalue, Except.toOption] at h
    | ok entries =>
      exact ⟨document, entries, rfl, hvalue, by simpa [hread, hvalue, Except.toOption] using h⟩

/-- The second script is reported after the first, which leads to a step that there is none of. -/
def valley : Workstation :=
  cabin ("[\x7b\"id\": \"cave\", " ++
    "\"steps\": [\x7b\"id\": \"in\", \"type\": \"goto\", \"target\": \"out\"\x7d]\x7d, " ++
    "\x7b\"id\": \"hut\", \"steps\": [\x7b\"id\": \"e\", \"type\": \"end\"\x7d]\x7d]")

/-- The script of a bundle that ends at once. -/
def endScript (name : String) : Script :=
  ⟨some name, none, none, [⟨"e", none, none, .finish .success none⟩]⟩

def valleyReadings : List (String × Except ScriptFault Script) :=
  [("cave", .error (.graph (.unknownTarget "out"))), ("hut", .ok (endScript "hut"))]

end Stepwise.Cli
