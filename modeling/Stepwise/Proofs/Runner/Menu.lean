import Stepwise.Proofs.Text.Digits
import Stepwise.Runner.Terminal

namespace Stepwise

namespace Terminal

/-- The reply is this number in decimal digits, of any scripts. -/
def IsNumber (reply : String) (n : Nat) : Prop :=
  ∃ digits, digits ≠ [] ∧ reply.toList.map Text.decimalValue? = digits.map some ∧
    n = Text.valueOfDigits 10 digits

/-- The reply consists of digits and is not a number that can be read: one of them is not decimal,
    or there are too many of them. -/
structure Baffles (reply : String) : Prop where
  ne_nil : reply.toList ≠ []
  isDigit : ∀ c ∈ reply.toList, Text.isDigit c
  unread : (∃ c ∈ reply.toList, Text.decimalValue? c = none) ∨
    Text.maxIntegerDigits < reply.toList.length

/-- What a reply to a menu names: the option with its number, and otherwise the one with its id. -/
inductive Names (ids : List Value) (reply : String) : Value → Prop where
  | number {n : Nat} {id : Value} : IsNumber reply (n + 1) → ids[n]? = some id → Names ids reply id
  | id : (∀ n, IsNumber reply (n + 1) → ids.length ≤ n) → .text reply ∈ ids →
      Names ids reply (.text reply)

/-- The reply is asked for again: it can be read, and it names no option. -/
def Refuses (ids : List Value) (reply : String) : Prop :=
  ¬ Baffles reply ∧ ∀ id, ¬ Names ids reply id

theorem IsNumber.unique {reply : String} {n m : Nat} (hn : IsNumber reply n)
    (hm : IsNumber reply m) : n = m := by
  obtain ⟨digits, _, hdigits, rfl⟩ := hn
  obtain ⟨others, _, hothers, rfl⟩ := hm
  rw [(List.map_inj_right fun _ _ => Option.some.inj).1 (hdigits.symm.trans hothers)]

theorem IsNumber.ne_nil {reply : String} {n : Nat} (hn : IsNumber reply n) : reply.toList ≠ [] := by
  obtain ⟨digits, hne, hdigits, _⟩ := hn
  rintro hnil
  rw [hnil, List.map_nil, eq_comm, List.map_eq_nil_iff] at hdigits
  exact hne hdigits

theorem IsNumber.isDigit {reply : String} {n : Nat} (hn : IsNumber reply n) :
    ∀ c ∈ reply.toList, Text.isDigit c := by
  obtain ⟨digits, _, hdigits, _⟩ := hn
  intro c hc
  obtain ⟨value, _, hvalue⟩ := List.mem_map.1 (hdigits ▸ List.mem_map_of_mem hc)
  rw [Text.isDigit, ← hvalue, Option.isSome_some, Bool.true_or]

theorem Names.mem {ids : List Value} {reply : String} {id : Value} (hnames : Names ids reply id) :
    id ∈ ids := by
  cases hnames with
  | number _ hid => exact List.mem_of_getElem? hid
  | id _ hmem => exact hmem

theorem number?_of_digits {reply : String} (hne : reply.toList ≠ [])
    (hall : ∀ c ∈ reply.toList, Text.isDigit c) : number? reply =
      ((Text.readInteger 10 (Text.asciiNumeral reply.toList)).map some).mapError fun fault =>
        .badValue (fault.message 10 (Text.quoted reply)) := by
  have hempty : reply.isEmpty = false := by
    rw [Bool.eq_false_iff, ne_eq, String.isEmpty_iff, ← String.toList_eq_nil_iff]
    exact hne
  rw [number?, hempty, List.all_eq_true.2 hall]
  cases Text.readInteger 10 (Text.asciiNumeral reply.toList) <;> rfl

/-- A reply that does not baffle is read as the number that it is, if it is one. -/
theorem number?_cases (reply : String) :
    (Baffles reply ∧ ∃ text, number? reply = .error (.badValue text)) ∨
      ¬ Baffles reply ∧ ∃ number : Option Nat, number? reply = .ok (number.map Int.ofNat) ∧
        ∀ n, IsNumber reply n ↔ number = some n := by
  by_cases hdigits : reply.toList ≠ [] ∧ ∀ c ∈ reply.toList, Text.isDigit c
  · obtain ⟨hne, hall⟩ := hdigits
    have hread := number?_of_digits hne hall
    by_cases hlone : ∃ c ∈ reply.toList, Text.decimalValue? c = none
    · obtain ⟨c, hc, hnone⟩ := hlone
      obtain ⟨fault, hfault⟩ := Text.readInteger_lone hall hc hnone
      rw [hread, hfault]
      exact .inl ⟨⟨hne, hall, .inl ⟨c, hc, hnone⟩⟩, _, rfl⟩
    obtain ⟨values, hvalues⟩ : ∃ values : List Nat,
        reply.toList.map Text.decimalValue? = values.map some := by
      refine ⟨reply.toList.map fun c => (Text.decimalValue? c).getD 0, ?_⟩
      rw [List.map_map]
      refine List.map_congr_left fun c hc => ?_
      obtain ⟨value, hvalue⟩ := Option.ne_none_iff_exists'.1 fun hnone => hlone ⟨c, hc, hnone⟩
      simp [hvalue]
    have hlength : reply.toList.length = values.length := by
      simpa using congrArg List.length hvalues
    have hvaluesNe : values ≠ [] := by
      rintro rfl
      exact hne (List.length_eq_zero_iff.1 hlength)
    rw [hread, Text.readInteger_decimals hvaluesNe hvalues, ← hlength]
    by_cases hlong : Text.maxIntegerDigits < reply.toList.length
    · rw [if_pos hlong]
      exact .inl ⟨⟨hne, hall, .inr hlong⟩, _, rfl⟩
    · rw [if_neg hlong]
      have hnumber : IsNumber reply (Text.valueOfDigits 10 values) := ⟨values, hvaluesNe, hvalues, rfl⟩
      exact .inr ⟨fun hbaffles => hbaffles.unread.elim hlone hlong, some _, rfl,
        fun n => ⟨fun hn => congrArg some (hnumber.unique hn), fun hn => Option.some.inj hn ▸ hnumber⟩⟩
  · refine .inr ⟨fun hbaffles => hdigits ⟨hbaffles.ne_nil, hbaffles.isDigit⟩, none, ?_, fun n =>
      ⟨fun hn => absurd ⟨hn.ne_nil, hn.isDigit⟩ hdigits, nofun⟩⟩
    rw [number?, if_neg]
    · rfl
    · intro hread
      obtain ⟨hempty, hall⟩ := Bool.and_eq_true_iff.1 hread
      refine hdigits ⟨fun hnil => ?_, List.all_eq_true.1 hall⟩
      simp [String.toList_eq_nil_iff.1 hnil] at hempty

theorem any_text?_eq_true_iff {ids : List Value} {reply : String} :
    (ids.any fun id => id.text? == some reply) = true ↔ .text reply ∈ ids := by
  refine ⟨fun hany => ?_, fun hmem => List.any_eq_true.2 ⟨_, hmem, beq_self_eq_true _⟩⟩
  obtain ⟨id, hid, heq⟩ := List.any_eq_true.1 hany
  obtain ⟨text, rfl⟩ : ∃ text, id = .text text := by
    cases id <;> first | exact ⟨_, rfl⟩ | cases heq
  rwa [← Option.some.inj (eq_of_beq heq)]

/-- What a reply picks that is read as a number or as none. -/
theorem pick_of_number? (ids : List Value) {reply : String} {number : Option Nat}
    (hread : number? reply = .ok (number.map Int.ofNat)) :
    pick ids reply = .ok ((number.bind fun n => if 1 ≤ n then ids[n - 1]? else none).or
      (if ids.any fun id => id.text? == some reply then some (.text reply) else none)) := by
  have hplace : ((number.map Int.ofNat).bind fun n => if 1 ≤ n then ids[n.toNat - 1]? else none) =
      number.bind fun n => if 1 ≤ n then ids[n - 1]? else none := by
    rw [Option.bind_map]
    refine congrArg number.bind (funext fun n => ?_)
    have hpos : (1 ≤ Int.ofNat n) = (1 ≤ n) := propext Int.ofNat_le
    simp only [Function.comp_apply, hpos]
    rfl
  rw [pick, hread, Except.map, hplace]
  cases number.bind fun n => if 1 ≤ n then ids[n - 1]? else none <;> rfl

/-- What a reply picks is what it names, unless it baffles. -/
theorem pick_cases (ids : List Value) (reply : String) :
    (Baffles reply ∧ ∃ text, pick ids reply = .error (.badValue text)) ∨
      (¬ Baffles reply ∧ ∃ id, Names ids reply id ∧ pick ids reply = .ok (some id)) ∨
      (Refuses ids reply ∧ pick ids reply = .ok none) := by
  obtain ⟨hbaffles, text, hfault⟩ | ⟨hclear, number, hread, hnumber⟩ := number?_cases reply
  · exact .inl ⟨hbaffles, text, by rw [pick, hfault]; rfl⟩
  right
  rw [pick_of_number? ids hread]
  cases hfound : number.bind fun n => if 1 ≤ n then ids[n - 1]? else none with
  | some id =>
    left
    obtain ⟨n, hn, hid⟩ := Option.bind_eq_some_iff.1 hfound
    obtain ⟨hpos, hid⟩ := Option.ite_none_right_eq_some.1 hid
    refine ⟨hclear, id, .number ((hnumber _).2 ?_) hid, rfl⟩
    rw [hn, Nat.sub_add_cancel hpos]
  | none =>
    have hpast : ∀ n, IsNumber reply (n + 1) → ids.length ≤ n := by
      intro n hn
      rw [(hnumber _).1 hn, Option.bind_some, if_pos (Nat.le_add_left 1 n),
        Nat.add_sub_cancel] at hfound
      exact List.getElem?_eq_none_iff.1 hfound
    rw [Option.none_or]
    split
    next hany => exact .inl ⟨hclear, _, .id hpast (any_text?_eq_true_iff.1 hany), rfl⟩
    next hnot =>
      refine .inr ⟨⟨hclear, ?_⟩, rfl⟩
      rintro _ (⟨hn, hid⟩ | ⟨_, hmem⟩)
      · rw [List.getElem?_eq_none_iff.2 (hpast _ hn)] at hid
        cases hid
      · exact hnot (any_text?_eq_true_iff.2 hmem)

/-- The menu, and the question for the reply. -/
def question (message : String) (labels : List String) : String :=
  menu message labels ++ "Select an option: "

/-- What is shown for a reply that is asked for again: the question, the end of the line that was
    typed, and one line that says so. -/
def refused (message : String) (labels : List String) (line : String) : String :=
  question message labels ++ "\n" ++
    ("Error: '" ++ Text.trim line ++ "' is not one of the options" ++ "\n")

theorem choose_go_nil (message : String) (ids : List Value) (labels : List String) (shown : String) :
    choose.go message ids labels [] shown =
      (.error .endOfInput, ⟨[], shown ++ question message labels⟩) := by
  simp only [choose.go, input, print, question, String.append_assoc]
  rfl

theorem choose_go_cons (message : String) (ids : List Value) (labels : List String)
    (line : String) (rest : List String) (shown : String) :
    choose.go message ids labels (line :: rest) shown =
      match pick ids (Text.trim line) with
      | .error fault => (.error fault, ⟨rest, shown ++ question message labels ++ "\n"⟩)
      | .ok (some id) => (.ok id, ⟨rest, shown ++ question message labels ++ "\n"⟩)
      | .ok none => choose.go message ids labels rest (shown ++ refused message labels line) := by
  have hshown : shown ++ menu message labels ++ ("Select an option" ++ "" ++ ": ") ++ ("" ++ "\n") =
      shown ++ question message labels ++ "\n" := by
    simp only [question, String.append_assoc]
    rfl
  have hrefused : shown ++ refused message labels line = shown ++ question message labels ++ "\n" ++
      ("Error: '" ++ Text.trim line ++ "' is not one of the options" ++ "\n") := by
    simp only [refused, String.append_assoc]
  rw [hrefused, ← hshown, choose.go]
  rfl

/-- Reply after reply is refused, until one is not or none is left. -/
theorem choose_cases (t : Terminal) (message : String) (ids : List Value) (labels : List String) :
    (∀ line ∈ t.typed, Refuses ids (Text.trim line)) ∧
      t.choose message ids labels = (.error .endOfInput,
        ⟨[], t.shown ++ String.join (t.typed.map (refused message labels)) ++
          question message labels⟩) ∨
    ∃ before line rest, t.typed = before ++ line :: rest ∧
      (∀ earlier ∈ before, Refuses ids (Text.trim earlier)) ∧
      ∃ result, t.choose message ids labels = (result,
        ⟨rest, t.shown ++ String.join (before.map (refused message labels)) ++
          question message labels ++ "\n"⟩) ∧
        ((¬ Baffles (Text.trim line) ∧ ∃ id, Names ids (Text.trim line) id ∧ result = .ok id) ∨
          Baffles (Text.trim line) ∧ ∃ text, result = .error (.badValue text)) := by
  obtain ⟨typed, shown⟩ := t
  change (∀ line ∈ typed, _) ∧ choose.go message ids labels typed shown = _ ∨
    ∃ before line rest, _ ∧ _ ∧ ∃ result, choose.go message ids labels typed shown = _ ∧ _
  -- Each refused reply leaves the same question to the lines after it, with more on the screen.
  induction typed generalizing shown with
  | nil =>
    left
    rw [choose_go_nil, List.map_nil, String.join_nil, String.append_empty]
    exact ⟨by simp, rfl⟩
  | cons line rest ih =>
    rw [choose_go_cons]
    obtain ⟨hbaffles, text, hpick⟩ | ⟨hclear, id, hnames, hpick⟩ | ⟨hrefuses, hpick⟩ :=
      pick_cases ids (Text.trim line)
    · refine .inr ⟨[], line, rest, rfl, by simp, _, ?_, .inr ⟨hbaffles, text, rfl⟩⟩
      rw [hpick, List.map_nil, String.join_nil, String.append_empty]
    · refine .inr ⟨[], line, rest, rfl, by simp, _, ?_, .inl ⟨hclear, id, hnames, rfl⟩⟩
      rw [hpick, List.map_nil, String.join_nil, String.append_empty]
    · rw [hpick]
      obtain ⟨hall, hend⟩ | ⟨before, last, after, hsplit, hbefore, result, hend, hresult⟩ :=
        ih (shown ++ refused message labels line)
      · left
        refine ⟨List.forall_mem_cons.2 ⟨hrefuses, hall⟩, ?_⟩
        simp only [hend, List.map_cons, String.join_cons, String.append_assoc]
      · right
        refine ⟨line :: before, last, after, congrArg (line :: ·) hsplit,
          List.forall_mem_cons.2 ⟨hrefuses, hbefore⟩, result, ?_, hresult⟩
        simp only [hend, List.map_cons, String.join_cons, String.append_assoc]

end Terminal

namespace Workstation

open Terminal

/-- A menu at a terminal: every reply that names no option is followed by a line that says so and
    by the question again, and the first one that names an option gives its id. Only the end of the
    input, and a reply of digits that is not a number, end it otherwise. -/
theorem runner_choose (message : String) (options : List Value) (w : Workstation) :
    let ids := options.map (optionField "id")
    let labels := options.map fun option => (optionField "label" option).display
    let shown := fun lines => w.terminal.shown ++ String.join (lines.map (refused message labels)) ++
      question message labels
    ((∀ line ∈ w.terminal.typed, Refuses ids (Text.trim line)) ∧
      runner.choose message options w =
        (.error .endOfInput, { w with terminal := ⟨[], shown w.terminal.typed⟩ })) ∨
    ∃ before line rest, w.terminal.typed = before ++ line :: rest ∧
      (∀ earlier ∈ before, Refuses ids (Text.trim earlier)) ∧
      ∃ result, runner.choose message options w =
          (result, { w with terminal := ⟨rest, shown before ++ "\n"⟩ }) ∧
        ((¬ Baffles (Text.trim line) ∧
            ∃ id ∈ ids, Names ids (Text.trim line) id ∧ result = .ok id) ∨
          Baffles (Text.trim line) ∧ ∃ text, result = .error (.badValue text)) := by
  intro ids labels shown
  have hrun : runner.choose message options w = ((w.terminal.choose message ids labels).1,
      { w with terminal := (w.terminal.choose message ids labels).2 }) := rfl
  obtain ⟨hall, hend⟩ | ⟨before, line, rest, hsplit, hbefore, result, hend, hresult⟩ :=
    choose_cases w.terminal message ids labels
  · refine .inl ⟨hall, ?_⟩
    rw [hrun, hend]
  · refine .inr ⟨before, line, rest, hsplit, hbefore, result, ?_, ?_⟩
    · rw [hrun, hend]
    · refine hresult.imp (fun ⟨hclear, id, hnames, hid⟩ => ?_) id
      exact ⟨hclear, id, hnames.mem, hnames, hid⟩

/-- An option may have an id that baffles: it cannot be picked by its id, and the reply after it is
    not read any more. -/
theorem runner_choose_superscript :
    let options := [("²", "Alpha"), ("b", "Beta")].map fun (id, label) =>
      Value.ofFields [("id", .text id), ("label", .text label)]
    let w : Workstation := ⟨⟨["²", "b"], ""⟩, ⟨⟨⟨"/", []⟩, []⟩, []⟩, false, none⟩
    .text "²" ∈ options.map (optionField "id") ∧
      ∃ text, (runner.choose "Pick" options w).1 = .error (.badValue text) := by
  intro options w
  refine ⟨List.mem_cons_self, ?_⟩
  have hbaffles : Baffles (Text.trim "²") := by
    have htrim : Text.trim "²" = "²" := by decide +kernel
    rw [htrim]
    exact ⟨by decide, List.forall_mem_singleton.2 (by decide), .inl ⟨'²', by decide, by decide⟩⟩
  obtain ⟨-, text, hpick⟩ | ⟨hclear, -⟩ | ⟨⟨hclear, -⟩, -⟩ :=
    pick_cases (options.map (optionField "id")) (Text.trim "²")
  · have hgo := choose_go_cons "Pick" (options.map (optionField "id"))
      (options.map fun option => (optionField "label" option).display) "²" ["b"] ""
    rw [hpick] at hgo
    exact ⟨text, congrArg Prod.fst hgo⟩
  · exact absurd hbaffles hclear
  · exact absurd hbaffles hclear

end Workstation

end Stepwise
