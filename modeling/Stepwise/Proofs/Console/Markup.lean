import Mathlib.Data.List.TakeDrop
import Mathlib.Data.List.TakeWhile
import Stepwise.Console.Print

namespace Stepwise.Console

namespace Piece

/-- Characters that are neither the beginning of a tag nor a backslash. -/
def IsOrdinary (cs : List Char) : Prop := ∀ c ∈ cs, c ≠ '[' ∧ c ≠ '\\'

theorem split_ordinary {cs : List Char} (hcs : IsOrdinary cs) (fuel : Nat) (pending rest : List Char) :
    split (cs.length + fuel) pending (cs ++ rest) = split fuel (cs.reverse ++ pending) rest := by
  induction cs generalizing pending with
  | nil => rw [List.length_nil, Nat.zero_add, List.nil_append, List.reverse_nil, List.nil_append]
  | cons c cs ih =>
    obtain ⟨⟨hbracket, hslash⟩, hrest⟩ := List.forall_mem_cons.1 hcs
    have hslashes : (c :: (cs ++ rest)).takeWhile (· == '\\') = [] :=
      List.takeWhile_cons_of_neg (by simpa using hslash)
    rw [List.length_cons, Nat.succ_add, List.cons_append, split]
    simp only [hslashes, List.length_nil, List.drop_zero]
    split
    next after heq => exact absurd (List.cons.inj heq).1 hbracket
    next => simp [ih hrest]

theorem reverse_takeWhile_eq (c : Char) (cs : List Char) :
    (cs.takeWhile (· == c)).reverse = cs.takeWhile (· == c) := by
  have hall : ∀ x ∈ cs.takeWhile (· == c), x = c := fun x hx =>
    eq_of_beq (List.all_eq_true.1 List.all_takeWhile x hx)
  rw [List.eq_replicate_of_mem hall, List.reverse_replicate]

/-- What has no bracket is one plain part. -/
theorem split_plain {cs : List Char} (hcs : '[' ∉ cs) {fuel : Nat} (hfuel : cs.length < fuel)
    (pending : List Char) : split fuel pending cs = flush (cs.reverse ++ pending) [] := by
  induction fuel generalizing cs pending with
  | zero => cases hfuel
  | succ fuel ih =>
    cases cs with
    | nil => rfl
    | cons c rest =>
      have happend := List.takeWhile_append_dropWhile (p := (· == '\\')) (l := c :: rest)
      have hdrop : (c :: rest).drop ((c :: rest).takeWhile (· == '\\')).length =
          (c :: rest).dropWhile (· == '\\') :=
        (congrArg (List.drop _) happend.symm).trans List.drop_left
      rw [split]
      simp only [hdrop]
      split
      next after heq =>
        have hmem : '[' ∈ (c :: rest).dropWhile (· == '\\') := heq ▸ List.mem_cons_self
        exact absurd ((List.dropWhile_suffix _).subset hmem) hcs
      next =>
        split
        next =>
          rw [ih (fun hmem => hcs (List.mem_cons_of_mem c hmem)) (Nat.lt_of_succ_lt_succ hfuel)]
          simp
        next hslashes =>
          have hlength := congrArg List.length happend
          rw [List.length_append] at hlength
          have hpos : 0 < ((c :: rest).takeWhile (· == '\\')).length := by
            rw [List.length_pos_iff, ne_eq, ← List.isEmpty_iff]
            exact hslashes
          rw [ih (fun hmem => hcs ((List.dropWhile_suffix _).subset hmem)) (by omega),
            ← List.append_assoc]
          congr 2
          conv_rhs => rw [← happend, List.reverse_append, reverse_takeWhile_eq]

theorem enclosed?_append {inner : List Char} (hfirst : inner.head?.any beginsTag)
    (hinner : ∀ c ∈ inner, c ≠ ']' ∧ c ≠ '[') (rest : List Char) :
    enclosed? (inner ++ ']' :: rest) = some (inner, rest) := by
  cases inner with
  | nil => cases hfirst
  | cons c more =>
    have hbegins : beginsTag c = true := hfirst
    have hspan : (c :: more ++ ']' :: rest).span (fun c => c != ']' && c != '[') =
        (c :: more, ']' :: rest) := by
      have hall : ∀ x ∈ c :: more, (x != ']' && x != '[') = true := fun x hx => by
        simpa using hinner x hx
      rw [List.span_eq_takeWhile_dropWhile, List.takeWhile_append_of_pos hall,
        List.dropWhile_append_of_pos hall]
      simp
    rw [List.cons_append] at hspan ⊢
    rw [enclosed?, if_pos hbegins, hspan]
    rfl

theorem split_tag {inner : List Char} (hfirst : inner.head?.any beginsTag)
    (hinner : ∀ c ∈ inner, c ≠ ']' ∧ c ≠ '[') (fuel : Nat) (pending rest : List Char) :
    split (fuel + 1) pending ('[' :: inner ++ ']' :: rest) =
      flush pending (.tag (tagOf inner) :: split fuel [] rest) := by
  have hslashes : ('[' :: (inner ++ ']' :: rest)).takeWhile (· == '\\') = [] :=
    List.takeWhile_cons_of_neg (by simp)
  rw [List.cons_append, split]
  simp only [hslashes, List.length_nil, List.drop_zero, enclosed?_append hfirst hinner]
  rfl

/-- The name of a style that is one word in small letters. -/
def IsWord (style : List Char) : Prop := style ≠ [] ∧ ∀ c ∈ style, 'a' ≤ c ∧ c ≤ 'z'

theorem IsWord.ordinary {style : List Char} (hstyle : IsWord style) :
    ∀ c ∈ style, c ≠ ']' ∧ c ≠ '[' := by
  intro c hc
  have hlow := (hstyle.2 c hc).1
  constructor <;> rintro rfl <;> exact absurd hlow (by decide)

theorem IsWord.beginsTag {style : List Char} (hstyle : IsWord style) :
    style.head?.any beginsTag := by
  obtain ⟨hne, hletters⟩ := hstyle
  cases style with
  | nil => exact absurd rfl hne
  | cons c rest =>
    obtain ⟨hlow, hhigh⟩ := hletters c List.mem_cons_self
    simp [Piece.beginsTag, hlow, hhigh]

theorem tagOf_word {style : List Char} (hstyle : ∀ c ∈ style, c ≠ '=') :
    tagOf style = ⟨String.ofList style, none⟩ := by
  have hall : style.takeWhile (· != '=') = style :=
    List.takeWhile_eq_self_iff.2 fun c hc => by simpa using hstyle c hc
  simp only [tagOf, hall, List.drop_length]

/-- A part in a style between two plain ones. -/
theorem ofText_tagged {lead style mark rest : List Char} (hlead : IsOrdinary lead)
    (hstyle : IsWord style) (hmark : IsOrdinary mark) (hrest : '[' ∉ rest) :
    ofText (String.ofList (lead ++ ('[' :: style ++ ']' :: (mark ++ ('[' :: ('/' :: style) ++
      ']' :: rest))))) =
      flush lead.reverse (.tag (tagOf style) :: flush mark.reverse
        (.tag (tagOf ('/' :: style)) :: flush rest.reverse [])) := by
  have hclosing : ∀ c ∈ '/' :: style, c ≠ ']' ∧ c ≠ '[' :=
    List.forall_mem_cons.2 ⟨by decide, hstyle.ordinary⟩
  rw [ofText, String.toList_ofList, String.length_ofList]
  -- What is left when the last plain part is reached is more than its length.
  obtain ⟨fuel, hfuel, hlength⟩ : ∃ fuel, rest.length < fuel ∧
      (lead ++ ('[' :: style ++ ']' :: (mark ++ ('[' :: ('/' :: style) ++ ']' :: rest)))).length + 1 =
        lead.length + (mark.length + (fuel + 1) + 1) := by
    refine ⟨rest.length + 2 * style.length + 4, by omega, ?_⟩
    simp only [List.length_append, List.length_cons]
    omega
  rw [hlength, split_ordinary hlead, split_tag hstyle.beginsTag hstyle.ordinary,
    split_ordinary hmark, split_tag rfl hclosing, split_plain hrest hfuel]
  simp only [List.append_nil]

end Piece

namespace Markup

theorem unescaped_of_not_mem {cs : List Char} (hcs : '[' ∉ cs) : unescaped cs = cs := by
  fun_induction unescaped cs with
  | case1 rest ih => simp at hcs
  | case2 c rest _ ih => rw [ih fun hmem => hcs (List.mem_cons_of_mem c hmem)]
  | case3 => rfl

theorem walk_flush {pending : List Char} (hpending : '[' ∉ pending) (opened : List String)
    (pieces : List Piece) : walk opened (Piece.flush pending.reverse pieces) =
      (walk opened pieces).map ((withPictures (String.ofList pending)).toList ++ ·) := by
  cases pending with
  | nil =>
    have hnone : (withPictures (String.ofList [])).toList = [] := by decide +kernel
    have hflush : Piece.flush [].reverse pieces = pieces := rfl
    rw [hflush, hnone]
    cases walk opened pieces <;> rfl
  | cons c cs =>
    have hnonempty : (c :: cs).reverse.isEmpty = false := by simp
    rw [Piece.flush, hnonempty, if_neg Bool.false_ne_true, walk, List.reverse_reverse,
      String.toList_ofList, unescaped_of_not_mem hpending]
    rfl

theorem trim_word {style : List Char} (hstyle : Piece.IsWord style) :
    Text.trim (String.ofList style) = String.ofList style := by
  have hplain : ∀ c ∈ style, Text.isBlank c = false := by
    intro c hc
    obtain ⟨hlow, hhigh⟩ := hstyle.2 c hc
    refine Bool.eq_false_iff.2 fun hblank => ?_
    obtain ⟨range, hrange, hfirst, hlast⟩ := Text.Ranges.exists_of_contains hblank
    have hapart : ∀ range ∈ Text.blankRanges.bounds, range.2 < 97 ∨ 122 < range.1 := by decide
    have hlow' : 97 ≤ c.toNat := hlow
    have hhigh' : c.toNat ≤ 122 := hhigh
    have := hapart range hrange
    omega
  have hdrop : ∀ cs : List Char, (∀ c ∈ cs, Text.isBlank c = false) →
      cs.dropWhile Text.isBlank = cs := by
    intro cs hcs
    cases cs with
    | nil => rfl
    | cons c rest => exact List.dropWhile_cons_of_neg (by simp [hcs c List.mem_cons_self])
  rw [Text.trim, Text.trimChars, String.toList_ofList, hdrop style hplain,
    hdrop style.reverse fun c hc => hplain c (List.mem_reverse.1 hc), List.reverse_reverse]

/-- A line with a part in a style, in which nothing else is markup, is shown without its tags. -/
theorem shown_tagged {lead style mark rest : List Char} (hlead : Piece.IsOrdinary lead)
    (hstyle : Piece.IsWord style) (hmark : Piece.IsOrdinary mark) (hrest : '[' ∉ rest) :
    shown (String.ofList (lead ++ ('[' :: style ++ ']' :: (mark ++ ('[' :: ('/' :: style) ++
      ']' :: rest))))) = .ok (withPictures (String.ofList lead) ++ withPictures (String.ofList mark) ++
        withPictures (String.ofList rest)) := by
  have hlead' : '[' ∉ lead := fun hmem => (hlead _ hmem).1 rfl
  have hmark' : '[' ∉ mark := fun hmem => (hmark _ hmem).1 rfl
  have hletters : ∀ c ∈ style, c ≠ '=' ∧ c ≠ '/' := by
    intro c hc
    have hlow := (hstyle.2 c hc).1
    constructor <;> rintro rfl <;> exact absurd hlow (by decide)
  have hopen : ∀ opened pieces, walk opened (.tag ⟨String.ofList style, none⟩ :: pieces) =
      walk (Style.normal (String.ofList style) :: opened) pieces := by
    intro opened pieces
    conv_lhs => unfold walk
    split
    next name heq =>
      rw [String.toList_ofList] at heq
      exact absurd rfl (hletters '/' (heq ▸ List.mem_cons_self)).2
    next => rfl
  have hclose : ∀ pieces, walk [Style.normal (String.ofList style)]
      (.tag ⟨String.ofList ('/' :: style), none⟩ :: pieces) = walk [] pieces := by
    intro pieces
    have hnonempty : (String.ofList style).isEmpty = false := by
      rw [Bool.eq_false_iff, ne_eq, String.isEmpty_iff, ← String.toList_eq_nil_iff,
        String.toList_ofList]
      exact hstyle.1
    conv_lhs => unfold walk
    simp only [String.toList_ofList, trim_word hstyle, hnonempty, close, beq_self_eq_true, if_true]
    rfl
  rw [shown, if_pos (by simp), Piece.ofText_tagged hlead hstyle hmark hrest, walk_flush hlead',
    Piece.tagOf_word fun c hc => (hletters c hc).1, hopen, walk_flush hmark',
    Piece.tagOf_word (List.forall_mem_cons.2 ⟨by decide, fun c hc => (hletters c hc).1⟩), hclose,
    walk_flush hrest, walk]
  simp [Except.map, String.append_assoc]

end Markup

end Stepwise.Console
