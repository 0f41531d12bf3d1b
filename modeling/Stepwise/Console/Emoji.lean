import Stepwise.Console.Emoji.Table
import Stepwise.Text.Blank
import Stepwise.Text.Case

/-! Short names of pictures: a name between colons is shown as the picture it stands for. -/

namespace Stepwise.Console

/-- The picture with a short name. -/
def picture? (name : String) : Option String :=
  (pictures.find? fun (_, names) => (names.splitOn " ").contains name).map Prod.fst

/-- A short name that was read: the name, the selector of a form of its picture, and the rest. -/
structure ShortName where
  name : List Char
  selector : List Char
  rest : List Char

namespace ShortName

/-- The end of a short name, which may ask for the picture in colour or as text. -/
private def end? : List Char → Option ShortName
  | ':' :: rest => some ⟨[], [], rest⟩
  | '-' :: 'e' :: 'm' :: 'o' :: 'j' :: 'i' :: ':' :: rest => some ⟨[], ['\ufe0f'], rest⟩
  | '-' :: 't' :: 'e' :: 'x' :: 't' :: ':' :: rest => some ⟨[], ['\ufe0e'], rest⟩
  | _ => none

private theorem rest_lt_of_end? {cs : List Char} {n : ShortName} (hend : end? cs = some n) :
    n.rest.length < cs.length := by
  unfold end? at hend
  split at hend <;> simp at hend <;> subst hend <;> simp <;> omega

/-- Reads a short name up to its first end. No blank stands in it. -/
def read? : List Char → Option ShortName
  | [] => none
  | c :: cs => match end? (c :: cs) with
    | some n => some n
    | none => if Text.isBlank c then none else (read? cs).map fun n => { n with name := c :: n.name }

theorem rest_lt_of_read? {cs : List Char} {n : ShortName} (hread : read? cs = some n) :
    n.rest.length < cs.length := by
  induction cs generalizing n with
  | nil => simp [read?] at hread
  | cons c cs ih =>
    unfold read? at hread
    split at hread
    · next hend => cases hread; exact rest_lt_of_end? hend
    · split at hread
      · simp at hread
      · obtain ⟨m, hm, rfl⟩ := Option.map_eq_some_iff.1 hread
        have hlt := ih hm
        simp only [List.length_cons]
        omega

end ShortName

private def illustrated : List Char → List Char
  | [] => []
  | ':' :: cs => match hread : ShortName.read? cs with
    | some n =>
      have := ShortName.rest_lt_of_read? hread
      (match picture? (Text.lower (String.ofList n.name)) with
        | some picture => picture.toList ++ n.selector
        | none => ':' :: cs.take (cs.length - n.rest.length)) ++ illustrated n.rest
    | none => ':' :: illustrated cs
  | c :: cs => c :: illustrated cs
termination_by cs => cs.length

/-- A text with its short names replaced by pictures. What names no picture stays. -/
def withPictures (s : String) : String :=
  String.ofList (illustrated s.toList)

end Stepwise.Console
