import Stepwise.Record.Issue

namespace Stepwise.Record

/-- What reading a value gives: the thing it stands for, or everything that is wrong with it. -/
inductive Decoded (α : Type) where
  | ok (a : α)
  | bad (issues : List Issue)

namespace Decoded

variable {α β : Type}

def map (f : α → β) : Decoded α → Decoded β
  | ok a => ok (f a)
  | bad issues => bad issues

/-- Reads two things; what is wrong with either is reported, the first one's issues first. -/
def ap (f : Decoded (α → β)) (x : Decoded α) : Decoded β :=
  match f, x with
  | ok f, ok a => ok (f a)
  | ok _, bad issues => bad issues
  | bad issues, ok _ => bad issues
  | bad issues, bad more => bad (issues ++ more)

instance : Applicative Decoded where
  pure := ok
  seq f x := ap f (x ())

/-- A further condition on what was read. -/
def andThen (x : Decoded α) (f : α → Decoded β) : Decoded β :=
  match x with
  | ok a => f a
  | bad issues => bad issues

/-- The first reading, or the second; if neither is right, the issues of both. -/
def orElse (x y : Decoded α) : Decoded α :=
  match x, y with
  | ok a, _ => ok a
  | bad _, ok a => ok a
  | bad issues, bad more => bad (issues ++ more)

/-- A mismatch of the value itself. -/
def mismatch (m : Mismatch) : Decoded α :=
  bad [⟨[], m⟩]

/-- The issues are those of a part of a larger value. -/
def under (part : Part) : Decoded α → Decoded α
  | ok a => ok a
  | bad issues => bad (issues.map fun issue => { issue with path := part :: issue.path })

def toExcept : Decoded α → Except (List Issue) α
  | ok a => .ok a
  | bad issues => .error issues

/-- Reads the items of a list, each under its position. -/
def items {γ : Type} (read : γ → Decoded α) : (position : Nat) → List γ → Decoded (List α)
  | _, [] => ok []
  | position, x :: rest =>
    ap (map List.cons ((read x).under (.index position))) (items read (position + 1) rest)

end Decoded

end Stepwise.Record
