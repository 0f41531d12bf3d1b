import Stepwise.Shell.Token

namespace Stepwise.Shell

/-- Where the output or the input of a command goes. -/
inductive Redirect where
  | input (file : Word)
  | output (descriptor : Nat) (file : Word) (appends : Bool)
  | copy (descriptor source : Nat)

/-- A command of a script. -/
inductive Command where
  | nothing
  | simple (words : List Word) (redirects : List Redirect)
  | pipe (first second : Command)
  | negate (c : Command)
  | both (first second : Command)
  | either (first second : Command)
  | next (first second : Command)
  /-- A part that leaves what is around it as it is. -/
  | inside (c : Command)

namespace Command

private def literal? : Word → Option String
  | [.literal s] => some s
  | .literal s :: rest => (literal? rest).map (s ++ ·)
  | _ => none

private def simpleAt : List Token → (List Word × List Redirect) × List Token
  | .word w :: rest =>
    let ((words, redirects), after) := simpleAt rest
    ((w :: words, redirects), after)
  | .readFrom :: .word w :: rest =>
    let ((words, redirects), after) := simpleAt rest
    ((words, .input w :: redirects), after)
  | .writeTo d appends :: .word w :: rest =>
    let ((words, redirects), after) := simpleAt rest
    ((words, .output d w appends :: redirects), after)
  | .copyTo d source :: rest =>
    let ((words, redirects), after) := simpleAt rest
    ((words, .copy d source :: redirects), after)
  | rest => (([], []), rest)

mutual

private def unit : Nat → List Token → Option (Command × List Token)
  | 0, _ => none
  | fuel + 1, .mark "(" :: rest => do
    let (c, rest) ← script fuel rest
    match rest with
    | .mark ")" :: rest => return (.inside c, rest)
    | _ => none
  | fuel + 1, .word w :: rest =>
    match literal? w with
    | some "!" => do
      let (c, rest) ← pipeline fuel rest
      return (.negate c, rest)
    | some "\x7b" => do
      let (c, rest) ← script fuel rest
      match rest with
      | .word [.literal "\x7d"] :: rest => return (c, rest)
      | _ => none
    | _ =>
      let ((words, redirects), rest) := simpleAt (.word w :: rest)
      some (.simple words redirects, rest)
  | _ + 1, rest =>
    let ((words, redirects), after) := simpleAt rest
    if redirects.isEmpty then none else some (.simple words redirects, after)

private def pipeline : Nat → List Token → Option (Command × List Token)
  | 0, _ => none
  | fuel + 1, tokens => do
    let (first, rest) ← unit fuel tokens
    match rest with
    | .mark "|" :: rest =>
      let (second, rest) ← pipeline fuel rest
      return (.pipe first second, rest)
    | rest => return (first, rest)

private def chain : Nat → Command → List Token → Option (Command × List Token)
  | 0, _, _ => none
  | fuel + 1, first, .mark "&&" :: rest => do
    let (second, rest) ← pipeline fuel rest
    chain fuel (.both first second) rest
  | fuel + 1, first, .mark "||" :: rest => do
    let (second, rest) ← pipeline fuel rest
    chain fuel (.either first second) rest
  | _ + 1, first, rest => some (first, rest)

private def script : Nat → List Token → Option (Command × List Token)
  | 0, _ => none
  | fuel + 1, .mark ";" :: rest => script fuel rest
  | _ + 1, [] => some (.nothing, [])
  | _ + 1, .mark ")" :: rest => some (.nothing, .mark ")" :: rest)
  | _ + 1, .word [.literal "\x7d"] :: rest => some (.nothing, .word [.literal "\x7d"] :: rest)
  | fuel + 1, tokens => do
    let (first, rest) ← pipeline fuel tokens
    let (first, rest) ← chain fuel first rest
    match rest with
    | .mark ";" :: rest =>
      let (second, rest) ← script fuel rest
      return (.next first second, rest)
    | rest => return (first, rest)

end

/-- Reads a script. -/
def ofScript? (text : String) : Option Command :=
  let tokens := Token.ofScript text
  match script (4 * tokens.length + 4) tokens with
  | some (c, []) => some c
  | _ => none

end Command

end Stepwise.Shell
