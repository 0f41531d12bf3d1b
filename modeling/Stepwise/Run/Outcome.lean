import Stepwise.Record.Field
import Stepwise.Record.Scalar

namespace Stepwise

open Record

/-- What a command left behind: its exit code and its output. -/
structure Outcome where
  code : Int
  stdout : Option String
  stderr : Option String
deriving DecidableEq

namespace Outcome

/-- Only the exit code zero means success. -/
def isOk (outcome : Outcome) : Bool :=
  outcome.code == 0

/-- What the command had to say: its complaints, or else its output, unless both are empty. -/
def output (outcome : Outcome) : Option String :=
  outcome.stderr.filter (!·.isEmpty) <|> outcome.stdout.filter (!·.isEmpty)

/-- The outcome that a record stands for. The exit code has two names. -/
def decode (v : Value) : Decoded Outcome :=
  match v with
  | .map entries =>
    Outcome.mk <$> required entries "code" ["returncode"] integer
      <*> optional entries "stdout" [] none (nullable text)
      <*> optional entries "stderr" [] none (nullable text)
  | _ => .mismatch (.notRecord "CommandResult")

/-- The record of an outcome. -/
def dump (outcome : Outcome) : Value :=
  .ofFields [("code", .int outcome.code), ("stdout", .ofText? outcome.stdout),
    ("stderr", .ofText? outcome.stderr)]

end Outcome

end Stepwise
