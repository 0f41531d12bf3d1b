import Stepwise.Bundle.Basic

namespace Stepwise.Bundle

private def step (fields : List (String × Value)) : Value := .ofFields fields

private def option (id label goto : String) : Value :=
  .ofFields [("id", .text id), ("label", .text label), ("goto", .text goto)]

/-- Offered where no bundle is found, so that there is always something to run. -/
def sample : Entry where
  id := "sample"
  name := "Sample Walkthrough"
  description := "Demo flow to check the walkthrough surface"
  version := none
  start := none
  steps := [
    step [("id", .text "start"), ("type", .text "prompt"),
      ("message", .text "What is your name?"), ("variable", .text "name")],
    step [("id", .text "path"), ("type", .text "choice"), ("message", .text "Pick a path"),
      ("options", .list [option "inspect" "Inspect workspace" "inspect",
        option "skip" "Skip command" "finish"])],
    step [("id", .text "inspect"), ("type", .text "command"), ("command", .text "ls"),
      ("args", .list [.text "-1"]), ("onError", .text "continue")],
    step [("id", .text "assert"), ("type", .text "assert"),
      ("expression", .text "len(vars.name) > 0"), ("message", .text "Name required")],
    step [("id", .text "finish"), ("type", .text "end"), ("status", .text "success"),
      ("message", .text "Walkthrough complete")]]

end Stepwise.Bundle
