import FluentQuery.CommandLine.Run
import FluentQuery.Proofs.Tracing

/-!
# The two commands

`analyze` and `check` load a configuration and a program in the same way and then go separate ways.
The one analyzes under a tracer if a trace is asked for, prints what the tracer has kept, and then
the sites or the failure; the other analyzes silently and prints a failure only, with its position.

Each report is determined by the analysis that its command makes (`analyze_eq`, `check_eq`), and
both analyses have the same result since a tracer does not interfere. So the commands fail on the
same files and with the same message, up to the position.
-/

namespace FluentQuery

namespace CommandLine

/-! ## What each command analyzes -/

/-- The analysis that `analyze` makes, with the text of its trace: under a tracer that prints if a
trace is asked for, and silently if none is. -/
def watched (verbosity : Option Verbosity) (config : Config) (program : Json) :
    Except Failure (List Site) × String :=
  match verbosity with
  | none => (((Tracer.silent.analyze config program).runFrom ()).1, "")
  | some v =>
    let ended := ((Tracer.printing v).analyze config program).runFrom []
    (ended.1, linesText ended.2)

/-- The report of `analyze`, by what its analysis comes to. -/
def AnalyzeRequest.report (request : AnalyzeRequest) :
    Except Failure (List Site) × String → Report
  | (.ok sites, shown) => ⟨0, sitesText request.compact sites, shown⟩
  | (.error failure, shown) => .failed shown failure.message

section Run

variable {request : AnalyzeRequest} {contents : Contents} {config : Config} {program : Json}

end Run

/-- The reports on `db.todos.map()` at `0..14`, a map without a callback. -/
example :
    let config : Config := { roots := ["db"], recursionLimit := 3 }
    let todos := Tree.member (Tree.identifier "db") "todos"
    let program := Tree.node Kind.call [("callee", Tree.member todos "map"),
      ("arguments", .array []), ("start", .ofNat 0), ("end", .ofNat 14)]
    let message := "invalid `map` operation: expected a one-parameter function returning an " ++
      "object literal (in `arguments`: expected 1 more element(s))"
    analyze ⟨"-", {}, true, true, 0⟩ config program =
        .failed "built CollectionRef db.todos\n" message ∧
      check config program = .failed "" (message ++ " (at 0..14)") := by
  decide +kernel

end CommandLine

end FluentQuery
