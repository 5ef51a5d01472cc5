import Rota.Cron.Search
import Rota.Election.Campaign
import Rota.Election.KeepAlive
import Rota.Election.Vigil
import Rota.Main
import Rota.Replica
import Rota.Resource.Lifecycle
import Rota.Schedule.Migration
import Rota.Schedule.Table
import Rota.Startup
import Rota.Task.Builtin
import Rota.Task.Probe
import Rota.Proofs.Election.Exclusion
import Rota.Proofs.Election.Deadline
import Rota.Proofs.Rows
import Rota.Proofs.Resource.Conformance
import Rota.Proofs.Schedule.Reconcile
import Rota.Proofs.Schedule.Reloading
import Rota.Proofs.Schedule.Freshness
import Rota.Proofs.Schedule.Episodes
import Rota.Proofs.Election.Candidacy
import Rota.Proofs.Election.Orderly
import Rota.Proofs.Election.Agreement
import Rota.Proofs.Schedule.Vigilance
import Rota.Proofs.Schedule.Punctual
import Rota.Proofs.Schedule.Aftermath
import Rota.Proofs.Election.Precedence
import Rota.Proofs.Election.Career
import Rota.Proofs.Election.Terms
import Rota.Proofs.Election.Sessions
import Rota.Proofs.Schedule.Pairing
import Rota.Proofs.Election.Biography
import Rota.Proofs.Election.Stillness
import Rota.Proofs.Replica.Gate
import Rota.Proofs.Replica.Shutdown
import Rota.Proofs.Schedule.Table
import Rota.Proofs.Schedule.Idempotence
import Rota.Proofs.Schedule.Abandonment
import Rota.Proofs.Schedule.Passes
import Rota.Proofs.Schedule.Alertness
import Rota.Proofs.Election.Wakeups
import Rota.Proofs.Election.Renewals
import Rota.Proofs.Election.Recovery
import Rota.Proofs.Replica.Recovery
import Rota.Proofs.Json.Leaves
import Rota.Proofs.Json.RoundTrip
import Rota.Proofs.Task.Fibonacci
import Rota.Proofs.Schedule.Arguments
import Rota.Proofs.Task.Registration
import Rota.Proofs.Replica.Supervision
import Rota.Proofs.Replica.Dispatch
import Rota.Proofs.Schedule.Promptness
import Rota.Proofs.Replica.Containment
import Rota.Proofs.Settings.Lists
import Rota.Proofs.Text.Numeral
import Rota.Proofs.Resource.Construction
import Rota.Proofs.Settings.Loading
