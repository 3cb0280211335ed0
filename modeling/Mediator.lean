import Mediator.Declaration.Notification
import Mediator.Declaration.Request
import Mediator.Proofs.Caching.Keys
import Mediator.Proofs.Caching.Ledger
import Mediator.Proofs.Caching.Overlong
import Mediator.Proofs.Caching.Soundness
import Mediator.Proofs.Caching.Visit
import Mediator.Proofs.Cancellation.Guarded
import Mediator.Proofs.Cancellation.Wakeups
import Mediator.Proofs.Chain.Planned
import Mediator.Proofs.Chain.Reentry
import Mediator.Proofs.Config.Durations
import Mediator.Proofs.Config.Partial
import Mediator.Proofs.Config.Written
import Mediator.Proofs.Declaration.Reading
import Mediator.Proofs.Declaration.RequestArguments
import Mediator.Proofs.Declaration.StrategyNames
import Mediator.Proofs.Dispatch.Endings
import Mediator.Proofs.Dispatch.Gated
import Mediator.Proofs.Dispatch.Nesting
import Mediator.Proofs.Dispatch.Observed
import Mediator.Proofs.Error.Wrapping
import Mediator.Proofs.Intercept.Observers
import Mediator.Proofs.Intercept.Recovery
import Mediator.Proofs.Intercept.Validating
import Mediator.Proofs.Json.Written
import Mediator.Proofs.Message.TypeNames
import Mediator.Proofs.Outcome.Equality
import Mediator.Proofs.Outcome.Laws
import Mediator.Proofs.Outcome.Stages
import Mediator.Proofs.Prog.Blind
import Mediator.Proofs.Prog.Crew
import Mediator.Proofs.Prog.Endings
import Mediator.Proofs.Prog.Join
import Mediator.Proofs.Prog.Reliance
import Mediator.Proofs.Prog.Run
import Mediator.Proofs.Prog.Tasks
import Mediator.Proofs.Prog.Together
import Mediator.Proofs.Publish.Agreement
import Mediator.Proofs.Publish.Detached
import Mediator.Proofs.Publish.Fates
import Mediator.Proofs.Publish.FirstFailure
import Mediator.Proofs.Publish.Panics
import Mediator.Proofs.Publish.Turns
import Mediator.Proofs.Registry.Contents
import Mediator.Proofs.Rehearsal.Onion
import Mediator.Proofs.Standard.Gates
import Mediator.Proofs.Store.TimedMap
import Mediator.Rehearsal.Scenario
import Mediator.Rehearsal.TokenDrill
