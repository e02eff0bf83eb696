import SesEmailAdapter.Database.ThreadRows
import SesEmailAdapter.Processor.RuleTrace

/-! # The fallback for unknown senders

A mail that no rule gave a status is quarantined when the labels of its thread say that the sender
is not trusted. The labels are those of the matched thread and those of the mail, so a mail of a
trusted sender is quarantined on a thread that an untrusted one wrote to before. -/

namespace SesEmailAdapter.Processor.UnknownSenders
open Lib
open SesEmailAdapter.Types Database.ThreadRows
open Processor.IngestService Processor.InboundMessage
open Processor.IncomingEmail Processor.RuleOutcome
open Processor.IngestRedelivery Processor.IngestThreads
open Processor.RuleTrace

variable {env : Env} {msg : InboundSignalMessage} {opts : ProcessInboundOptions}
  {resolved : Resolved} {received : Received} {classified : ClassificationOutput}
  {thread : Thread} {matchedRules : List MatchedRuleResult}

/-- `effectiveFilterMode` -/
def filterMode (resolved : Resolved) (received : Received) : UnknownSenderPolicy :=
  resolveUnknownSenderPolicy resolved.aliasConfig received.account

/-- The labels that the fallback looks at; `thread` is the matched thread, or a new one. -/
def labelsSeen (env : Env) (resolved : Resolved) (received : Received)
    (classified : ClassificationOutput) (thread : Thread) : List String :=
  threadLabels env received (filterMode resolved received)
    (withSystemWorkflow resolved.accountId classified) thread

def decision (env : Env) (msg : InboundSignalMessage) (opts : ProcessInboundOptions)
    (resolved : Resolved) (received : Received) (classified : ClassificationOutput)
    (thread : Thread) (matchedRules : List MatchedRuleResult) : Decision :=
  decideOutcome opts resolved msg.primaryRecipient received.senderETLD1
    (filterMode resolved received) (labelsSeen env resolved received classified thread) matchedRules

end SesEmailAdapter.Processor.UnknownSenders
