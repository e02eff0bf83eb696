import SesEmailAdapter.Processor.DraftOutcomes

/-! # Domains of recipients

Before a draft goes out, the domain of every recipient is looked up. A lookup that fails or is not
answered in time counts as one without records. -/

namespace SesEmailAdapter.Processor.RecipientDomains
open Lib
open SesEmailAdapter.Types
open Database Database.Shared
open Database.ThreadDatabase
open Email.Address
open Processor.DraftSendWorker Processor.DraftOutcomes

/-! ## Lookups -/

/-- How a query raced against the timer ends. `notFound` is the answer that there is no such
domain or no such record. -/
inductive Lookup (Record : Type)
  | answered (records : List Record)
  | notFound
  | failed
  | timedOut

structure MxRecord where
  exchange : String
  priority : Nat

structure Dns where
  resolveMx : String → Lookup MxRecord
  resolve4 : String → Lookup String
  resolve6 : String → Lookup String

/-- `Array.isArray(result) && result.length > 0`; everything else throws or is empty. -/
def Lookup.hasRecords {Record : Type} : Lookup Record → Bool
  | .answered records => 0 < records.length
  | .notFound | .failed | .timedOut => false

def resolveWithTimeout (dns : Dns) (domain : String) : Bool :=
  (dns.resolveMx domain).hasRecords || (dns.resolve4 domain).hasRecords

def domainOf (recipient : EmailAddress) : String :=
  String.ofList (addressDomain recipient.address.toList)

/-- `completed` are the domains in the order in which their checks end. -/
def validateRecipientMx (dns : Dns) (completed : List String) : Except (List String) Unit :=
  let invalidDomains := completed.filter fun domain => !resolveWithTimeout dns domain
  if 0 < invalidDomains.length then .error invalidDomains else .ok ()

/-- A delivery from the reading of the signal on. -/
def afterRead (stale : String → Bool) (payload : DraftSendPayload)
    (signalResult : Except DbError (Option Signal)) : SendProg (Except DeliveryError Unit) :=
  match signalResult with
  | .error error => return .error (.db error)
  | .ok signal => match pendingDraft payload signal with
    | none => return .ok ()
    | some (signal, data) => sendDraft stale payload signal data

end SesEmailAdapter.Processor.RecipientDomains
