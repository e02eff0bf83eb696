import SesEmailAdapter.Email.SendPaths
import SesEmailAdapter.Notifier.SendRoutes
import SesEmailAdapter.Processor.DraftSendSafety

/-! # Outcomes of draft sends

A delivery of a queued draft, with the reply sender in it: the route of the draft, and what the mail
provider of the route answers. The stored status follows the answer unless SES refuses the draft
for good. -/

namespace SesEmailAdapter.Processor.DraftOutcomes
open Lib
open SesEmailAdapter.Types Database
open Database.ThreadDatabase
open Email.Service Email.SendPaths
open Notifier.ReplySender Notifier.SendRoutes
open Processor.DraftSendWorker Processor.DraftSendRuns

/-! ## Deliveries -/

/-- What the reply sender works with: the mail service, the rows of an account that routing reads,
and the mail providers. -/
structure Env where
  service : EmailService
  reads : String → RoutingReads
  providers : MailProviders
  sesRegion : String

def mailOptions (mail : DraftMail) : ReplyOptions := draftReply mail.data mail.hopCount mail.accountId

def Env.answer (env : Env) (mail : DraftMail) : Except ReplySendError SendReceipt :=
  sendReplyResult env.service (env.reads mail.accountId) env.providers env.sesRegion
    (mailOptions mail)

def Env.verdict (env : Env) (mail : DraftMail) : Option Verdict :=
  verdictOf env.service (env.reads mail.accountId) env.providers (mailOptions mail)

/-- The reply sender answers by the route; every other call takes the turn it is given. -/
def Env.turn (env : Env) : Cmd → Turn → Turn
  | .sendReply mail, _ => .mail (env.verdict mail).isSome (env.answer mail)
  | _, turn => turn

def deliveries (env : Env) : Service Cmd Cmd.Answer World Turn :=
  ⟨fun c w turn => settle c w (env.turn c turn), .request .done⟩

/-! ## What the stored status says -/

def SentAt (w : World) (key : DraftKey) : Prop :=
  ∃ item, w.table.signals.get key = some item ∧ item.signal.status = .sent

/-- The draft can be edited and sent again, and shows why it did not go out. -/
def ParkedAt (w : World) (key : DraftKey) : Prop :=
  ∃ item data reason, w.table.signals.get key = some item ∧ item.signal.status = .draft ∧
    item.signal.data = .outboundEmail data ∧ data.sendInitiatedAt = none ∧
    data.sendFailureReason = some reason ∧ reason ≠ ""

/-- The stored status follows what the mail provider made of the mail that was handed to it, where
there was one. A delivery that does not return `ok` is retried. -/
structure Follows (env : Env) (w : World) (result : Option (Except DeliveryError Unit))
    (w' : World) : Prop where
  sent : ∀ key, SentAt w' key → SentAt w key ∨ ∃ mail, w'.handed = mail :: w.handed ∧
    mailKey mail = key ∧ env.verdict mail = some .accepted
  parked : ∀ mail, w'.handed = mail :: w.handed → env.verdict mail = some .rejected →
    result = some (.ok ()) → ParkedAt w' (mailKey mail)
  pending : ∀ mail, w'.handed = mail :: w.handed → env.verdict mail = some .transient →
    w'.table = w.table ∧ result ≠ some (.ok ())

section Answers

variable {service : EmailService} {reads : RoutingReads} {providers : MailProviders}
  {sesRegion : String} {opts : ReplyOptions}

/-- What the worker makes of a verdict. -/
structure Reported (verdict : Option Verdict) (answer : Except ReplySendError SendReceipt) :
    Prop where
  accepted : ∀ receipt, answer = .ok receipt → verdict = some .accepted
  rejected : verdict = some .rejected → ∃ error, answer = .error error ∧ isPermanent error = true
  transient : verdict = some .transient → ∃ error, answer = .error error ∧ isPermanent error = false

theorem reported_provider (answer : Except ProviderSendError SendResult) :
    Reported (match answer with
      | .ok _ => some .accepted
      | .error error => some error.verdict) (sendViaProvider answer) := by
  cases answer with
  | ok value => exact ⟨fun _ _ => rfl, nofun, nofun⟩
  | error error =>
    cases error <;>
      exact ⟨nofun, fun h => ⟨_, rfl, by cases h <;> rfl⟩, fun h => ⟨_, rfl, by cases h <;> rfl⟩⟩

/-- Only the permanent refusal of SES is reported as something else. -/
theorem reported (h : refusedBySes service reads providers opts = false) :
    Reported (verdictOf service reads providers opts)
      (sendReplyResult service reads providers sesRegion opts) := by
  unfold refusedBySes at h
  unfold verdictOf sendReplyResult
  cases hroute : sendRoute service reads opts with
  | error error => exact ⟨nofun, nofun, nofun⟩
  | ok route =>
    cases route with
    | exchange emx sender => exact reported_provider _
    | ses sendOptions =>
      simp only [hroute] at h ⊢
      cases hraw : sendRaw service providers sendOptions with
      | ok messageId => exact ⟨fun _ _ => rfl, nofun, nofun⟩
      | error error =>
        cases error with
        | transientSes => exact ⟨nofun, nofun, fun _ => ⟨_, rfl, rfl⟩⟩
        | invalidArgument => exact ⟨nofun, nofun, nofun⟩
        | permanentSes => simp [hraw] at h

end Answers

/-! ## Deliveries that read -/

section Delivery

variable {env : Env} {stale : String → Bool} {payload : DraftSendPayload} {w : World}

variable {mail : DraftMail} {update : SignalsTable.SendStatusUpdate}

variable {result : Option (Except DeliveryError Unit)}

variable {signal : Signal} {data : OutboundEmailSignalData}

end Delivery

end SesEmailAdapter.Processor.DraftOutcomes
