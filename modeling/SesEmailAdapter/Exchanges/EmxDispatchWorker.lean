import SesEmailAdapter.Exchanges.ImapAdapter
import SesEmailAdapter.Exchanges.JmapAdapter
import SesEmailAdapter.Exchanges.OutlookProvider

/-! # EmxDispatchWorker

Renews one exchange that a message names, or all that are due. -/

namespace SesEmailAdapter.Exchanges.EmxDispatchWorker
open Lib
open Database.Shared
open Database.ExchangesDatabase hiding Cmd settle
open Exchanges.ExchangeService

/-- There is no adapter for a row without a platform. -/
def renewWith (env : Env) (emx : ExchangeRow) (includeOverlap : Bool) :
    Option (ExchangeProg (Except ProviderRenewalError Unit)) :=
  emx.platform.map fun platform => match platform with
    | .gmail => GmailProvider.renew emx
    | .outlook => OutlookProvider.renew emx
    | .imap => ImapAdapter.renew env emx includeOverlap
    | .jmap => JmapAdapter.renew env emx

def processExchange (env : Env) (emx : ExchangeRow) (includeOverlap : Bool) : ExchangeProg Unit :=
  match renewWith env emx includeOverlap with
  | none => return ()
  | some renewal => do
    let renewResult ← renewal
    Prog.perform (Cmd.logRenewal emx.accountId emx.id renewResult.isOk)

def processExchanges (env : Env) : List ExchangeRow → ExchangeProg Unit
  | [] => return ()
  | emx :: expiring => do
    processExchange env emx false
    processExchanges env expiring

def twelveHours : Nat := 12 * 60

def dispatch (env : Env) (payload : Option DispatchPayload) : ExchangeProg Unit :=
  match payload with
  | some payload => do
    let getResult : Except DbError (Option ExchangeRow) ←
      getExternalExchange payload.accountId payload.emxId
    match getResult with
    | .ok (some emx) =>
      if emx.status = .active then processExchange env emx (payload.includeOverlap.getD false)
      else return ()
    | _ => return ()
  | none => do
    let horizon : String ← ask (.now twelveHours)
    let expiringResult ← listExchangesDue horizon
    match expiringResult with
    | .error _ => return ()
    | .ok expiring => processExchanges env expiring

/-- The renewal of an exchange updates it, on any platform. -/
theorem only_processExchange {P : Cmd → Prop} {env : Env} {emx : ExchangeRow} (h : Permits P)
    (hupdate : ∀ update, P (.exchanges (.updateExternalExchange emx.accountId emx.id update)))
    (includeOverlap : Bool) : (processExchange env emx includeOverlap).Only P := by
  have hlog (renewResult : Except ProviderRenewalError Unit) :
      (Prog.perform (Cmd.logRenewal emx.accountId emx.id renewResult.isOk) :
        ExchangeProg Unit).Only P := ⟨h.logRenewal _ _ _, fun _ => trivial⟩
  unfold processExchange renewWith
  cases emx.platform with
  | none => trivial
  | some platform =>
    cases platform with
    | gmail => exact (GmailProvider.only_renew h hupdate).bind hlog
    | outlook => exact (OutlookProvider.only_renew h hupdate).bind hlog
    | imap => exact (ImapAdapter.only_renew h hupdate _).bind hlog
    | jmap => exact (JmapAdapter.only_renew h hupdate).bind hlog

end SesEmailAdapter.Exchanges.EmxDispatchWorker
