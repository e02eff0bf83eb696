import SesEmailAdapter.Exchanges.GmailProvider

/-! # OutlookProvider

An Outlook exchange is synced by the notifications of its subscription alone. One request may carry
notifications of several subscriptions. -/

namespace SesEmailAdapter.Exchanges.OutlookProvider
open Database.Shared
open Database.ExchangesDatabase hiding Cmd settle
open Exchanges.ExchangeService
open Exchanges.GmailProvider (getToken causeOf storeExpiry)
open Resource.ResourceDatabase (truthy)

def renew (emx : ExchangeRow) : ExchangeProg (Except ProviderRenewalError Unit) := do
  let tokenResult ← getToken emx
  match tokenResult with
  | .error cause => return .error (renewalFailed cause)
  | .ok token => do
    let response : HttpAnswer String ←
      ask (.outlookSubscription token emx.fields.providerSubscriptionId)
    match response with
    | .thrown => return .error (renewalFailed (causeOf none))
    | .refused status => return .error (renewalFailed (causeOf (some status)))
    | .body expiresAt => storeExpiry emx expiresAt

/-! ## The webhook -/

structure Notification where
  changeType : String
  subscriptionId : String
  resource : String
  /-- `resourceData?.id`. -/
  resourceDataId : Option String
deriving DecidableEq, Repr

structure NotificationBody where
  validationTokens : List String
  value : List Notification
deriving DecidableEq, Repr

def lastSegment (resource : String) : String :=
  String.ofList (resource.toList.reverse.takeWhile (· ≠ '/')).reverse

def messageIdOf (notification : Notification) : Option String :=
  truthy (some (notification.resourceDataId.getD (lastSegment notification.resource)))

def inboundOf (emx : ExchangeRow) (messageId : String) : InboundPayload :=
  ⟨.outlook, messageId, emx.id, emx.accountId⟩

/-- Whether every token is valid; an empty list is. -/
def verifyTokens : List String → ExchangeProg Bool
  | [] => return true
  | token :: tokens => do
    let verified : Bool ← ask (.verifyToken .outlook token)
    if verified then verifyTokens tokens else return false

/-- The exchanges and messages of the notifications; one that fails to be looked up is dropped. -/
def collect : List Notification → ExchangeProg (List (ExchangeRow × String))
  | [] => return []
  | notification :: notifications =>
    if notification.changeType ≠ "created" then collect notifications
    else match messageIdOf notification with
      | none => collect notifications
      | some providerMessageId => do
        let emxResult : Except DbError (Option ExchangeRow) ←
          findExternalExchangeBySubscriptionId notification.subscriptionId
        let rest ← collect notifications
        match emxResult with
        | .ok (some emx) => return (emx, providerMessageId) :: rest
        | _ => return rest

/-- One per id, the last one read. -/
def touchedExchanges (found : List (ExchangeRow × String)) : List ExchangeRow :=
  found.foldl (fun touched p => touched.filter (fun emx => emx.id ≠ p.1.id) ++ [p.1]) []

theorem mem_touchedExchanges {found : List (ExchangeRow × String)} {emx : ExchangeRow}
    (h : emx ∈ touchedExchanges found) : emx ∈ found.map Prod.fst := by
  have hfold (found : List (ExchangeRow × String)) (touched : List ExchangeRow)
      (h : emx ∈ found.foldl
        (fun touched p => touched.filter (fun emx => emx.id ≠ p.1.id) ++ [p.1]) touched) :
      emx ∈ touched ∨ emx ∈ found.map Prod.fst := by
    induction found generalizing touched with
    | nil => exact .inl h
    | cons p found ih =>
      obtain h | h := ih _ h
      · rcases List.mem_append.mp h with h | h
        · exact .inl (List.mem_of_mem_filter h)
        · exact .inr (List.mem_singleton.mp h ▸ List.mem_cons_self)
      · exact .inr (List.mem_cons_of_mem _ h)
  exact (hfold found [] h).resolve_left List.not_mem_nil

theorem touchedExchanges_distinct (found : List (ExchangeRow × String)) :
    (touchedExchanges found).Pairwise fun emx emx' => emx.id ≠ emx'.id := by
  have hfold (found : List (ExchangeRow × String)) (touched : List ExchangeRow)
      (h : touched.Pairwise fun emx emx' => emx.id ≠ emx'.id) :
      (found.foldl (fun touched p => touched.filter (fun emx => emx.id ≠ p.1.id) ++ [p.1])
        touched).Pairwise fun emx emx' => emx.id ≠ emx'.id := by
    induction found generalizing touched with
    | nil => exact h
    | cons p found ih =>
      refine ih _ (List.pairwise_append.mpr ⟨h.filter _, List.pairwise_singleton _ _, ?_⟩)
      intro emx hemx emx' hemx'
      rw [List.mem_singleton.mp hemx']
      exact of_decide_eq_true (List.mem_filter.mp hemx).2
  exact hfold found [] .nil

def storeSyncTimes (now : String) : List ExchangeRow → ExchangeProg Unit
  | [] => return ()
  | emx :: touched => do
    let _ ← updateExternalExchange emx.accountId emx.id emx.status emx.nextSyncTime
      { noFields with lastSyncAt := some now } []
    storeSyncTimes now touched

/-- The status of the response. -/
def handle (env : Env) (validationToken : Option String) (body : NotificationBody) :
    ExchangeProg Nat :=
  match truthy validationToken with
  | some _ => return 200
  | none => do
    let verified ← verifyTokens body.validationTokens
    if verified then do
      let found ← collect body.value
      let batchResult ← sendBatch env (found.map fun p => inboundOf p.1 p.2)
      match batchResult with
      | .error _ => return 500
      | .ok () => do
        let now : String ← ask (.now 0)
        storeSyncTimes now (touchedExchanges found)
        return 202
    else return 401

/-! ## Which calls it makes -/

theorem only_verifyTokens {P : Cmd → Prop} (h : Permits P) (tokens : List String) :
    (verifyTokens tokens).Only P := by
  induction tokens with
  | nil => trivial
  | cons token tokens ih =>
    refine .perform (h.ask _) fun verified => ?_
    split
    · exact ih
    · trivial

theorem only_collect {P : Cmd → Prop} (h : Permits P) (notifications : List Notification) :
    (collect notifications).Only P := by
  induction notifications with
  | nil => trivial
  | cons notification notifications ih =>
    unfold collect
    split
    · exact ih
    split
    · exact ih
    refine .perform (h.findBySubscription _) fun emxResult => ih.bind fun rest => ?_
    split <;> trivial

/-- A renewal updates its own exchange. -/
theorem only_renew {P : Cmd → Prop} {emx : ExchangeRow} (h : Permits P)
    (hupdate : ∀ update, P (.exchanges (.updateExternalExchange emx.accountId emx.id update))) :
    (renew emx).Only P := by
  refine (GmailProvider.only_getToken h).bind fun tokenResult => ?_
  split
  · trivial
  refine .perform (h.ask _) fun response => ?_
  split
  · trivial
  · trivial
  · exact GmailProvider.only_storeExpiry h hupdate _

end SesEmailAdapter.Exchanges.OutlookProvider
