import SesEmailAdapter.Api.ExternalExchangesApi
import SesEmailAdapter.Lib.Pool

/-! # One exchange per mailbox

Requests that connect mailboxes and change their connections, interleaved call by call. Messages of
IMAP and JMAP mailboxes are told apart by the id of their exchange, so a mailbox with two active
exchanges gets every message twice. No write looks for another exchange. -/

namespace SesEmailAdapter.Exchanges.MailboxOnce
open Lib
open SesEmailAdapter.Types Database
open Database.ExchangesDatabase hiding Cmd settle
open Exchanges.ExchangeService
open Api.ExternalExchangesApi
open Api.ThreadsApi (ApiError)

/-! ## Mailboxes -/

structure Mailbox where
  accountId : String
  platform : EmxPlatform
  emailAddress : String
deriving DecidableEq, Repr

def NewExchange.mailbox (accountId : String) (data : NewExchange) : Mailbox :=
  ⟨accountId, data.record.platform, data.record.emailAddress⟩

/-- The row is an exchange of the mailbox. -/
def Mailbox.Owns (mailbox : Mailbox) (row : ExchangeRow) : Prop :=
  row.accountId = mailbox.accountId ∧
    isOf mailbox.platform mailbox.emailAddress row = true

/-- The exchange of an id is active and of the mailbox. -/
def Connected (w : World) (mailbox : Mailbox) (id : String) : Prop :=
  ∃ row, w.exchanges.exchanges.get (mailbox.accountId, id) = some row ∧ row.status = .active ∧
    mailbox.Owns row

def ConnectedOnce (w : World) : Prop :=
  ∀ mailbox id id', Connected w mailbox id → Connected w mailbox id' → id = id'

/-! ## Runs -/

/-- An exchange is created under a new id, and a write makes one active only while no other
exchange of its mailbox is; no request writes back that an exchange has failed, when it works. -/
def LooksFirst (c : Cmd) (fate : Fate) (w : World) : Prop :=
  match c with
  | .exchanges (.createExternalExchange accountId id data) =>
    w.exchanges.exchanges.get (accountId, id) = none ∧
      (fate ≠ .refused → data.status = .active →
        ∀ other, ¬ Connected w (NewExchange.mailbox accountId data) other)
  | .exchanges (.updateExternalExchange accountId emxId update) =>
    fate ≠ .refused → ∀ row, w.exchanges.exchanges.get (accountId, emxId) = some row →
      (update.status = .active → ∀ mailbox : Mailbox, mailbox.Owns row →
        ∀ other, Connected w mailbox other → other = emxId) ∧
      (update.status = .activationFailed → row.status = .activationFailed)
  | _ => True

/-- Exchanges are not deleted. -/
def Lasting (c : Cmd) : Prop :=
  ∀ accountId emxId, c ≠ .exchanges (.deleteExternalExchange accountId emxId)

def watch : Monitor Cmd Cmd.Answer Fate Unit where
  allow _ c := Lasting c
  next _ _ _ _ := ()

/-- A request that connects a mailbox, or changes a connection. -/
def IsRequest (env : Env) (prog : ExchangeProg (Except ApiError ExchangeRow)) : Prop :=
  (∃ accountId auth body, prog = createExchange env accountId auth body) ∨
    ∃ accountId emxId body, prog = patchExchange accountId emxId body

def looking (env : Env) : Rules Cmd Cmd.Answer
    (Except ApiError ExchangeRow) World Fate Unit where
  spawn prog _ _ _ := IsRequest env prog
  step _ _ c fate w _ := LooksFirst c fate w
  crash _ _ _ _ := True

variable {env : Env} {w : World} {fate : Fate}

theorem permits_lasting : Permits Lasting where
  ask _ _ _ h := nomatch h
  accounts _ _ _ h := nomatch h
  sendDispatch _ _ _ h := nomatch h
  sendInbound _ _ _ h := nomatch h
  logRenewal _ _ _ _ _ h := nomatch h
  getExternalExchange _ _ _ _ h := nomatch h
  listExternalExchanges _ _ _ h := nomatch h
  listExchangesDue _ _ _ h := nomatch h
  findBySubscription _ _ _ h := nomatch h

theorem IsRequest.obeys {prog : ExchangeProg (Except ApiError ExchangeRow)} (h : IsRequest env prog)
    (q : Unit) : prog.Obeys watch (fun _ _ => True) q := by
  have honly : prog.Only Lasting := by
    obtain ⟨accountId, auth, body, rfl⟩ | ⟨accountId, emxId, body, rfl⟩ := h
    · exact only_createExchange permits_lasting (fun _ _ _ _ h => nomatch h)
        (fun _ _ _ _ _ _ _ h => nomatch h) auth body
    · exact only_patchExchange permits_lasting (fun _ _ _ h => nomatch h) body
  have hobeys := Prog.Only.obeys (M := watch) (q := q)
    (honly.mono fun c hc => ⟨hc, fun _ _ => rfl⟩)
  exact hobeys.mono fun _ _ _ => trivial

/-- What a run keeps from `w` on: one exchange per mailbox, and those that are active. -/
structure Kept (w w' : World) : Prop where
  once : ConnectedOnce w'
  lasts : ∀ mailbox id, Connected w mailbox id → Connected w' mailbox id

theorem Kept.of_eq {w' : World} (h : ConnectedOnce w)
    (heq : w'.exchanges.exchanges = w.exchanges.exchanges) : Kept w w' := by
  have hiff (mailbox : Mailbox) (id : String) :
      Connected w' mailbox id ↔ Connected w mailbox id := by
    rw [Connected, Connected, heq]
  exact ⟨fun mailbox id id' hid hid' =>
    h mailbox id id' ((hiff _ _).mp hid) ((hiff _ _).mp hid'), fun _ _ => (hiff _ _).mpr⟩

/-- Every mailbox lets the service in, and every second has its own exchange id. -/
def openEnv : Env where
  answer tick e := match e with
    | .now _ => "2025-01-01T00:00:00.000Z"
    | .newId => if tick < 10 then "emx-1" else "emx-2"
    | .encrypt text => .ok text
    | .decrypt text => .ok text
    | .hash text => .ok text
    | .activate _ emx _ => .ok ⟨some "7:3", some ⟨7, 3⟩, "2025-01-01T01:00:00.000Z", "poll",
        emx.emailAddress.getD "", none⟩
    | .deactivate _ => .ok ()
    | .getLinkedIdentity .. => .ok none
    | .getToken .. => .error "unavailable"
    | .gmailWatch _ => .thrown
    | .gmailHistory .. => .thrown
    | .outlookSubscription .. => .thrown
    | .imapConnect .. => .ok ()
    | .imapInboxState _ => .ok 7
    | .imapSearch .. => .ok []
    | .imapIdle _ => .ok .timeout
    | .jmapSession .. => .error "unavailable"
    | .jmapQueryChanges .. => .error "unavailable"
    | .jmapQuery .. => .error "unavailable"
    | .jmapPushRegister .. => .error "unavailable"
    | .jmapPushGet .. => .error "unavailable"
    | .jmapPushVerify .. => .error "unavailable"
    | .verifyToken .. => true
  page _ := 100
  accepts _ _ := true
  mailDomain := "mail.test"
  parseSyncCursor _ := .error "Invalid legacy sync cursor"
  formatSyncCursor uidvalidity lastUid := toString uidvalidity ++ ":" ++ toString lastUid
  entryBytes _ := 300
  uidText := toString

def emptyWorld : World where
  tick := 0
  exchanges := ⟨.empty⟩
  accounts := ⟨.empty, .empty, .empty⟩
  inbound := []
  dispatches := []
  renewals := []

def homeMailbox : Mailbox := ⟨"acc", .imap, "me@home.test"⟩

def homeRow : ExchangeRow :=
  newRow "acc" "emx-1" ⟨⟨.imap, "me@home.test", "2025-01-01T00:00:00.000Z"⟩, .active,
    "2025-01-01T01:00:00.000Z", noFields⟩

def homeWorld : World := { emptyWorld with exchanges := ⟨KeyedTable.empty.put homeRow⟩ }

end SesEmailAdapter.Exchanges.MailboxOnce
