import SesEmailAdapter.Database.SignalsTable
import SesEmailAdapter.Email.Address

/-! # The accounts table

The DynamoDB requests on the aliases, senders and domains of all accounts, each one atomic, and
their meaning. Every request can fail, with or without its effect. -/

namespace SesEmailAdapter.Database.AccountsTable
open Lib
open SesEmailAdapter.Types Database.Shared
open Database.SignalsTable (WriteError requestFailed)

/-! ## Items -/

def aliasKey (item : Alias) : String × String := (item.accountId, item.aliasAddress)

def senderKey (item : AliasSender) : String × String × String :=
  (item.accountId, item.aliasAddress, item.senderDomain)

def domainKey (item : Domain) : String × String := (item.accountId, item.domain)

structure Store where
  aliases : KeyedTable aliasKey
  senders : KeyedTable senderKey
  domains : KeyedTable domainKey

/-! ## Requests -/

/-- `none` leaves the attribute. -/
structure DomainSetup where
  receivingSetupComplete : Option Bool
  senderSetupComplete : Option Bool
deriving DecidableEq, Repr

inductive Cmd
  | getAlias (accountId aliasAddress : String)
  /-- The aliases of all accounts under an address, by account. -/
  | queryAliases (aliasAddress : String)
  | queryAliasesOfDomain (accountId domain : String)
  | putAlias (item : Alias)
  /-- Conditional on the alias: it exists. -/
  | setAliasExchange (accountId aliasAddress : String) (emxId : Option String) (now : String)
  | deleteAliasItem (accountId aliasAddress : String)
  | getSender (accountId aliasAddress senderDomain : String)
  | querySenders (accountId aliasAddress : String)
  | putSender (item : AliasSender)
  | deleteSenders (accountId : String) (senders : List AliasSender)
  | getDomain (accountId domain : String)
  /-- The registrations of all accounts for a domain, by account, deleted ones included. -/
  | queryDomains (domain : String)
  /-- Conditional on the domain: the account has no row for it, or a deleted one. -/
  | putNewDomain (item : Domain)
  | setDomainDeleted (accountId domain now : String)
  | setDomainSetup (accountId domain now : String) (setup : DomainSetup)
deriving DecidableEq, Repr

@[reducible] def Cmd.Answer : Cmd → Type
  | .getAlias .. => Except DbError (Option Alias)
  | .queryAliases _ => Except DbError (List Alias)
  | .queryAliasesOfDomain .. => Except DbError (List Alias)
  | .putAlias _ => Except DbError Unit
  | .setAliasExchange .. => Except WriteError (Option Alias)
  | .deleteAliasItem .. => Except DbError Unit
  | .getSender .. => Except DbError (Option AliasSender)
  | .querySenders .. => Except DbError (List AliasSender)
  | .putSender _ => Except DbError Unit
  | .deleteSenders .. => Except DbError Unit
  | .getDomain .. => Except DbError (Option Domain)
  | .queryDomains _ => Except DbError (List Domain)
  | .putNewDomain _ => Except WriteError Unit
  | .setDomainDeleted .. => Except DbError Unit
  | .setDomainSetup .. => Except DbError Unit

/-! ## Their meaning -/

def Store.aliasesAt (s : Store) (aliasAddress : String) : List Alias :=
  (s.aliases.rows.filter fun item => item.aliasAddress = aliasAddress).mergeSort
    fun a b => decide (a.accountId ≤ b.accountId)

def Store.registrations (s : Store) (domain : String) : List Domain :=
  (s.domains.rows.filter fun item => item.domain = domain).mergeSort
    fun a b => decide (a.accountId ≤ b.accountId)

def Store.saveAliasItem (s : Store) (item : Alias) : Store :=
  { s with aliases := s.aliases.put item }

def Store.saveSenderItem (s : Store) (item : AliasSender) : Store :=
  { s with senders := s.senders.put item }

def Store.removeSenders (s : Store) (accountId : String) (senders : List AliasSender) : Store :=
  let remove (table : KeyedTable senderKey) (item : AliasSender) :=
    table.erase (accountId, item.aliasAddress, item.senderDomain)
  { s with senders := senders.foldl remove s.senders }

/-- An update of a domain row; there is always one, since a domain is never removed. -/
def Store.updateDomainItem (s : Store) (key : String × String) (update : Domain → Domain) : Store :=
  match s.domains.get key with
  | some item => { s with domains := s.domains.put (update item) }
  | none => s

def exec : (c : Cmd) → Store → c.Answer × Store
  | .getAlias accountId aliasAddress, s => (.ok (s.aliases.get (accountId, aliasAddress)), s)
  | .queryAliases aliasAddress, s => (.ok (s.aliasesAt aliasAddress), s)
  | .queryAliasesOfDomain accountId domain, s =>
    (.ok (s.aliases.rows.filter fun item => item.accountId = accountId ∧ item.domain = domain), s)
  | .putAlias item, s => (.ok (), s.saveAliasItem item)
  | .setAliasExchange accountId aliasAddress emxId now, s =>
    match s.aliases.get (accountId, aliasAddress) with
    | none => (.error .conditionFailed, s)
    | some item =>
      let updated := { item with emxId := emxId, updatedAt := now }
      (.ok (some updated), s.saveAliasItem updated)
  | .deleteAliasItem accountId aliasAddress, s =>
    (.ok (), { s with aliases := s.aliases.erase (accountId, aliasAddress) })
  | .getSender accountId aliasAddress senderDomain, s =>
    (.ok (s.senders.get (accountId, aliasAddress, senderDomain)), s)
  | .querySenders accountId aliasAddress, s =>
    (.ok (s.senders.rows.filter fun item =>
      item.accountId = accountId ∧ item.aliasAddress = aliasAddress), s)
  | .putSender item, s => (.ok (), s.saveSenderItem item)
  | .deleteSenders accountId senders, s => (.ok (), s.removeSenders accountId senders)
  | .getDomain accountId domain, s => (.ok (s.domains.get (accountId, domain)), s)
  | .queryDomains domain, s => (.ok (s.registrations domain), s)
  | .putNewDomain item, s =>
    match s.domains.get (domainKey item) with
    | none => (.ok (), { s with domains := s.domains.put item })
    | some existing =>
      if existing.status = .deleted then (.ok (), { s with domains := s.domains.put item })
      else (.error .conditionFailed, s)
  | .setDomainDeleted accountId domain now, s =>
    (.ok (), s.updateDomainItem (accountId, domain) fun item =>
      { item with status := .deleted, updatedAt := now })
  | .setDomainSetup accountId domain now setup, s =>
    (.ok (), s.updateDomainItem (accountId, domain) fun item =>
      { item with
        receivingSetupComplete := setup.receivingSetupComplete.getD item.receivingSetupComplete
        senderSetupComplete := setup.senderSetupComplete.getD item.senderSetupComplete
        updatedAt := now })

def failure : (c : Cmd) → c.Answer
  | .getAlias .. => .error requestFailed
  | .queryAliases _ => .error requestFailed
  | .queryAliasesOfDomain .. => .error requestFailed
  | .putAlias _ => .error requestFailed
  | .setAliasExchange .. => .error (.db requestFailed)
  | .deleteAliasItem .. => .error requestFailed
  | .getSender .. => .error requestFailed
  | .querySenders .. => .error requestFailed
  | .putSender _ => .error requestFailed
  | .deleteSenders .. => .error requestFailed
  | .getDomain .. => .error requestFailed
  | .queryDomains _ => .error requestFailed
  | .putNewDomain _ => .error (.db requestFailed)
  | .setDomainDeleted .. => .error requestFailed
  | .setDomainSetup .. => .error requestFailed

def settle : (c : Cmd) → Store → Fate → c.Answer × Store := settleRequest exec failure

abbrev DbProg (α : Type) := Prog Cmd Cmd.Answer α

@[simp] def request (c : Cmd) : DbProg c.Answer := Prog.perform c

end SesEmailAdapter.Database.AccountsTable
