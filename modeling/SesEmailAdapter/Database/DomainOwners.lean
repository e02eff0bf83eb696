import SesEmailAdapter.Database.AccountDatabase
import SesEmailAdapter.Lib.FirstClaim
import SesEmailAdapter.Lib.OrderedMap

/-! # Domain owners

The owner of a domain is not stored: it is the account of the oldest registration, deleted ones
included. A registration that is written can so change the owner, and no other write can. -/

namespace SesEmailAdapter.Database.DomainOwners
open Lib
open SesEmailAdapter.Types Database.AccountsTable
open Database.AccountDatabase

/-! ## Registrations -/

/-- When the accounts have registered a domain. -/
def claims (s : Store) (domain accountId : String) : Option String :=
  (s.domains.get (accountId, domain)).map Domain.createdAt

variable {s : Store}

end SesEmailAdapter.Database.DomainOwners
