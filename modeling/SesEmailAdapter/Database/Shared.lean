import Mathlib.Data.Prod.Lex
import SesEmailAdapter.Lib.QueryPaging
import SesEmailAdapter.Lib.TextCodec
import SesEmailAdapter.Types

/-! # The table layer

Items of a table with their index key, the `gsi1` queries the listings make, and the cursors a
listing hands to its client. -/

namespace SesEmailAdapter.Database.Shared
open Lib

/-- The one error kind of the database classes. -/
structure DbError where
  message : String
deriving DecidableEq, Repr

/-- The key a `gsi1` query reports for an item: its index key and its table key. -/
structure IndexKey where
  gsi1pk : String
  gsi1sk : String
  pk : String
  sk : String
deriving DecidableEq, Repr

/-- The order of a `gsi1` index: by partition, then sort key, then the table key. -/
def IndexKey.position (key : IndexKey) : String ×ₗ String ×ₗ String ×ₗ String :=
  toLex (key.gsi1pk, toLex (key.gsi1sk, toLex (key.pk, key.sk)))

theorem IndexKey.position_injective : Function.Injective IndexKey.position := by
  rintro ⟨a, b, c, d⟩ ⟨a', b', c', d'⟩ h
  have h1 := Prod.mk.inj (toLex.injective h)
  have h2 := Prod.mk.inj (toLex.injective h1.2)
  have h3 := Prod.mk.inj (toLex.injective h2.2)
  obtain ⟨rfl, -⟩ := h1
  obtain ⟨rfl, -⟩ := h2
  obtain ⟨rfl, rfl⟩ := h3
  rfl

instance : LinearOrder IndexKey := LinearOrder.lift' IndexKey.position IndexKey.position_injective

/-! ## Cursors -/

def IndexKey.record (key : IndexKey) : List (List Char × List Char) :=
  [("pk".toList, key.pk.toList), ("sk".toList, key.sk.toList),
    ("gsi1pk".toList, key.gsi1pk.toList), ("gsi1sk".toList, key.gsi1sk.toList)]

/-- `JSON.stringify`, then base64url. -/
def encodeCursor (key : IndexKey) : String :=
  String.ofList (TextCodec.encodeBase64url (TextCodec.utf8Bytes
    (String.ofList (TextCodec.writeRecord key.record))))

/-- A text that is no JSON record of strings, or lacks a key attribute, is refused by
`JSON.parse` or by the query it is passed to. -/
def decodeCursor (cursor : String) : Option IndexKey := do
  let text ← TextCodec.ofUtf8Bytes (TextCodec.decodeBase64url cursor.toList)
  let record ← TextCodec.readRecord text.toList
  let field (name : String) := (record.reverse.find? fun m => m.1 = name.toList).map
    fun m => String.ofList m.2
  some {
    gsi1pk := ← field "gsi1pk"
    gsi1sk := ← field "gsi1sk"
    pk := ← field "pk"
    sk := ← field "sk" }

end SesEmailAdapter.Database.Shared
