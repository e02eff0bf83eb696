import Mathlib.Data.List.Sort
import Mathlib.Order.Basic

/-! # Paged queries over a sorted index

A query visits the rows of a partition in key order, evaluates at most `limit` of them,
reports the key of the last row it evaluated, and resumes strictly after a given key. A
client follows the cursors it is handed until one page comes without. The section on
over-fetching pages is about a listing that evaluates one row more than it serves. -/

namespace SesEmailAdapter.Lib.QueryPaging

/-! ## The index -/

section Query

variable {K R : Type*} [LinearOrder K]

/-- The rows in the order a scan visits them. A descending scan uses a key in `Kᵒᵈ`. -/
def scan (key : R → K) (rows : List R) : List R :=
  rows.mergeSort fun a b => decide (key a ≤ key b)

/-- What one query call answers. The key is present when the evaluation stopped at the limit. -/
structure Answer (K R : Type*) where
  items : List R
  lastEvaluatedKey : Option K

/-- The rows left to a query that resumes strictly after `exclusiveStartKey`. -/
def remaining (key : R → K) (rows : List R) : Option K → List R
  | none => scan key rows
  | some k => (scan key rows).filter fun r => decide (k < key r)

def query (key : R → K) (rows : List R) (limit : Nat) (exclusiveStartKey : Option K) :
    Answer K R :=
  let evaluated := (remaining key rows exclusiveStartKey).take limit
  { items := evaluated
    lastEvaluatedKey := if evaluated.length < limit then none else evaluated.getLast?.map key }

theorem scan_perm (key : R → K) (rows : List R) : (scan key rows).Perm rows :=
  List.mergeSort_perm rows _

variable {le : α → α → Prop} {key : R → K} {rows : List R}

theorem mem_scan {r : R} : r ∈ scan key rows ↔ r ∈ rows :=
  (scan_perm key rows).mem_iff

theorem scan_pairwise_le (key : R → K) (rows : List R) :
    (scan key rows).Pairwise fun a b => key a ≤ key b := by
  have : Std.Total fun a b : R => key a ≤ key b := ⟨fun a b => le_total (key a) (key b)⟩
  have : IsTrans R fun a b => key a ≤ key b := ⟨fun _ _ _ hab hbc => hab.trans hbc⟩
  exact List.pairwise_mergeSort' (fun a b => key a ≤ key b) rows

/-- Distinct keys are visited in strictly increasing order. -/
theorem scan_pairwise_lt (hd : (rows.map key).Nodup) :
    (scan key rows).Pairwise fun a b => key a < key b := by
  have hnd : ((scan key rows).map key).Nodup := ((scan_perm key rows).map key).nodup_iff.mpr hd
  have hne : (scan key rows).Pairwise fun a b => key a ≠ key b := List.pairwise_map.mp hnd
  exact (scan_pairwise_le key rows).imp₂ (fun a b hle hn => lt_of_le_of_ne hle hn) hne

theorem remaining_sublist (key : R → K) (rows : List R) (start : Option K) :
    (remaining key rows start).Sublist (scan key rows) := by
  cases start with
  | none => exact List.Sublist.refl _
  | some k => exact List.filter_sublist

theorem remaining_pairwise (hd : (rows.map key).Nodup)
    (start : Option K) : (remaining key rows start).Pairwise fun a b => key a < key b :=
  (scan_pairwise_lt hd).sublist (remaining_sublist key rows start)

/-- On a strictly sorted list, the rows after its `n`-th key are its tail from `n` on. -/
theorem filter_lt_eq_drop {l : List R} {r : R} :
    ∀ {n : Nat}, l.Pairwise (fun a b => key a < key b) → (l.take n).getLast? = some r →
      (l.filter fun x => decide (key r < key x)) = l.drop n := by
  induction l with
  | nil => intro n _ hr; simp at hr
  | cons a l ih =>
    intro n hs hr
    obtain ⟨ha, hl⟩ := List.pairwise_cons.mp hs
    cases n with
    | zero => simp at hr
    | succ n =>
      cases ht : (l.take n).getLast? with
      | none =>
        -- the taken prefix is the head alone
        have hnil : l.take n = [] := List.getLast?_eq_none_iff.mp ht
        have hra : a = r := by simpa [List.take_succ_cons, hnil] using hr
        subst hra
        have hdrop : l.drop n = l := by
          have := List.take_append_drop n l
          simpa [hnil] using this
        rw [List.filter_cons_of_neg (by simp), List.drop_succ_cons, hdrop]
        exact List.filter_eq_self.mpr fun x hx => by simpa using ha x hx
      | some b =>
        have hrb : b = r := by
          rw [List.take_succ_cons, List.getLast?_cons, ht] at hr
          simpa using hr
        subst hrb
        have hb : b ∈ l := List.mem_of_mem_take (List.mem_of_getLast? ht)
        rw [List.filter_cons_of_neg (by simpa using le_of_lt (ha b hb)), List.drop_succ_cons]
        exact ih hl ht

variable {start : Option K} {encode : K → C} {view : R → α}

/-- Resuming after the last of `n` evaluated rows continues with the row behind it. -/
theorem remaining_after (hd : (rows.map key).Nodup)
    {n : Nat} {r : R} (hr : ((remaining key rows start).take n).getLast? = some r) :
    remaining key rows (some (key r)) = (remaining key rows start).drop n := by
  rw [← filter_lt_eq_drop (remaining_pairwise hd start) hr]
  cases start with
  | none => rfl
  | some k =>
    have hk : k < key r := by
      have := List.mem_of_mem_take (List.mem_of_getLast? hr)
      simpa using (List.mem_filter.mp this).2
    simp only [remaining, List.filter_filter]
    exact List.filter_congr fun x _ => by
      by_cases hx : key r < key x
      · simp [hx, hk.trans hx]
      · simp [hx]

/-- Every row begins some page. -/
theorem exists_page (hd : (rows.map key).Nodup) {r : R}
    (hr : r ∈ rows) (limit : Nat) :
    ∃ start, (query key rows (limit + 1) start).items.head? = some r := by
  obtain ⟨before, after, hscan⟩ := List.append_of_mem ((@mem_scan _ _ _ key rows r).mpr hr)
  cases hlast : before.getLast? with
  | none =>
    obtain rfl := List.getLast?_eq_none_iff.mp hlast
    refine ⟨none, ?_⟩
    simp [query, remaining, hscan]
  | some previous =>
    have htake : ((remaining key rows none).take before.length).getLast? = some previous := by
      simpa [remaining, hscan] using hlast
    refine ⟨some (key previous), ?_⟩
    rw [query, remaining_after hd htake]
    simp [remaining, hscan]

end Query

/-! ## Following cursors -/

section Walk

variable {C α ε : Type*}

/-- A page of a listing. -/
structure Page (C α : Type*) where
  items : List α
  nextCursor : Option C

/-- `Walk fetch c out`: fetching the page at `c` and then every page its cursors lead to ends
with a page that carries no cursor, and `out` is what the pages hold together. -/
inductive Walk (fetch : Option C → Except ε (Page C α)) : Option C → List α → Prop
  | last {c items} : fetch c = .ok ⟨items, none⟩ → Walk fetch c items
  | more {c items c' rest} : fetch c = .ok ⟨items, some c'⟩ → Walk fetch (some c') rest →
      Walk fetch c (items ++ rest)

/-- The walk from the first page yields each of `expected` exactly once, ordered by `le`. -/
def Complete (fetch : Option C → Except ε (Page C α)) (expected : List α) (le : α → α → Prop) :
    Prop :=
  ∃ out, Walk fetch none out ∧ out.Perm expected ∧ out.Pairwise le

variable {fetch : Option C → Except ε (Page C α)}

end Walk

/-! ## Over-fetching pages

A listing that evaluates `limit + 1` rows, drops those a filter rejects, serves the first
`limit` of the rest, and hands out the key of the last evaluated row as its cursor. -/

section OverFetch

variable {K R α C ε : Type*} [LinearOrder K] {key : R → K} {rows : List R}
  {keep : R → Bool} {limit : Nat}

def overFetch (key : R → K) (rows : List R) (keep : R → Bool) (limit : Nat) (start : Option K) :
    Page K R :=
  let answer := query key rows (limit + 1) start
  let items := answer.items.filter keep
  { items := items.take limit
    nextCursor := if limit < items.length then answer.lastEvaluatedKey else none }

/-- Every page of `fetch` is the over-fetched page at the position its cursor stands for, with
the served rows shown through `view` and the position written by `encode`. -/
structure Serves (key : R → K) (rows : List R) (keep : R → Bool) (limit : Nat)
    (encode : K → C) (view : R → α) (fetch : Option C → Except ε (Page C α)) : Prop where
  page : ∀ start : Option K, fetch (start.map encode) = .ok
    { items := (overFetch key rows keep limit start).items.map view
      nextCursor := (overFetch key rows keep limit start).nextCursor.map encode }

/-- The rows a listing is to yield from a position on. -/
def matching (key : R → K) (rows : List R) (keep : R → Bool) (start : Option K) : List R :=
  (remaining key rows start).filter keep

theorem matching_split (start : Option K) (n : Nat) : matching key rows keep start =
    ((remaining key rows start).take n).filter keep ++
      ((remaining key rows start).drop n).filter keep := by
  rw [← List.filter_append, List.take_append_drop, matching]

theorem overFetch_items (start : Option K) : (overFetch key rows keep limit start).items =
    (((remaining key rows start).take (limit + 1)).filter keep).take limit := rfl

theorem overFetch_nextCursor (start : Option K) :
    (overFetch key rows keep limit start).nextCursor =
      if limit < (((remaining key rows start).take (limit + 1)).filter keep).length then
        if ((remaining key rows start).take (limit + 1)).length < limit + 1 then none
        else ((remaining key rows start).take (limit + 1)).getLast?.map key
      else none := rfl

/-- A page hands out a cursor only when all `limit + 1` rows it evaluated pass the filter, and
the cursor then stands behind all of them. -/
theorem overFetch_cursor (hd : (rows.map key).Nodup) {k : K}
    (h : (overFetch key rows keep limit start).nextCursor = some k) :
    (((remaining key rows start).take (limit + 1)).filter keep).length = limit + 1 ∧
      matching key rows keep (some k) =
        ((remaining key rows start).drop (limit + 1)).filter keep := by
  rw [overFetch_nextCursor] at h
  split at h
  case isFalse => cases h
  case isTrue hlt =>
    have hle := List.length_filter_le keep ((remaining key rows start).take (limit + 1))
    have htake := List.length_take_le (limit + 1) (remaining key rows start)
    rw [if_neg (by omega)] at h
    obtain ⟨r, hr, rfl⟩ := Option.map_eq_some_iff.mp h
    exact ⟨by omega, by rw [matching, remaining_after hd hr]⟩

/-- A walk never yields more rows than match, and one fewer for every cursor it follows. -/
theorem Serves.length_le
    (hs : Serves key rows keep limit encode view fetch) (hd : (rows.map key).Nodup)
    {c : Option C} {out : List α} (hw : Walk fetch c out) :
    ∀ start : Option K, c = start.map encode →
      out.length ≤ (matching key rows keep start).length ∧
      ((overFetch key rows keep limit start).nextCursor ≠ none →
        out.length < (matching key rows keep start).length) := by
  induction hw with
  | last hp =>
    rintro start rfl
    rw [hs.page, Except.ok.injEq, Page.mk.injEq, Option.map_eq_none_iff] at hp
    obtain ⟨rfl, hnone⟩ := hp
    refine ⟨?_, fun h => absurd hnone h⟩
    rw [matching_split start (limit + 1), List.length_map, List.length_append]
    have := List.length_take_le' limit
      (((remaining key rows start).take (limit + 1)).filter keep)
    rw [overFetch_items]
    omega
  | @more c items c' rest hp _ ih =>
    rintro start rfl
    rw [hs.page, Except.ok.injEq, Page.mk.injEq] at hp
    obtain ⟨rfl, hsome⟩ := hp
    obtain ⟨k, hk, rfl⟩ := Option.map_eq_some_iff.mp hsome
    obtain ⟨hfull, hrest⟩ := overFetch_cursor hd hk
    have hlen := (ih (some k) rfl).1
    rw [hrest] at hlen
    rw [matching_split start (limit + 1), List.length_append, List.length_append,
      List.length_map, hfull]
    have : (overFetch key rows keep limit start).items.length ≤ limit :=
      List.length_take_le limit _
    exact ⟨by omega, fun _ => by omega⟩

end OverFetch

end SesEmailAdapter.Lib.QueryPaging
