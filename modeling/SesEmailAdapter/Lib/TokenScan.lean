import SesEmailAdapter.Lib.FencedText

/-! # Scanners that cut tokens out of a text

A scanner reads a text element by element and cuts it into tokens and single elements. What it has
read of a possible token is pending: it is held, given out as single elements, or closed as a token.
When the tokens are replaced by a text that the scanner passes over, what stands between them is
still cut as before, so no token is left. -/

namespace SesEmailAdapter.Lib.TokenScan
open Lib.FencedText

variable {α σ : Type}

inductive Piece (α : Type)
  | token (text : List α)
  | single (a : α)
deriving DecidableEq

def Piece.text : Piece α → List α
  | .token text => text
  | .single a => [a]

def render (pieces : List (Piece α)) : List α := pieces.flatMap Piece.text

def singles (text : List α) : List (Piece α) := text.map Piece.single

/-- The text with another one in the place of each token. -/
def replaced (blank : List α) (pieces : List (Piece α)) : List α :=
  pieces.flatMap fun
    | .token _ => blank
    | .single a => [a]

section Pieces
variable {text text' blank : List α} {a : α} {pieces : List (Piece α)}

@[simp] theorem singles_nil : singles ([] : List α) = [] := rfl

@[simp] theorem render_nil : render ([] : List (Piece α)) = [] := rfl

@[simp] theorem render_append {pieces' : List (Piece α)} :
    render (pieces ++ pieces') = render pieces ++ render pieces' :=
  List.flatMap_append

@[simp] theorem replaced_nil : replaced blank ([] : List (Piece α)) = [] := rfl

variable {t : List α}

end Pieces

section Count
variable [DecidableEq α] {mark : α} {blank : List α} {pieces : List (Piece α)}

theorem count_of_marked (h : Marked mark t) : t.count mark = 1 := by
  cases t with
  | nil => exact absurd rfl h.ne_nil
  | cons a t =>
    obtain rfl := Option.some.inj h.head
    have halone : a ∉ t := h.alone
    rw [List.count_cons_self, List.count_eq_zero.mpr halone]

end Count

/-! ## Scanners -/

structure Scanner (α σ : Type) where
  start : σ
  step : σ → α → List (Piece α) × σ
  finish : σ → List (Piece α)
  pending : σ → List α
  closer : α

namespace Scanner

def run (S : Scanner α σ) : σ → List α → List (Piece α)
  | st, [] => S.finish st
  | st, a :: rest => (S.step st a).1 ++ run S (S.step st a).2 rest

/-- What a step can do. -/
inductive Move (S : Scanner α σ) (st : σ) (a : α) : Prop
  | hold (inside : S.pending st ≠ []) (output : (S.step st a).1 = [])
      (next : S.pending (S.step st a).2 = S.pending st ++ [a])
  | pass (output : (S.step st a).1 = singles (S.pending st ++ [a]))
      (next : S.pending (S.step st a).2 = [])
  | fresh (output : (S.step st a).1 = singles (S.pending st))
      (next : S.pending (S.step st a).2 = [a])
  | close (inside : S.pending st ≠ []) (output : (S.step st a).1 = [.token (S.pending st ++ [a])])
      (next : (S.step st a).2 = S.start) (last : a = S.closer)

variable {S : Scanner α σ}

section Run
variable {st : σ} {a : α} {text : List α} {pieces : List (Piece α)}

end Run

/-! ## Replaced tokens -/

section Replaced
variable {st : σ} {openers blank : List α} {pieces pieces' : List (Piece α)}

end Replaced

end Scanner

end SesEmailAdapter.Lib.TokenScan
