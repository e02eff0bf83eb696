import SesEmailAdapter.Lib.Prog

/-! # The calls of a run

A log keeps the calls that a service has answered, with their answers. What a program did on its
way to a result is read off the log of its run, part by part. -/

namespace SesEmailAdapter.Lib

variable {C : Type} {A : C → Type} {α β S F : Type}

/-- The service with a log of the calls that it answered, oldest first. -/
def Service.logged (sv : Service C A S F) : Service C A (S × List (Sigma A)) F where
  settle c s f :=
    ((sv.settle c s.1 f).1, (sv.settle c s.1 f).2, s.2 ++ [⟨c, (sv.settle c s.1 f).1⟩])
  usual := sv.usual

namespace Prog

/-- The program returns `a` from `s` in `s'`, after the calls of the list, each of which takes a
turn of a kind. -/
inductive Returns (sv : Service C A S F) (T : F → Prop) :
    Prog C A α → S → List (Sigma A) → α → S → Prop
  | ret (a : α) (s : S) : Returns sv T (.ret a) s [] a s
  | call {c : C} {k : A c → Prog C A α} {s s' : S} {f : F} {calls : List (Sigma A)} {a : α}
      (turn : T f) (next : Returns sv T (k (sv.settle c s f).1) (sv.settle c s f).2 calls a s') :
      Returns sv T (.call c k) s (⟨c, (sv.settle c s f).1⟩ :: calls) a s'

variable {sv : Service C A S F} {T : F → Prop}

variable {calls : List (Sigma A)} {p : Prog C A α}

variable {s s' : S} {a : α}

@[simp] theorem returns_ret {a b : α} :
    (.ret b : Prog C A α).Returns sv T s calls a s' ↔ calls = [] ∧ a = b ∧ s' = s := by
  constructor
  · intro h
    cases h
    exact ⟨rfl, rfl, rfl⟩
  · rintro ⟨rfl, rfl, rfl⟩
    exact .ret _ _

theorem returns_call {c : C} {k : A c → Prog C A α} :
    (Prog.call c k).Returns sv T s calls a s' ↔ ∃ f rest, T f ∧
      calls = ⟨c, (sv.settle c s f).1⟩ :: rest ∧
      (k (sv.settle c s f).1).Returns sv T (sv.settle c s f).2 rest a s' := by
  constructor
  · intro h
    cases h with
    | call turn next => exact ⟨_, _, turn, rfl, next⟩
  · rintro ⟨f, rest, turn, rfl, next⟩
    exact .call turn next

/-- Whatever the first call was answered, the rest returned. -/
theorem Returns.answered {c : C} {k : A c → Prog C A α}
    (h : (Prog.call c k).Returns sv T s calls a s') :
    ∃ r rest s₁, calls = ⟨c, r⟩ :: rest ∧ (k r).Returns sv T s₁ rest a s' := by
  obtain ⟨f, rest, _, rfl, hnext⟩ := returns_call.mp h
  exact ⟨_, rest, _, rfl, hnext⟩

/-- A sequence of programs makes the calls of the first, then those of the second. -/
theorem returns_bind {f : α → Prog C A β} {s s'' : S}
    {b : β} : (p >>= f).Returns sv T s calls b s'' ↔ ∃ first rest a s', calls = first ++ rest ∧
      p.Returns sv T s first a s' ∧ (f a).Returns sv T s' rest b s'' := by
  induction p generalizing s calls with
  | ret a =>
    rw [ret_bind]
    constructor
    · intro h
      exact ⟨[], calls, a, s, rfl, .ret a s, h⟩
    · rintro ⟨first, rest, a', s', rfl, hp, hf⟩
      obtain ⟨rfl, rfl, rfl⟩ := returns_ret.mp hp
      exact hf
  | call c k ih =>
    rw [call_bind, returns_call]
    constructor
    · rintro ⟨t, tail, turn, rfl, hnext⟩
      obtain ⟨first, rest, a, s', rfl, hp, hf⟩ := (ih _).mp hnext
      exact ⟨_ :: first, rest, a, s', rfl, .call turn hp, hf⟩
    · rintro ⟨first, rest, a, s', rfl, hp, hf⟩
      obtain ⟨t, tail, turn, rfl, hnext⟩ := returns_call.mp hp
      exact ⟨t, tail ++ rest, turn, rfl, (ih _).mpr ⟨tail, rest, a, s', rfl, hnext, hf⟩⟩

theorem Returns.only {P : C → Prop}
    (h : p.Returns sv T s calls a s') (hp : p.Only P) : ∀ e ∈ calls, P e.1 := by
  induction h with
  | ret a s => simp
  | call turn next ih => exact List.forall_mem_cons.mpr ⟨hp.1, ih (hp.2 _)⟩

/-- Calls of a kind that keeps an invariant return where it holds. -/
theorem Returns.keeps {P : C → Prop} {Inv : S → Prop}
    (hkeep : ∀ c s f, P c → Inv s → Inv (sv.settle c s f).2)
    (h : p.Returns sv T s calls a s') (hp : p.Only P) (hs : Inv s) : Inv s' := by
  induction h with
  | ret a s => exact hs
  | call turn next ih => exact ih (hp.2 _) (hkeep _ _ _ hp.1 hs)

/-- A log changes nothing but the log. -/
theorem run_logged (p : Prog C A α) (fs : Faults F) (s : S) (log : List (Sigma A)) :
    (p.run sv.logged fs (s, log)).result = (p.run sv fs s).result ∧
      (p.run sv.logged fs (s, log)).store.1 = (p.run sv fs s).store := by
  induction p generalizing fs s log with
  | ret a =>
    match fs with
    | none :: _ => exact ⟨rfl, rfl⟩
    | [] => exact ⟨rfl, rfl⟩
    | some _ :: _ => exact ⟨rfl, rfl⟩
  | call c k ih =>
    match fs with
    | none :: _ => exact ⟨rfl, rfl⟩
    | [] => exact ih _ [] _ _
    | some f :: fs => exact ih _ fs _ _

/-- What a run that no crash cuts off returns, and the calls that its log has gained. -/
theorem returns_logged (husual : T sv.usual) (p : Prog C A α) (turns : List F)
    (hturns : ∀ f ∈ turns, T f) (s : S) (log : List (Sigma A)) :
    ∃ a calls, (p.run sv.logged (turns.map some) (s, log)).result = some a ∧
      (p.run sv.logged (turns.map some) (s, log)).store.2 = log ++ calls ∧
      p.Returns sv T s calls a (p.run sv.logged (turns.map some) (s, log)).store.1 := by
  induction p generalizing turns s log with
  | ret a =>
    match turns with
    | [] => exact ⟨a, [], rfl, (List.append_nil log).symm, .ret a s⟩
    | _ :: _ => exact ⟨a, [], rfl, (List.append_nil log).symm, .ret a s⟩
  | call c k ih =>
    match turns with
    | [] =>
      obtain ⟨a, calls, hresult, hlog, hreturns⟩ := ih _ [] hturns (sv.settle c s sv.usual).2
        (log ++ [⟨c, (sv.settle c s sv.usual).1⟩])
      rw [List.append_assoc] at hlog
      exact ⟨a, _ :: calls, hresult, hlog, .call husual hreturns⟩
    | f :: turns =>
      obtain ⟨hf, hturns⟩ := List.forall_mem_cons.mp hturns
      obtain ⟨a, calls, hresult, hlog, hreturns⟩ := ih _ turns hturns (sv.settle c s f).2
        (log ++ [⟨c, (sv.settle c s f).1⟩])
      rw [List.append_assoc] at hlog
      exact ⟨a, _ :: calls, hresult, hlog, .call hf hreturns⟩

/-! ### Any answers -/

/-- The program returns `a` after the calls of the list, whoever has answered them. -/
inductive Performs : Prog C A α → List (Sigma A) → α → Prop
  | ret (a : α) : Performs (.ret a) [] a
  | call {c : C} {k : A c → Prog C A α} {calls : List (Sigma A)} {a : α} (r : A c)
      (next : Performs (k r) calls a) : Performs (.call c k) (⟨c, r⟩ :: calls) a

theorem performs_ret {a b : α} :
    (.ret b : Prog C A α).Performs calls a ↔ calls = [] ∧ a = b := by
  constructor
  · intro h
    cases h
    exact ⟨rfl, rfl⟩
  · intro h
    obtain ⟨rfl, rfl⟩ := h
    exact .ret _

theorem performs_call {c : C} {k : A c → Prog C A α} :
    (Prog.call c k).Performs calls a ↔
      ∃ r rest, calls = ⟨c, r⟩ :: rest ∧ (k r).Performs rest a := by
  constructor
  · intro h
    cases h with
    | call r next => exact ⟨r, _, rfl, next⟩
  · intro h
    obtain ⟨r, rest, rfl, next⟩ := h
    exact .call r next

theorem performs_bind {f : α → Prog C A β} {b : β} :
    (p >>= f).Performs calls b ↔ ∃ first rest a, calls = first ++ rest ∧ p.Performs first a ∧
      (f a).Performs rest b := by
  induction p generalizing calls with
  | ret a =>
    rw [ret_bind]
    constructor
    · intro h
      exact ⟨[], calls, a, rfl, .ret a, h⟩
    · intro h
      obtain ⟨first, rest, a', rfl, hp, hf⟩ := h
      obtain ⟨rfl, rfl⟩ := performs_ret.mp hp
      exact hf
  | call c k ih =>
    rw [call_bind, performs_call]
    constructor
    · intro h
      obtain ⟨r, tail, rfl, hnext⟩ := h
      obtain ⟨first, rest, a, rfl, hp, hf⟩ := (ih r).mp hnext
      exact ⟨_ :: first, rest, a, rfl, .call r hp, hf⟩
    · intro h
      obtain ⟨first, rest, a, rfl, hp, hf⟩ := h
      obtain ⟨r, tail, rfl, hnext⟩ := performs_call.mp hp
      exact ⟨r, tail ++ rest, rfl, (ih r).mpr ⟨tail, rest, a, rfl, hnext, hf⟩⟩

theorem Performs.only {P : C → Prop} (h : p.Performs calls a) (hp : p.Only P) : ∀ e ∈ calls, P e.1 := by
  induction h with
  | ret a => exact fun _ he => nomatch he
  | call r next ih => exact List.forall_mem_cons.mpr ⟨hp.1, ih (hp.2 r)⟩

/-- What returned has performed its calls. -/
theorem Returns.performs (h : p.Returns sv T s calls a s') :
    p.Performs calls a := by
  induction h with
  | ret a s => exact .ret a
  | call turn next ih => exact .call _ ih

end Prog

end SesEmailAdapter.Lib
