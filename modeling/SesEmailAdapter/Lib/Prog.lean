import Mathlib.Init

/-! # Programs that make calls

A program is the tree of the calls it makes, each continuing with the answer it gets. A service
gives the calls their meaning on a store, a turn says what becomes of one call, and a monitor is
a history state that follows the calls of one program. -/

namespace SesEmailAdapter.Lib

/-- A program over the calls `C`, where the call `c` is answered in `A c`. -/
inductive Prog (C : Type) (A : C → Type) (α : Type) : Type
  | ret (a : α)
  | call (c : C) (k : A c → Prog C A α)

variable {C D : Type} {A : C → Type} {B : D → Type} {α β γ ε S σ : Type}

namespace Prog

protected def bind : Prog C A α → (α → Prog C A β) → Prog C A β
  | .ret a, f => f a
  | .call c k, f => .call c fun r => (k r).bind f

instance : Monad (Prog C A) where
  pure := .ret
  bind := Prog.bind

/-- The program of one call. -/
@[simp] def perform (c : C) : Prog C A (A c) := .call c .ret

@[simp] theorem pure_eq (a : α) : (pure a : Prog C A α) = .ret a := rfl
@[simp] theorem ret_bind (a : α) (f : α → Prog C A β) : (.ret a >>= f) = f a := rfl
@[simp] theorem call_bind (c : C) (k : A c → Prog C A α) (f : α → Prog C A β) :
    (.call c k >>= f) = .call c fun r => k r >>= f := rfl

theorem bind_ret (p : Prog C A α) : (p >>= .ret) = p := by
  induction p with
  | ret a => rfl
  | call c k ih =>
    rw [call_bind]
    exact congrArg _ (funext ih)

theorem bind_assoc (p : Prog C A α) (f : α → Prog C A β) (g : β → Prog C A γ) :
    (p >>= f >>= g) = (p >>= fun a => f a >>= g) := by
  induction p with
  | ret a => rfl
  | call c k ih =>
    simp only [call_bind]
    exact congrArg _ (funext ih)

instance : LawfulMonad (Prog C A) :=
  LawfulMonad.mk' (Prog C A) bind_ret (fun _ _ => rfl) bind_assoc

/-- A program over a part of a larger interface. -/
def embed (inject : C → D) (back : ∀ c, B (inject c) → A c) : Prog C A α → Prog D B α
  | .ret a => .ret a
  | .call c k => .call (inject c) fun r => (k (back c r)).embed inject back

end Prog

variable {p : Prog C A α} {x : ExceptT ε (Prog C A) α} {P : C → Prop}

/-! ## Services and runs -/

/-- The meaning of calls on a store: the answer and the store after a call, for every turn it can
take, and the turn it takes when nothing goes wrong. -/
structure Service (C : Type) (A : C → Type) (S F : Type) where
  settle : (c : C) → S → F → A c × S
  usual : F

/-- A turn per call, in order; `none` is a crash before the call, or before the program returns.
After the listed turns every call takes its usual one. -/
abbrev Faults (F : Type) := List (Option F)

/-- How a program that ran alone ended: with its result, or without one after a crash. `rest` are
the turns it left over. -/
structure Outcome (S C F α : Type) where
  result : Option α
  store : S
  trace : List (C × F)
  rest : Faults F

variable {F : Type}

def Prog.run (sv : Service C A S F) : Prog C A α → Faults F → S → Outcome S C F α
  | _, none :: fs, s => ⟨none, s, [], fs⟩
  | .ret a, fs, s => ⟨some a, s, [], fs⟩
  | .call c k, [], s =>
    let next := (k (sv.settle c s sv.usual).1).run sv [] (sv.settle c s sv.usual).2
    { next with trace := (c, sv.usual) :: next.trace }
  | .call c k, some f :: fs, s =>
    let next := (k (sv.settle c s f).1).run sv fs (sv.settle c s f).2
    { next with trace := (c, f) :: next.trace }

namespace Prog

variable {sv : Service C A S F}

@[simp] theorem run_crash (p : Prog C A α) (fs : Faults F) (s : S) :
    p.run sv (none :: fs) s = ⟨none, s, [], fs⟩ := by
  cases p <;> rfl

@[simp] theorem run_ret_store (a : α) (fs : Faults F) (s : S) :
    ((.ret a : Prog C A α).run sv fs s).store = s := by
  match fs with
  | none :: _ => rfl
  | [] => rfl
  | some _ :: _ => rfl

variable {Q : σ → α → Prop} {q : σ} {s : S} {sv : Service C A S F}

/-- A program that makes no call has its own result, where it has one. -/
theorem eq_of_run_ret {a b : α} {fs : Faults F}
    (h : ((.ret a : Prog C A α).run sv fs s).result = some b) : a = b := by
  match fs with
  | none :: _ => cases h
  | [] => exact Option.some.inj h
  | some _ :: _ => exact Option.some.inj h

/-- A sequence of programs runs the second where the first has stopped. -/
theorem run_bind (p : Prog C A α) (f : α → Prog C A β) (fs : Faults F) (s : S) :
    (p >>= f).run sv fs s =
      match (p.run sv fs s).result with
      | none => ⟨none, (p.run sv fs s).store, (p.run sv fs s).trace, (p.run sv fs s).rest⟩
      | some a =>
        { (f a).run sv (p.run sv fs s).rest (p.run sv fs s).store with
          trace := (p.run sv fs s).trace ++
            ((f a).run sv (p.run sv fs s).rest (p.run sv fs s).store).trace } := by
  induction p generalizing fs s with
  | ret a =>
    rw [ret_bind]
    match fs with
    | none :: fs => simp
    | [] => rfl
    | some t :: fs => rfl
  | call c k ih =>
    rw [call_bind]
    match fs with
    | none :: fs => simp
    | [] =>
      simp only [run, ih]
      split <;> simp_all
    | some t :: fs =>
      simp only [run, ih]
      split <;> simp_all

end Prog

/-! ### Where runs lead -/

namespace Prog

/-- Every run with turns of a kind stops in a result and a store that satisfy `Q`; a crash, where
the kind has one, leaves no result. -/
def Leads (sv : Service C A S F) (T : Option F → Prop) (Q : Option α → S → Prop) :
    Prog C A α → S → Prop
  | .ret a, s => Q (some a) s ∧ (T none → Q none s)
  | .call c k, s => (T none → Q none s) ∧
      ∀ f, T (some f) → (k (sv.settle c s f).1).Leads sv T Q (sv.settle c s f).2

variable {sv : Service C A S F} {T : Option F → Prop}

theorem Leads.run {Q : Option α → S → Prop} (h : p.Leads sv T Q s)
    (husual : T (some sv.usual)) (fs : Faults F) (hfs : ∀ t ∈ fs, T t) :
    Q (p.run sv fs s).result (p.run sv fs s).store := by
  induction p generalizing s fs with
  | ret a =>
    match fs with
    | none :: fs => exact h.2 (hfs none List.mem_cons_self)
    | [] => exact h.1
    | some t :: fs => exact h.1
  | call c k ih =>
    match fs with
    | none :: fs => exact h.1 (hfs none List.mem_cons_self)
    | [] => exact ih _ (h.2 _ husual) [] fun t ht => absurd ht List.not_mem_nil
    | some t :: fs =>
      exact ih _ (h.2 t (hfs _ List.mem_cons_self)) fs fun t ht => hfs t (List.mem_cons_of_mem _ ht)

theorem Leads.mono {Q Q' : Option α → S → Prop} (h : p.Leads sv T Q s)
    (hQ : ∀ r s, Q r s → Q' r s) : p.Leads sv T Q' s := by
  induction p generalizing s with
  | ret a => exact ⟨hQ _ _ h.1, fun hcrash => hQ _ _ (h.2 hcrash)⟩
  | call c k ih => exact ⟨fun hcrash => hQ _ _ (h.1 hcrash), fun f hf => ih _ (h.2 f hf)⟩

theorem Leads.and {Q Q' : Option α → S → Prop} (h : p.Leads sv T Q s)
    (h' : p.Leads sv T Q' s) : p.Leads sv T (fun r s => Q r s ∧ Q' r s) s := by
  induction p generalizing s with
  | ret a => exact ⟨⟨h.1, h'.1⟩, fun hcrash => ⟨h.2 hcrash, h'.2 hcrash⟩⟩
  | call c k ih =>
    exact ⟨fun hcrash => ⟨h.1 hcrash, h'.1 hcrash⟩, fun f hf => ih _ (h.2 f hf) (h'.2 f hf)⟩

theorem Leads.all {ι : Type} {Q : ι → Option α → S → Prop}
    (h : ∀ i, p.Leads sv T (Q i) s) : p.Leads sv T (fun r s => ∀ i, Q i r s) s := by
  induction p generalizing s with
  | ret a => exact ⟨fun i => (h i).1, fun hcrash i => (h i).2 hcrash⟩
  | call c k ih => exact ⟨fun hcrash i => (h i).1 hcrash, fun f hf => ih _ fun i => (h i).2 f hf⟩

theorem Leads.map {Q : Option β → S → Prop} {f : α → β}
    (h : p.Leads sv T (fun r s => Q (r.map f) s) s) : (f <$> p).Leads sv T Q s := by
  induction p generalizing s with
  | ret a => exact h
  | call c k ih => exact ⟨h.1, fun t ht => ih _ (h.2 t ht)⟩

/-- The first part leads to where the second starts, and to a crash of both. -/
theorem Leads.bind {Q : Option β → S → Prop} {f : α → Prog C A β}
    (h : p.Leads sv T (fun r s => r.elim (Q none s) fun a => (f a).Leads sv T Q s) s) :
    (p >>= f).Leads sv T Q s := by
  induction p generalizing s with
  | ret a => exact h.1
  | call c k ih => exact ⟨fun hcrash => h.1 hcrash, fun t ht => ih _ (h.2 t ht)⟩

end Prog

/-! ### Runs without faults -/

namespace Prog

/-- The result and the store of a run without faults. -/
def eval (sv : Service C A S F) : Prog C A α → S → α × S
  | .ret a, s => (a, s)
  | .call c k, s => (k (sv.settle c s sv.usual).1).eval sv (sv.settle c s sv.usual).2

variable {sv : Service C A S F}

@[simp] theorem eval_ret (a : α) (s : S) : (.ret a : Prog C A α).eval sv s = (a, s) := rfl

@[simp] theorem eval_call (c : C) (k : A c → Prog C A α) (s : S) :
    (Prog.call c k).eval sv s =
      (k (sv.settle c s sv.usual).1).eval sv (sv.settle c s sv.usual).2 := rfl

theorem eval_bind (p : Prog C A α) (f : α → Prog C A β) (s : S) :
    (p >>= f).eval sv s = (f (p.eval sv s).1).eval sv (p.eval sv s).2 := by
  induction p generalizing s with
  | ret a => rfl
  | call c k ih => exact ih _ _

theorem eval_map (f : α → β) (p : Prog C A α) (s : S) :
    (f <$> p).eval sv s = (f (p.eval sv s).1, (p.eval sv s).2) :=
  eval_bind p (fun a => .ret (f a)) s

theorem run_nil (p : Prog C A α) (s : S) :
    (p.run sv [] s).result = some (p.eval sv s).1 ∧ (p.run sv [] s).store = (p.eval sv s).2 := by
  induction p generalizing s with
  | ret a => exact ⟨rfl, rfl⟩
  | call c k ih => exact ih _ _

/-- A call of the second part, where the first has no faults. -/
theorem mem_trace_bind {f : α → Prog C A β} {e : C × F}
    (h : e ∈ ((f (p.eval sv s).1).run sv [] (p.eval sv s).2).trace) :
    e ∈ ((p >>= f).run sv [] s).trace := by
  induction p generalizing s with
  | ret a => exact h
  | call c k ih => exact .tail _ (ih _ h)

/-- Where every run leads, the one without faults does. -/
theorem Leads.eval {T : Option F → Prop} {Q : Option α → S → Prop}
    (h : p.Leads sv T Q s) (husual : T (some sv.usual)) :
    Q (some (p.eval sv s).1) (p.eval sv s).2 := by
  have hrun : (p.run sv [] s).result = some (p.eval sv s).1 ∧
      (p.run sv [] s).store = (p.eval sv s).2 := run_nil p s
  rw [← hrun.1, ← hrun.2]
  exact h.run husual [] fun t ht => absurd ht List.not_mem_nil

/-- A program over a part of a larger interface runs on that part of the larger store. -/
theorem eval_embed {G S' : Type} {sv' : Service D B S' G} {inject : C → D}
    {back : ∀ c, B (inject c) → A c} (place : S → S')
    (hplace : ∀ c s, back c (sv'.settle (inject c) (place s) sv'.usual).1 =
        (sv.settle c s sv.usual).1 ∧
      (sv'.settle (inject c) (place s) sv'.usual).2 = place (sv.settle c s sv.usual).2)
    (p : Prog C A α) (s : S) :
    (p.embed inject back).eval sv' (place s) = ((p.eval sv s).1, place (p.eval sv s).2) := by
  induction p generalizing s with
  | ret a => rfl
  | call c k ih =>
    obtain ⟨hanswer, hstore⟩ := hplace c s
    show ((k (back c _)).embed inject back).eval sv' _ = _
    rw [hanswer, hstore]
    exact ih _ _

end Prog

/-! ### Requests -/

/-- What becomes of a request to a store: it is carried out, it fails without an effect, or its
effect takes place and a failure is reported all the same. -/
inductive Fate
  | done | refused | lost
deriving DecidableEq, Repr

/-- The turns of requests, from what they do and the answer by which they report a failure. -/
def settleRequest (exec : (c : C) → S → A c × S) (failure : (c : C) → A c) (c : C) (s : S) :
    Fate → A c × S
  | .done => exec c s
  | .refused => (failure c, s)
  | .lost => (failure c, (exec c s).2)

theorem settleRequest_store (exec : (c : C) → S → A c × S) (failure : (c : C) → A c) (c : C) (s : S)
    (fate : Fate) : (settleRequest exec failure c s fate).2 = s ∨
      (settleRequest exec failure c s fate).2 = (exec c s).2 := by
  cases fate with
  | done => exact .inr rfl
  | refused => exact .inl rfl
  | lost => exact .inr rfl

namespace Prog

variable {exec : (c : C) → S → A c × S} {failure : (c : C) → A c} {T : Option Fate → Prop}
  {Q : Option α → S → Prop} {c : C} {k : A c → Prog C A α} {s : S}

/-- A request that only reads is answered from the store, or fails. -/
theorem leads_read (hread : (exec c s).2 = s) (hcrash : Q none s)
    (hnext : ∀ r, r = failure c ∨ r = (exec c s).1 →
      (k r).Leads ⟨settleRequest exec failure, .done⟩ T Q s) :
    (Prog.call c k).Leads ⟨settleRequest exec failure, .done⟩ T Q s := by
  refine ⟨fun _ => hcrash, fun fate _ => ?_⟩
  cases fate with
  | done =>
    show (k (exec c s).1).Leads _ T Q (exec c s).2
    rw [hread]
    exact hnext _ (.inr rfl)
  | refused => exact hnext _ (.inl rfl)
  | lost =>
    show (k (failure c)).Leads _ T Q (exec c s).2
    rw [hread]
    exact hnext _ (.inl rfl)

/-- A request that keeps an invariant goes on wherever it holds. -/
theorem leads_write {Inv : S → Prop} (hs : Inv s) (hexec : Inv (exec c s).2) (hcrash : Q none s)
    (hnext : ∀ r s, Inv s → (k r).Leads ⟨settleRequest exec failure, .done⟩ T Q s) :
    (Prog.call c k).Leads ⟨settleRequest exec failure, .done⟩ T Q s := by
  refine ⟨fun _ => hcrash, fun fate _ => ?_⟩
  cases fate with
  | done => exact hnext _ _ hexec
  | refused => exact hnext _ _ hs
  | lost => exact hnext _ _ hexec

end Prog

/-! ### Runs that succeed -/

/-- What holds when a run has returned ok. -/
def Succeeds (Q : α → S → Prop) (r : Option (Except ε α)) (s : S) : Prop :=
  ∀ a, r = some (.ok a) → Q a s

namespace Prog

variable {sv : Service C A S F} {T : Option F → Prop}

theorem leads_error {Q : α → S → Prop} (error : ε) (s : S) :
    (.ret (.error error) : Prog C A (Except ε α)).Leads sv T (Succeeds Q) s :=
  ⟨fun _ h => (nomatch Option.some.inj h), fun _ _ h => nomatch h⟩

theorem leads_ok {Q : α → S → Prop} {a : α} (h : Q a s) :
    (.ret (.ok a) : Prog C A (Except ε α)).Leads sv T (Succeeds Q) s := by
  refine ⟨fun b hb => ?_, fun _ _ hb => nomatch hb⟩
  obtain rfl := Except.ok.inj (Option.some.inj hb)
  exact h

/-- A part that fails makes the whole fail; where it succeeds, the rest has to. -/
theorem Leads.andThen {δ : Type} {P : α → S → Prop} {Q : β → S → Prop}
    {p : Prog C A (Except ε α)} {f : Except ε α → Prog C A (Except δ β)}
    (hp : p.Leads sv T (Succeeds P) s)
    (herror : ∀ error s, (f (.error error)).Leads sv T (Succeeds Q) s)
    (hok : ∀ a s, P a s → (f (.ok a)).Leads sv T (Succeeds Q) s) :
    (p >>= f).Leads sv T (Succeeds Q) s := by
  refine Leads.bind (hp.mono fun r s hr => ?_)
  match r with
  | none => exact fun _ h => nomatch h
  | some (.error error) => exact herror error s
  | some (.ok a) => exact hok a s (hr a rfl)

/-- A request has succeeded where it was carried out. -/
theorem leads_request {U : Option Fate → Prop} {exec : (c : C) → S → A c × S}
    {failure : (c : C) → A c} {Q : α → S → Prop} {c : C} {k : A c → Prog C A (Except ε α)}
    (hfail : ∀ s, (k (failure c)).Leads ⟨settleRequest exec failure, .done⟩ U (Succeeds Q) s)
    (hdone : (k (exec c s).1).Leads ⟨settleRequest exec failure, .done⟩ U (Succeeds Q)
      (exec c s).2) :
    (Prog.call c k).Leads ⟨settleRequest exec failure, .done⟩ U (Succeeds Q) s := by
  refine ⟨fun _ _ h => (nomatch h), fun fate _ => ?_⟩
  cases fate with
  | done => exact hdone
  | refused => exact hfail s
  | lost => exact hfail (exec c s).2

end Prog

/-! ## Monitors -/

/-- A history state of one program: which calls it may make there, and how a call moves it on,
by its turn and its answer. -/
structure Monitor (C : Type) (A : C → Type) (F σ : Type) where
  allow : σ → C → Prop
  next : σ → (c : C) → F → A c → σ

/-- The call is allowed in a history state and leaves it. -/
def Monitor.Idle (M : Monitor C A F σ) (q : σ) (c : C) : Prop :=
  M.allow q c ∧ ∀ f r, M.next q c f r = q

/-- From the history state `q`, whatever the turns and the answers are, the program makes only
allowed calls and returns in a history state and with a result that satisfy `Q`. -/
def Prog.Obeys (M : Monitor C A F σ) (Q : σ → α → Prop) : σ → Prog C A α → Prop
  | q, .ret a => Q q a
  | q, .call c k => M.allow q c ∧ ∀ f r, (k r).Obeys M Q (M.next q c f r)

namespace Prog

variable {M : Monitor C A F σ}

@[simp] theorem obeys_ret {a : α} :
    (Prog.ret a : Prog C A α).Obeys M Q q ↔ Q q a := Iff.rfl

@[simp] theorem obeys_call {c : C} {k : A c → Prog C A α} :
    (Prog.call c k).Obeys M Q q ↔ M.allow q c ∧ ∀ f r, (k r).Obeys M Q (M.next q c f r) := Iff.rfl

theorem obeys_bind {Q : σ → β → Prop} {f : α → Prog C A β} :
    (p >>= f).Obeys M Q q ↔ p.Obeys M (fun q a => (f a).Obeys M Q q) q := by
  induction p generalizing q with
  | ret a => rfl
  | call c k ih =>
    rw [call_bind, obeys_call, obeys_call]
    exact and_congr_right fun _ => forall_congr' fun t => forall_congr' fun r => ih r

theorem Obeys.mono {Q Q' : σ → α → Prop} (h : p.Obeys M Q q)
    (hQ : ∀ q a, Q q a → Q' q a) : p.Obeys M Q' q := by
  induction p generalizing q with
  | ret a => exact hQ q a h
  | call c k ih => exact ⟨h.1, fun f r => ih r (h.2 f r)⟩

/-- When every call keeps `Inv`, a program that obeys the monitor leads to a history state for
which `Inv` holds. -/
theorem Obeys.leads {T : Option F → Prop} (Inv : σ → S → Prop)
    (hstep : ∀ q c s f, Inv q s → M.allow q c →
      Inv (M.next q c f (sv.settle c s f).1) (sv.settle c s f).2)
    (h : p.Obeys M Q q) (hi : Inv q s) :
    p.Leads sv T (fun r s => ∃ q', Inv q' s ∧ ∀ a, r = some a → Q q' a) s := by
  induction p generalizing q s with
  | ret a =>
    refine ⟨⟨q, hi, fun b hb => ?_⟩, fun _ => ⟨q, hi, nofun⟩⟩
    obtain rfl := Option.some.inj hb
    exact h
  | call c k ih =>
    exact ⟨fun _ => ⟨q, hi, nofun⟩, fun f _ => ih _ (h.2 f _) (hstep q c s f hi h.1)⟩

/-- **Runs under a monitor.** When every call keeps `Inv`, a program that obeys the monitor ends
every run, crashed or not, in a history state for which `Inv` holds. -/
theorem Obeys.run {Inv : σ → S → Prop} (hstep : ∀ q c s f, Inv q s → M.allow q c →
      Inv (M.next q c f (sv.settle c s f).1) (sv.settle c s f).2)
    (h : p.Obeys M Q q) (hi : Inv q s) (fs : Faults F) :
    ∃ q', Inv q' (p.run sv fs s).store ∧ ∀ a, (p.run sv fs s).result = some a → Q q' a :=
  have hleads : p.Leads sv (fun _ => True) _ s := h.leads Inv hstep hi
  hleads.run trivial fs fun _ _ => trivial

/-! ### Calls that leave the history state -/

/-- The program makes only calls of one kind. -/
def Only (P : C → Prop) : Prog C A α → Prop
  | .ret _ => True
  | .call c k => P c ∧ ∀ r, (k r).Only P

@[simp] theorem only_ret (a : α) : (.ret a : Prog C A α).Only P := trivial

theorem Only.bind {f : α → Prog C A β} (hp : p.Only P) (hf : ∀ a, (f a).Only P) :
    (p >>= f).Only P := by
  induction p with
  | ret a => exact hf a
  | call c k ih => exact ⟨hp.1, fun r => ih r (hp.2 r)⟩

theorem Only.perform {c : C} {f : A c → Prog C A α} (hc : P c)
    (hf : ∀ r, (f r).Only P) : (Prog.perform c >>= f).Only P :=
  ⟨hc, hf⟩

theorem Only.map (hp : p.Only P) (f : α → β) :
    (f <$> p).Only P :=
  hp.bind fun _ => trivial

theorem Only.mono {P P' : C → Prop} (hp : p.Only P) (h : ∀ c, P c → P' c) :
    p.Only P' := by
  induction p with
  | ret a => trivial
  | call c k ih => exact ⟨h c hp.1, fun r => ih r (hp.2 r)⟩

theorem only_of_forall (h : ∀ c, P c) (p : Prog C A α) : p.Only P := by
  induction p with
  | ret a => trivial
  | call c k ih => exact ⟨h c, ih⟩

theorem Only.embed {P : D → Prop} {inject : C → D} {back : ∀ c, B (inject c) → A c}
    (hp : p.Only fun c => P (inject c)) : (p.embed inject back).Only P := by
  induction p with
  | ret a => trivial
  | call c k ih => exact ⟨hp.1, fun r => ih _ (hp.2 _)⟩

theorem Obeys.perform {c : C} {f : A c → Prog C A α}
    (hc : M.allow q c) (hf : ∀ turn r, (f r).Obeys M Q (M.next q c turn r)) :
    (Prog.perform c >>= f).Obeys M Q q :=
  ⟨hc, hf⟩

/-- Calls that are allowed everywhere. -/
theorem Only.obeys_anywhere (hallow : ∀ c, P c → ∀ q, M.allow q c)
    (hp : p.Only P) (q : σ) : p.Obeys M (fun _ _ => True) q := by
  induction p generalizing q with
  | ret a => trivial
  | call c k ih => exact ⟨hallow c hp.1 q, fun f r => ih r (hp.2 r) _⟩

/-- What the calls of a kind keep of the history state. -/
theorem Obeys.keepOnly {K : σ → Prop} (hkeep : ∀ q c f r, P c → K q → K (M.next q c f r))
    (hp : p.Obeys M Q q) (honly : p.Only P) (hq : K q) :
    p.Obeys M (fun q a => Q q a ∧ K q) q := by
  induction p generalizing q with
  | ret a => exact ⟨hp, hq⟩
  | call c k ih =>
    exact ⟨hp.1, fun f r => ih r (hp.2 f r) (honly.2 r) (hkeep q c f r honly.1 hq)⟩

/-- What every call keeps of the history state. -/
theorem Obeys.keep {K : σ → Prop} (hkeep : ∀ q c f r, K q → K (M.next q c f r))
    (hp : p.Obeys M Q q) (hq : K q) :
    p.Obeys M (fun q a => Q q a ∧ K q) q :=
  hp.keepOnly (fun q c f r _ => hkeep q c f r) (only_of_forall (fun _ => trivial) p) hq

theorem Only.obeys (hp : p.Only (M.Idle q)) :
    p.Obeys M (fun q' _ => q' = q) q := by
  induction p with
  | ret a => rfl
  | call c k ih =>
    refine ⟨hp.1.1, fun f r => ?_⟩
    rw [hp.1.2 f r]
    exact ih r (hp.2 r)

theorem obeys_map {Q : σ → β → Prop} {f : α → β} :
    (f <$> p).Obeys M Q q ↔ p.Obeys M (fun q a => Q q (f a)) q :=
  obeys_bind

theorem Only.run_trace (hp : p.Only P) (fs : Faults F) (s : S) :
    ∀ e ∈ (p.run sv fs s).trace, P e.1 := by
  induction p generalizing fs s with
  | ret a =>
    intro e he
    match fs with
    | none :: _ => cases he
    | [] => cases he
    | some _ :: _ => cases he
  | call c k ih =>
    intro e he
    match fs with
    | none :: _ => cases he
    | [] =>
      obtain rfl | he := List.mem_cons.mp he
      · exact hp.1
      · exact ih _ (hp.2 _) [] _ e he
    | some f :: fs =>
      obtain rfl | he := List.mem_cons.mp he
      · exact hp.1
      · exact ih _ (hp.2 _) fs _ e he

/-- Calls of a kind that keeps an invariant lead to where it holds. -/
theorem Only.leads {T : Option F → Prop} {Inv : S → Prop}
    (hkeep : ∀ c s f, P c → Inv s → Inv (sv.settle c s f).2) (hp : p.Only P)
    (hs : Inv s) : p.Leads sv T (fun _ => Inv) s := by
  induction p generalizing s with
  | ret a => exact ⟨hs, fun _ => hs⟩
  | call c k ih => exact ⟨fun _ => hs, fun f _ => ih _ (hp.2 _) (hkeep c s f hp.1 hs)⟩

/-! ### Programs that can stop -/

/-- What a program that can stop ends with: `Q` of its result or `E` of its stop. -/
def Ends (Q : σ → α → Prop) (E : σ → ε → Prop) (q : σ) : Except ε α → Prop
  | .ok a => Q q a
  | .error e => E q e

def Follows (M : Monitor C A F σ) (Q : σ → α → Prop) (E : σ → ε → Prop) (q : σ)
    (x : ExceptT ε (Prog C A) α) : Prop :=
  x.run.Obeys M (Ends Q E) q

variable {E : σ → ε → Prop}

variable {f : α → ExceptT ε (Prog C A) β}

theorem follows_bind {Q : σ → β → Prop} :
    Follows M Q E q (x >>= f) ↔ Follows M (fun q a => Follows M Q E q (f a)) E q x := by
  unfold Follows
  rw [ExceptT.run_bind, obeys_bind]
  refine ⟨fun h => h.mono ?_, fun h => h.mono ?_⟩
  · rintro q' (e | a) h <;> exact h
  · rintro q' (e | a) h <;> exact h

theorem follows_lift :
    Follows M Q E q (liftM p : ExceptT ε (Prog C A) α) ↔ p.Obeys M Q q :=
  obeys_map

theorem Follows.mono {Q Q' : σ → α → Prop} {E' : σ → ε → Prop}
    (h : Follows M Q E q x) (hQ : ∀ q a, Q q a → Q' q a) (hE : ∀ q e, E q e → E' q e) :
    Follows M Q' E' q x :=
  Obeys.mono h fun q r => match r with
    | .ok a => hQ q a
    | .error e => hE q e

theorem follows_idle (hx : Only (M.Idle q) x.run)
    (hE : ∀ e, E q e) : Follows M (fun q' _ => q' = q) E q x :=
  hx.obeys.mono fun _ r hq => match r with
    | .ok _ => hq
    | .error e => hq ▸ hE e

/-- A first part that leaves the history state. -/
theorem follows_idle_bind {Q : σ → β → Prop} (hx : Only (M.Idle q) x.run) (hE : ∀ e, E q e)
    (hf : ∀ a, Follows M Q E q (f a)) : Follows M Q E q (x >>= f) := by
  rw [follows_bind]
  refine (follows_idle hx hE).mono (fun q' a hq => ?_) fun _ _ h => h
  rw [hq]
  exact hf a

theorem Only.bindStop (hx : Only P x.run) (hf : ∀ a, Only P (f a).run) :
    Only P (x >>= f).run := by
  rw [ExceptT.run_bind]
  refine hx.bind fun r => ?_
  cases r with
  | ok a => exact hf a
  | error e => trivial

theorem Only.lift (hp : p.Only P) :
    Only P (liftM p : ExceptT ε (Prog C A) α).run :=
  hp.map _

/-! ### Where programs that can stop lead -/

/-- A run that returned ended in `Q`, and one that stopped or crashed in `E`. -/
def Returned (Q : α → S → Prop) (E : S → Prop) : Option (Except ε α) → S → Prop
  | some (.ok a), s => Q a s
  | _, s => E s

/-- Whatever the turns are, the program returns in `Q`, or it stops or crashes in `E`. -/
def Ensures (sv : Service C A S F) (T : Option F → Prop) (Q : α → S → Prop) (E : S → Prop)
    (x : ExceptT ε (Prog C A) α) (s : S) : Prop :=
  x.run.Leads sv T (Returned Q E) s

section
variable {sv : Service C A S F} {T : Option F → Prop} {E : S → Prop} {s : S}

theorem Ensures.mono {Q Q' : α → S → Prop}
    (h : Ensures sv T Q E x s) (hQ : ∀ a s, Q a s → Q' a s) : Ensures sv T Q' E x s :=
  Leads.mono h fun r s hr => match r with
    | none => hr
    | some (.error _) => hr
    | some (.ok a) => hQ a s hr

theorem ensures_pure {Q : α → S → Prop} {a : α} (hQ : Q a s) (hE : E s) :
    Ensures sv T Q E (pure a : ExceptT ε (Prog C A) α) s :=
  ⟨hQ, fun _ => hE⟩

theorem ensures_throw {Q : α → S → Prop} {e : ε} (hE : E s) :
    Ensures sv T Q E (throw e : ExceptT ε (Prog C A) α) s :=
  ⟨hE, fun _ => hE⟩

theorem ensures_bind {P : α → S → Prop} {Q : β → S → Prop} (hx : Ensures sv T P E x s)
    (hf : ∀ a s, P a s → Ensures sv T Q E (f a) s) : Ensures sv T Q E (x >>= f) s := by
  unfold Ensures
  rw [ExceptT.run_bind]
  refine Leads.bind (Leads.mono hx fun r s hr => ?_)
  match r with
  | none => exact hr
  | some (.error e) => exact ⟨hr, fun _ => hr⟩
  | some (.ok a) => exact hf a s hr

theorem ensures_lift {P : α → S → Prop} (hp : p.Leads sv T (fun r s => r.elim (E s) (P · s)) s) :
    Ensures sv T P E (liftM p : ExceptT ε (Prog C A) α) s :=
  Leads.map (hp.mono fun r _ hr => match r with
    | none => hr
    | some _ => hr)

/-- Calls of a kind that keeps an invariant. -/
theorem Only.ensures (Inv : S → Prop) (hkeep : ∀ c s f, P c → Inv s → Inv (sv.settle c s f).2)
    (hE : ∀ s, Inv s → E s) (hx : Only P x.run) (hs : Inv s) :
    Ensures sv T (fun _ => Inv) E x s :=
  (hx.leads hkeep hs).mono fun r s hr => match r with
    | none => hE s hr
    | some (.error _) => hE s hr
    | some (.ok _) => hr

end

end Prog

end SesEmailAdapter.Lib
