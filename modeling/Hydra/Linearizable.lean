/-
Lean model of what two programs over the key store observe when they run at once (`Hydra.Sys`, interleaved call by
call), compared with running them one after the other.

A call touches the store when it is one of the six manager calls; `Generate` and the response writer's calls do not
(the generator outcomes are each thread's own). A program is `Local` when it never touches the store, whatever the
answers it gets, and `AtMostOnce` when every path touches it at most once. `Sys.calls` records the calls each thread
makes along a schedule; a schedule's `view` is the store it leaves and each thread's result and calls, and
`serialAB`, `serialBA` are the views of running one thread to its end, then the other.

Results, for every two programs and every schedule:
- `Local.run_world`: a program that never touches the store leaves it as it is, and computes the same from every
  store.
- `serialAB_eq_serialBA`: when thread `a` has no store call left, the two serial orders give the same view.
- `serialAB_step_a` (step lemma): a call of thread `a` keeps the view of running `a` first; `serialBA_step_a_local`:
  a call that does not touch the store also keeps the view of running `b` first.
- `view_serial` (linearizability, run lemma): two programs that each touch the store at most once, run under any
  schedule in which both finish, give the view of one of the two serial orders: the same store, and each program
  the same result and the same calls, in the same order, as when it runs alone.
-/
import Hydra.Prog

namespace Hydra

open Hydra.Jwk

/-- the call reads or writes the key store: the six manager calls -/
def Call.touchesStore : Call → Bool
  | .generate _ _ | .write _ => false
  | _ => true

namespace Prog

variable {α β : Type}

/-- the program never touches the store, whatever the answers it gets -/
def Local (p : Prog α) : Prop := p.Calls fun c => c.touchesStore = false

/-- every path of the program touches the store at most once, whatever the answers it gets -/
inductive AtMostOnce : Prog α → Prop
  | pure (a : α) : AtMostOnce (.pure a)
  | generate {alg kid k} : (∀ r, AtMostOnce (k r)) → AtMostOnce (.generate alg kid k)
  | write {r next} : AtMostOnce next → AtMostOnce (.write r next)
  | getKeySet {set k} : (∀ r, Local (k r)) → AtMostOnce (.getKeySet set k)
  | getKey {set kid k} : (∀ r, Local (k r)) → AtMostOnce (.getKey set kid k)
  | addKeySet {set keys k} : (∀ r, Local (k r)) → AtMostOnce (.addKeySet set keys k)
  | addKey {set key k} : (∀ r, Local (k r)) → AtMostOnce (.addKey set key k)
  | deleteKeySet {set k} : (∀ r, Local (k r)) → AtMostOnce (.deleteKeySet set k)
  | deleteKey {set kid k} : (∀ r, Local (k r)) → AtMostOnce (.deleteKey set kid k)

variable {p p' : Prog α} {f : α → Prog β}

theorem Local.atMostOnce (h : p.Local) : p.AtMostOnce := by
  induction h with
  | pure a => exact .pure a
  | generate _ _ ih => exact .generate ih
  | write _ _ ih => exact .write ih
  | getKeySet hc | getKey hc | addKeySet hc | addKey hc | deleteKeySet hc | deleteKey hc => cases hc

theorem Local.bind (hp : p.Local) (hf : ∀ a, (f a).Local) : (p >>= f).Local := Calls.bind hp hf

/-- a program that touches the store at most once, then one that never does -/
theorem AtMostOnce.bind_local (hp : p.AtMostOnce) (hf : ∀ a, (f a).Local) : (p >>= f).AtMostOnce := by
  show (p.bind f).AtMostOnce
  induction hp with
  | pure a => exact (hf a).atMostOnce
  | generate _ ih => exact .generate ih
  | write _ ih => exact .write ih
  | getKeySet hk => exact .getKeySet fun r => (hk r).bind hf
  | getKey hk => exact .getKey fun r => (hk r).bind hf
  | addKeySet hk => exact .addKeySet fun r => (hk r).bind hf
  | addKey hk => exact .addKey fun r => (hk r).bind hf
  | deleteKeySet hk => exact .deleteKeySet fun r => (hk r).bind hf
  | deleteKey hk => exact .deleteKey fun r => (hk r).bind hf

/-- a program that never touches the store, then one that touches it at most once -/
theorem Local.bind_atMostOnce (hp : p.Local) (hf : ∀ a, (f a).AtMostOnce) : (p >>= f).AtMostOnce := by
  show (p.bind f).AtMostOnce
  induction hp with
  | pure a => exact hf a
  | generate _ _ ih => exact .generate ih
  | write _ _ ih => exact .write ih
  | getKeySet hc | getKey hc | addKeySet hc | addKey hc | deleteKeySet hc | deleteKey hc => cases hc

/-! ## One call -/

variable {w w' : World} {c : Call}

/-- a call that does not touch the store leaves it alone, and does the same from every store -/
theorem step_of_local {st : KeyStore} {ent : Entropy} (hs : p.step ⟨st, ent⟩ = some (p', w', c))
    (hc : c.touchesStore = false) : w'.store = st ∧ ∀ st', p.step ⟨st', ent⟩ = some (p', ⟨st', w'.entropy⟩, c) := by
  cases p <;> simp only [step, Option.some.injEq, Prod.mk.injEq, reduceCtorEq] at hs <;>
    obtain ⟨rfl, rfl, rfl⟩ := hs <;> first | exact ⟨rfl, fun _ => rfl⟩ | cases hc

theorem Local.step (h : p.Local) (hs : p.step w = some (p', w', c)) : c.touchesStore = false ∧ p'.Local := by
  cases h with
  | pure a => cases hs
  | generate hc hk =>
    simp only [Prog.step, Option.some.injEq, Prod.mk.injEq] at hs
    obtain ⟨rfl, rfl, rfl⟩ := hs
    exact ⟨hc, hk _⟩
  | write hc hn =>
    simp only [Prog.step, Option.some.injEq, Prod.mk.injEq] at hs
    obtain ⟨rfl, rfl, rfl⟩ := hs
    exact ⟨hc, hn⟩
  | getKeySet hc | getKey hc | addKeySet hc | addKey hc | deleteKeySet hc | deleteKey hc => cases hc

/-- after a call the rest touches the store at most once, and not at all when the call touched it -/
theorem AtMostOnce.step (h : p.AtMostOnce) (hs : p.step w = some (p', w', c)) :
    p'.AtMostOnce ∧ (c.touchesStore = true → p'.Local) := by
  cases h <;> simp only [Prog.step, Option.some.injEq, Prod.mk.injEq, reduceCtorEq] at hs <;>
    obtain ⟨rfl, rfl, rfl⟩ := hs
  case generate hk => exact ⟨hk _, fun h => by cases h⟩
  case write hn => exact ⟨hn, fun h => by cases h⟩
  all_goals exact ⟨(‹∀ r, Local _› _).atMostOnce, fun _ => ‹∀ r, Local _› _⟩

/-- **Frame.** A program that never touches the store leaves it as it is, and computes the same result and calls,
and draws the same generator outcomes, from every store. -/
theorem Local.run_world (h : p.Local) (st st' : KeyStore) (ent : Entropy) :
    (p.run ⟨st, ent⟩).world.store = st ∧
      p.run ⟨st', ent⟩ = ⟨(p.run ⟨st, ent⟩).result, ⟨st', (p.run ⟨st, ent⟩).world.entropy⟩, (p.run ⟨st, ent⟩).calls⟩ := by
  induction h generalizing ent with
  | pure a => exact ⟨rfl, rfl⟩
  | generate _ _ ih =>
    obtain ⟨h₁, h₂⟩ := ih (ent 0) (fun n => ent (n + 1))
    exact ⟨h₁, by simp only [run_generate, World.draw, h₂]; rfl⟩
  | write _ _ ih =>
    obtain ⟨h₁, h₂⟩ := ih ent
    exact ⟨h₁, by simp only [run_write, h₂]; rfl⟩
  | getKeySet hc | getKey hc | addKeySet hc | addKey hc | deleteKeySet hc | deleteKey hc => cases hc

end Prog

/-! ## Two threads -/

/-- a thread that has a result has finished: its program is `pure` -/
theorem Thread.eq_pure_of_result {α : Type} {t : Thread α} (h : t.result.isSome) : ∃ r, t.prog = .pure r := by
  rw [Thread.result] at h
  split at h
  · exact ⟨_, ‹_›⟩
  · cases h

namespace Sys

variable {α : Type} {s : Sys α}

/-- the call thread `i` makes at its next step, if it has one -/
def nextCall (s : Sys α) : Tid → Option Call
  | .a => (s.a.prog.step ⟨s.store, s.a.entropy⟩).map (·.2.2)
  | .b => (s.b.prog.step ⟨s.store, s.b.entropy⟩).map (·.2.2)

/-- the calls thread `i` makes along a schedule, in order -/
def calls (s : Sys α) (i : Tid) : List Tid → List Call
  | [] => []
  | j :: σ => (if j = i then (s.nextCall j).toList else []) ++ (s.step j).calls i σ

/-- what two threads leave: the store, and each thread's result (once it has finished) and calls -/
structure View (α : Type) where
  store : KeyStore
  a : Option α × List Call
  b : Option α × List Call

/-- the view of a schedule -/
def view (s : Sys α) (σ : List Tid) : View α :=
  ⟨(s.run σ).store, ((s.run σ).a.result, s.calls .a σ), ((s.run σ).b.result, s.calls .b σ)⟩

/-- the view of running thread `a` alone to its end, then thread `b` -/
def serialAB (s : Sys α) : View α :=
  let oa := s.a.prog.run ⟨s.store, s.a.entropy⟩
  let ob := s.b.prog.run ⟨oa.world.store, s.b.entropy⟩
  ⟨ob.world.store, (some oa.result, oa.calls), (some ob.result, ob.calls)⟩

/-- the view of running thread `b` alone to its end, then thread `a` -/
def serialBA (s : Sys α) : View α :=
  let ob := s.b.prog.run ⟨s.store, s.b.entropy⟩
  let oa := s.a.prog.run ⟨ob.world.store, s.a.entropy⟩
  ⟨oa.world.store, (some oa.result, oa.calls), (some ob.result, ob.calls)⟩

/-- the view with `cs` made first by thread `a` -/
def View.consA (cs : List Call) (v : View α) : View α := ⟨v.store, (v.a.1, cs ++ v.a.2), v.b⟩

/-- the view with `cs` made first by thread `b` -/
def View.consB (cs : List Call) (v : View α) : View α := ⟨v.store, v.a, (v.b.1, cs ++ v.b.2)⟩

/-- the view with the threads' names exchanged -/
def View.swap (v : View α) : View α := ⟨v.store, v.b, v.a⟩

@[simp] theorem View.swap_consA (cs : List Call) (v : View α) : (v.consA cs).swap = v.swap.consB cs := rfl

@[simp] theorem View.swap_swap (v : View α) : v.swap.swap = v := rfl

@[simp] theorem View.consA_nil (v : View α) : v.consA [] = v := rfl

@[simp] theorem View.consB_nil (v : View α) : v.consB [] = v := rfl

theorem serialAB_swap : s.swap.serialAB = s.serialBA.swap := rfl

theorem serialBA_swap : s.swap.serialBA = s.serialAB.swap := rfl

theorem view_cons_a (σ : List Tid) : s.view (.a :: σ) = ((s.step .a).view σ).consA (s.nextCall .a).toList := rfl

theorem view_cons_b (σ : List Tid) : s.view (.b :: σ) = ((s.step .b).view σ).consB (s.nextCall .b).toList := rfl

variable {p' : Prog α} {w' : World} {c : Call}

theorem step_a_of_none (h : s.a.prog.step ⟨s.store, s.a.entropy⟩ = none) : s.step .a = s := by
  simp [step, Thread.step, h]

theorem step_a_of_some (h : s.a.prog.step ⟨s.store, s.a.entropy⟩ = some (p', w', c)) :
    s.step .a = ⟨w'.store, ⟨p', w'.entropy⟩, s.b⟩ := by
  simp [step, Thread.step, h]

/-- **Step lemma.** A call of thread `a` keeps the view of running `a` first. -/
theorem serialAB_step_a (s : Sys α) : s.serialAB = (s.step .a).serialAB.consA (s.nextCall .a).toList := by
  cases h : s.a.prog.step ⟨s.store, s.a.entropy⟩ with
  | none => simp [step_a_of_none h, nextCall, h, View.consA]
  | some r =>
    obtain ⟨p', ⟨st', ent'⟩, c⟩ := r
    simp only [serialAB, step_a_of_some h, nextCall, h, Prog.run_eq_of_step h, Option.map_some', Option.toList_some,
      Outcome.after, View.consA, List.singleton_append]

/-- a call of thread `a` that does not touch the store also keeps the view of running `b` first -/
theorem serialBA_step_a_local (h : s.a.prog.step ⟨s.store, s.a.entropy⟩ = some (p', w', c))
    (hc : c.touchesStore = false) : s.serialBA = (s.step .a).serialBA.consA [c] := by
  obtain ⟨hst, hany⟩ := Prog.step_of_local h hc
  simp only [serialBA, step_a_of_some h, hst, Prog.run_eq_of_step (hany _), Outcome.after, View.consA,
    List.singleton_append]

/-- **Commutation.** When thread `a` has no store call left, running it first or last gives the same view. -/
theorem serialAB_eq_serialBA (h : s.a.prog.Local) : s.serialAB = s.serialBA := by
  obtain ⟨h₁, h₂⟩ := h.run_world s.store (s.b.prog.run ⟨s.store, s.b.entropy⟩).world.store s.a.entropy
  simp only [serialAB, serialBA, h₁, h₂]

/-! ## Thread `b`, by exchanging the threads -/

theorem serialBA_step_b (s : Sys α) : s.serialBA = (s.step .b).serialBA.consB (s.nextCall .b).toList := by
  have h := congrArg View.swap (serialAB_step_a s.swap)
  rwa [serialAB_swap, ← swap_step_b, serialAB_swap, View.swap_consA, View.swap_swap, View.swap_swap] at h

theorem serialAB_step_b_local (h : s.b.prog.step ⟨s.store, s.b.entropy⟩ = some (p', w', c))
    (hc : c.touchesStore = false) : s.serialAB = (s.step .b).serialAB.consB [c] := by
  have h' := congrArg View.swap (serialBA_step_a_local (s := s.swap) h hc)
  rwa [serialBA_swap, ← swap_step_b, serialBA_swap, View.swap_consA, View.swap_swap, View.swap_swap] at h'

theorem serialAB_eq_serialBA_of_b (h : s.b.prog.Local) : s.serialAB = s.serialBA :=
  congrArg View.swap (serialAB_eq_serialBA (s := s.swap) h).symm

/-! ## Every schedule -/

/-- **Linearizability.** Two programs that each touch the store at most once, whatever the answers, run at once
under any schedule in which both finish, leave the store, and give each program its result and its calls, as running
them one after the other does, in one of the two orders. -/
theorem view_serial {s : Sys α} (ha : s.a.prog.AtMostOnce) (hb : s.b.prog.AtMostOnce) {σ : List Tid}
    (hfa : (s.run σ).a.result.isSome) (hfb : (s.run σ).b.result.isSome) :
    s.view σ = s.serialAB ∨ s.view σ = s.serialBA := by
  induction σ generalizing s with
  | nil =>
    obtain ⟨ra, hra⟩ := Thread.eq_pure_of_result (t := s.a) hfa
    obtain ⟨rb, hrb⟩ := Thread.eq_pure_of_result (t := s.b) hfb
    left
    simp [view, serialAB, calls, run, Thread.result, hra, hrb]
  | cons j σ ih =>
    cases j with
    | a =>
      rw [view_cons_a, serialAB_step_a s]
      cases h : s.a.prog.step ⟨s.store, s.a.entropy⟩ with
      | none =>
        have hs := step_a_of_none h
        have ih' := ih (s := s.step .a) (by rwa [hs]) (by rwa [hs]) hfa hfb
        simp only [nextCall, h, Option.map_none', Option.toList_none, View.consA_nil]
        rwa [hs] at ih' ⊢
      | some r =>
        obtain ⟨p', w', c⟩ := r
        obtain ⟨ha', hloc⟩ := ha.step h
        have hs := step_a_of_some h
        have ih' := ih (s := s.step .a) (by rw [hs]; exact ha') (by rw [hs]; exact hb) hfa hfb
        simp only [nextCall, h, Option.map_some', Option.toList_some]
        by_cases hc : c.touchesStore
        · -- thread `a` has made its store call: both orders agree from here
          have heq : (s.step .a).serialAB = (s.step .a).serialBA := by
            apply serialAB_eq_serialBA
            rw [hs]; exact hloc hc
          exact .inl (congrArg _ (ih'.elim id fun h' => h'.trans heq.symm))
        · rw [serialBA_step_a_local h (by simpa using hc)]
          exact ih'.imp (congrArg _) (congrArg _)
    | b =>
      rw [view_cons_b, serialBA_step_b s]
      cases h : s.b.prog.step ⟨s.store, s.b.entropy⟩ with
      | none =>
        have hs : s.step .b = s := by simp [step, Thread.step, h]
        have ih' := ih (s := s.step .b) (by rwa [hs]) (by rwa [hs]) hfa hfb
        simp only [nextCall, h, Option.map_none', Option.toList_none, View.consB_nil]
        rwa [hs] at ih' ⊢
      | some r =>
        obtain ⟨p', w', c⟩ := r
        obtain ⟨hb', hloc⟩ := hb.step h
        have hs : s.step .b = ⟨w'.store, s.a, ⟨p', w'.entropy⟩⟩ := by simp [step, Thread.step, h]
        have ih' := ih (s := s.step .b) (by rw [hs]; exact ha) (by rw [hs]; exact hb') hfa hfb
        simp only [nextCall, h, Option.map_some', Option.toList_some]
        by_cases hc : c.touchesStore
        · -- thread `b` has made its store call: both orders agree from here
          have heq : (s.step .b).serialAB = (s.step .b).serialBA := by
            apply serialAB_eq_serialBA_of_b
            rw [hs]; exact hloc hc
          exact .inr (congrArg _ (ih'.elim (·.trans heq) id))
        · rw [serialAB_step_b_local h (by simpa using hc)]
          exact ih'.imp (congrArg _) (congrArg _)

end Sys

end Hydra
