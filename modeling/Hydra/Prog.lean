/-
Lean model of what the key code of `jwk/handler.go` and `cmd/server/helper_keys.go` does to the world: a program
(`Prog`) is a tree of calls on the key manager (`jwk.Manager`), on a key generator (`KeyGenerator.Generate`) and on
the response writer (herodot's `Write`, `WriteCreated`, `WriteError`, `WriteErrorCode`, and `w.WriteHeader`), each
call continued by a function of its answer. The Go code is written over it in do-notation.

`run` is the sequential semantics: the manager calls act on the `KeyStore`, a generator call takes the next outcome
of the world's `Entropy` (the generators are absent from src/; their outcomes are an arbitrary stream), and every
call is recorded, in order, in `Outcome.calls`. `step` performs one call, so that two programs sharing one store can
be interleaved call by call (`Hydra.Server.Provisioning`).

Results: `run_bind` (running `p >>= f` runs `p`, then `f` on its result), `run_eq_of_step` (a step, then the rest of
the run, is the run), `run_store` (the store a run leaves is its log of calls applied in order to the store it started from), and the simulation of the interleaved semantics by the sequential one: `soloA_step_a` (step lemma) and
`soloA_run_a` (run lemma): a thread scheduled alone computes what `run` computes for its program.
-/
import Hydra.Jwk.Manager
import Hydra.Json.Decode

namespace Hydra

open Hydra.Jwk Hydra.Json

/-- an error a handler hands to herodot -/
inductive HandlerError where
  | key (e : KeyError)
  | decode (e : DecodeError)
  /-- `errors.Errorf("Generator %s unknown", alg)` -/
  | unknownGenerator (alg : String)
deriving DecidableEq, Repr

/-- the status code herodot's `WriteError` derives from an error (JSON errors carry none: 500) -/
def HandlerError.status : HandlerError → Nat
  | .key e => e.status
  | _ => 500

/-- the JSON body of a response -/
inductive Body where
  | keySet (keys : List JSONWebKey)
  | key (k : JSONWebKey)
deriving DecidableEq, Repr

/-- a response written by a handler -/
inductive Response where
  /-- `H.Write`: 200 -/
  | ok (body : Body)
  /-- `H.WriteCreated`: 201 with a `Location` -/
  | created (location : String) (body : Body)
  /-- `H.WriteError`, `H.WriteErrorCode` -/
  | error (status : Nat) (err : HandlerError)
  /-- `w.WriteHeader(http.StatusNoContent)` -/
  | noContent
deriving DecidableEq, Repr

/-- one call a program makes, as recorded by `run` -/
inductive Call where
  | getKeySet (set : String)
  | getKey (set kid : String)
  | addKeySet (set : String) (keys : List JSONWebKey)
  | addKey (set : String) (key : JSONWebKey)
  | deleteKeySet (set : String)
  | deleteKey (set kid : String)
  | generate (alg kid : String)
  | write (r : Response)
deriving DecidableEq, Repr

/-- the set the call may change: `AddKeySet`, `AddKey` and the deletes change one set, the other calls none -/
def Call.changes : Call → Option String
  | .addKeySet set _ | .addKey set _ | .deleteKeySet set | .deleteKey set _ => some set
  | _ => none

/-- the call may remove a key -/
def Call.deletes : Call → Bool
  | .deleteKeySet _ | .deleteKey .. => true
  | _ => false

/-- what the call does to the store: the manager calls act on it (a refused `AddKeySet` or `AddKey` leaves it as it
was), the other calls leave it alone -/
def Call.apply (st : KeyStore) : Call → KeyStore
  | .addKeySet set keys => match st.addKeySet set keys with
    | .ok st' => st'
    | .error _ => st
  | .addKey set key => match st.addKey set key with
    | .ok st' => st'
    | .error _ => st
  | .deleteKeySet set => st.deleteKeySet set
  | .deleteKey set kid => st.deleteKey set kid
  | _ => st

namespace Call

variable {c : Call} {s : String}

theorem apply_of_changes_none (h : c.changes = none) (st : KeyStore) : c.apply st = st := by
  cases c <;> simp_all [changes, apply]

theorem apply_sets_of_ne (h : c.changes ≠ some s) (st : KeyStore) : (c.apply st).sets s = st.sets s := by
  cases c with
  | addKeySet set keys | addKey set keys =>
    have hs : s ≠ set := by simpa [changes, eq_comm] using h
    simp only [apply, KeyStore.addKey]
    split
    · exact (KeyStore.addKeySet_sets ‹_›).2 s hs
    · rfl
  | deleteKeySet set | deleteKey set kid =>
    simp only [apply, KeyStore.deleteKeySet, KeyStore.deleteKey]
    exact KeyStore.update_sets_of_ne (by simpa [changes, eq_comm] using h)
  | _ => rfl

theorem apply_grows (h : c.deletes = false) (st : KeyStore) (s : String) : st.sets s <+: (c.apply st).sets s := by
  cases c with
  | addKeySet set keys | addKey set keys =>
    simp only [apply, KeyStore.addKey]
    split
    · rename_i st' hst
      by_cases hs : s = set
      · subst hs; rw [(KeyStore.addKeySet_sets hst).1]; exact List.prefix_append _ _
      · exact (KeyStore.addKeySet_sets hst).2 s hs ▸ List.prefix_refl _
    · exact List.prefix_refl _
  | deleteKeySet | deleteKey => simp [deletes] at h
  | _ => exact List.prefix_refl _

variable {cs : List Call}

theorem foldl_apply_of_changes_none (h : ∀ c ∈ cs, c.changes = none) (st : KeyStore) : cs.foldl apply st = st := by
  induction cs generalizing st with
  | nil => rfl
  | cons c cs ih =>
    simp only [List.mem_cons, forall_eq_or_imp] at h
    rw [List.foldl_cons, apply_of_changes_none h.1, ih h.2]

theorem foldl_apply_sets_of_ne (h : ∀ c ∈ cs, c.changes ≠ some s) (st : KeyStore) :
    (cs.foldl apply st).sets s = st.sets s := by
  induction cs generalizing st with
  | nil => rfl
  | cons c cs ih =>
    simp only [List.mem_cons, forall_eq_or_imp] at h
    rw [List.foldl_cons, ih h.2, apply_sets_of_ne h.1]

theorem foldl_apply_grows (h : ∀ c ∈ cs, c.deletes = false) (st : KeyStore) (s : String) :
    st.sets s <+: (cs.foldl apply st).sets s := by
  induction cs generalizing st with
  | nil => exact List.prefix_refl _
  | cons c cs ih =>
    simp only [List.mem_cons, forall_eq_or_imp] at h
    exact (apply_grows h.1 st s).trans (ih h.2 _)

end Call

/-- the responses among the calls -/
def responses : List Call → List Response
  | [] => []
  | .write r :: cs => r :: responses cs
  | _ :: cs => responses cs

@[simp] theorem responses_append (cs cs' : List Call) : responses (cs ++ cs') = responses cs ++ responses cs' := by
  induction cs with
  | nil => rfl
  | cons c cs ih => cases c <;> simp [responses, ih]

theorem responses_ne_nil {cs : List Call} {r : Response} (h : Call.write r ∈ cs) : responses cs ≠ [] := by
  induction cs with
  | nil => cases h
  | cons c cs ih =>
    rcases List.mem_cons.1 h with rfl | hcs
    · simp [responses]
    · cases c <;> simp [responses, ih hcs]

/-- a program over the key manager, the key generators and the response writer -/
inductive Prog (α : Type) where
  | pure (a : α)
  | getKeySet (set : String) (k : Except KeyError (List JSONWebKey) → Prog α)
  | getKey (set kid : String) (k : Except KeyError (List JSONWebKey) → Prog α)
  | addKeySet (set : String) (keys : List JSONWebKey) (k : Except KeyError Unit → Prog α)
  | addKey (set : String) (key : JSONWebKey) (k : Except KeyError Unit → Prog α)
  | deleteKeySet (set : String) (k : Except KeyError Unit → Prog α)
  | deleteKey (set kid : String) (k : Except KeyError Unit → Prog α)
  | generate (alg kid : String) (k : Except KeyError (List JSONWebKey) → Prog α)
  | write (r : Response) (next : Prog α)

namespace Prog

variable {α β γ : Type}

def bind : Prog α → (α → Prog β) → Prog β
  | .pure a, f => f a
  | .getKeySet set k, f => .getKeySet set fun r => (k r).bind f
  | .getKey set kid k, f => .getKey set kid fun r => (k r).bind f
  | .addKeySet set keys k, f => .addKeySet set keys fun r => (k r).bind f
  | .addKey set key k, f => .addKey set key fun r => (k r).bind f
  | .deleteKeySet set k, f => .deleteKeySet set fun r => (k r).bind f
  | .deleteKey set kid k, f => .deleteKey set kid fun r => (k r).bind f
  | .generate alg kid k, f => .generate alg kid fun r => (k r).bind f
  | .write r next, f => .write r (next.bind f)

instance : Monad Prog where
  pure := .pure
  bind := Prog.bind

@[simp] theorem pure_bind (a : α) (f : α → Prog β) : (Prog.pure a).bind f = f a := rfl

@[simp] theorem pure_bind' (a : α) (f : α → Prog β) : (Prog.pure a >>= f) = f a := rfl

@[simp] theorem pure_eq (a : α) : (Pure.pure a : Prog α) = Prog.pure a := rfl

section
variable {set kid alg : String} {keys : List JSONWebKey} {key : JSONWebKey} {r : Response} (f : α → Prog β)

@[simp] theorem getKeySet_bind (k : Except KeyError (List JSONWebKey) → Prog α) :
    Prog.getKeySet set k >>= f = .getKeySet set fun r => k r >>= f := rfl
@[simp] theorem getKey_bind (k : Except KeyError (List JSONWebKey) → Prog α) :
    Prog.getKey set kid k >>= f = .getKey set kid fun r => k r >>= f := rfl
@[simp] theorem addKeySet_bind (k : Except KeyError Unit → Prog α) :
    Prog.addKeySet set keys k >>= f = .addKeySet set keys fun r => k r >>= f := rfl
@[simp] theorem addKey_bind (k : Except KeyError Unit → Prog α) :
    Prog.addKey set key k >>= f = .addKey set key fun r => k r >>= f := rfl
@[simp] theorem deleteKeySet_bind (k : Except KeyError Unit → Prog α) :
    Prog.deleteKeySet set k >>= f = .deleteKeySet set fun r => k r >>= f := rfl
@[simp] theorem deleteKey_bind (k : Except KeyError Unit → Prog α) :
    Prog.deleteKey set kid k >>= f = .deleteKey set kid fun r => k r >>= f := rfl
@[simp] theorem generate_bind (k : Except KeyError (List JSONWebKey) → Prog α) :
    Prog.generate alg kid k >>= f = .generate alg kid fun r => k r >>= f := rfl
@[simp] theorem write_bind (next : Prog α) : Prog.write r next >>= f = .write r (next >>= f) := rfl

end

theorem bind_assoc (p : Prog α) (f : α → Prog β) (g : β → Prog γ) :
    (p >>= f) >>= g = p >>= fun x => f x >>= g := by
  show (p.bind f).bind g = p.bind fun x => (f x).bind g
  induction p with
  | pure a => rfl
  | write r next ih => simp only [bind, ih]
  | _ => simp only [bind, *]

end Prog

/-! ## The calls, as the Go code makes them -/

namespace Manager

def getKeySet (set : String) : Prog (Except KeyError (List JSONWebKey)) := .getKeySet set .pure
def getKey (set kid : String) : Prog (Except KeyError (List JSONWebKey)) := .getKey set kid .pure
def addKeySet (set : String) (keys : List JSONWebKey) : Prog (Except KeyError Unit) := .addKeySet set keys .pure
def addKey (set : String) (key : JSONWebKey) : Prog (Except KeyError Unit) := .addKey set key .pure
def deleteKeySet (set : String) : Prog (Except KeyError Unit) := .deleteKeySet set .pure
def deleteKey (set kid : String) : Prog (Except KeyError Unit) := .deleteKey set kid .pure

variable {β : Type} {set kid : String} {keys : List JSONWebKey} {key : JSONWebKey}

@[simp] theorem getKeySet_bind (f : Except KeyError (List JSONWebKey) → Prog β) :
    getKeySet set >>= f = .getKeySet set f := rfl
@[simp] theorem getKey_bind (f : Except KeyError (List JSONWebKey) → Prog β) :
    getKey set kid >>= f = .getKey set kid f := rfl
@[simp] theorem addKeySet_bind (f : Except KeyError Unit → Prog β) :
    addKeySet set keys >>= f = .addKeySet set keys f := rfl
@[simp] theorem addKey_bind (f : Except KeyError Unit → Prog β) : addKey set key >>= f = .addKey set key f := rfl
@[simp] theorem deleteKeySet_bind (f : Except KeyError Unit → Prog β) :
    deleteKeySet set >>= f = .deleteKeySet set f := rfl
@[simp] theorem deleteKey_bind (f : Except KeyError Unit → Prog β) :
    deleteKey set kid >>= f = .deleteKey set kid f := rfl

end Manager

/-- `generator.Generate(kid)` for the generator of algorithm `alg` -/
def Generator.generate (alg kid : String) : Prog (Except KeyError (List JSONWebKey)) := .generate alg kid .pure

@[simp] theorem Generator.generate_bind {β : Type} {alg kid : String} (f : Except KeyError (List JSONWebKey) → Prog β) :
    Generator.generate alg kid >>= f = .generate alg kid f := rfl

namespace Writer

/-- `H.Write` -/
def write (b : Body) : Prog Unit := .write (.ok b) (.pure ())
/-- `H.WriteCreated` -/
def writeCreated (location : String) (b : Body) : Prog Unit := .write (.created location b) (.pure ())
/-- `H.WriteError` -/
def writeError (e : HandlerError) : Prog Unit := .write (.error e.status e) (.pure ())
/-- `H.WriteErrorCode` -/
def writeErrorCode (code : Nat) (e : HandlerError) : Prog Unit := .write (.error code e) (.pure ())
/-- `w.WriteHeader(http.StatusNoContent)` -/
def noContent : Prog Unit := .write .noContent (.pure ())

end Writer

/-! ## Sequential semantics -/

/-- the outcomes of successive `Generate` calls -/
abbrev Entropy := Nat → Except KeyError (List JSONWebKey)

/-- what a program runs against -/
structure World where
  store : KeyStore
  entropy : Entropy

/-- the world after one generator call -/
def World.draw (w : World) : World := { w with entropy := fun n => w.entropy (n + 1) }

@[simp] theorem World.draw_store (w : World) : w.draw.store = w.store := rfl

/-- a finished run: the result, the world after it, and the calls made, in order -/
structure Outcome (α : Type) where
  result : α
  world : World
  calls : List Call

/-- record `c` before the calls of `o` -/
def Outcome.after {α : Type} (c : Call) (o : Outcome α) : Outcome α := { o with calls := c :: o.calls }

@[simp] theorem Outcome.after_result {α : Type} (c : Call) (o : Outcome α) : (o.after c).result = o.result := rfl
@[simp] theorem Outcome.after_world {α : Type} (c : Call) (o : Outcome α) : (o.after c).world = o.world := rfl
@[simp] theorem Outcome.after_calls {α : Type} (c : Call) (o : Outcome α) : (o.after c).calls = c :: o.calls := rfl

namespace Prog

variable {α β : Type}

/-- the world after an `AddKeySet`, with its answer -/
def addResult (w : World) : Except KeyError KeyStore → Except KeyError Unit × World
  | .ok st => (.ok (), { w with store := st })
  | .error e => (.error e, w)

/-- one call of the program: the rest of the program, the world after the call, and the call -/
def step : Prog α → World → Option (Prog α × World × Call)
  | .pure _, _ => none
  | .getKeySet set k, w => some (k (w.store.getKeySet set), w, .getKeySet set)
  | .getKey set kid k, w => some (k (w.store.getKey set kid), w, .getKey set kid)
  | .addKeySet set keys k, w =>
    let r := addResult w (w.store.addKeySet set keys); some (k r.1, r.2, .addKeySet set keys)
  | .addKey set key k, w =>
    let r := addResult w (w.store.addKey set key); some (k r.1, r.2, .addKey set key)
  | .deleteKeySet set k, w => some (k (.ok ()), { w with store := w.store.deleteKeySet set }, .deleteKeySet set)
  | .deleteKey set kid k, w =>
    some (k (.ok ()), { w with store := w.store.deleteKey set kid }, .deleteKey set kid)
  | .generate alg kid k, w => some (k (w.entropy 0), w.draw, .generate alg kid)
  | .write r next, w => some (next, w, .write r)

/-- run a program to its end -/
def run : Prog α → World → Outcome α
  | .pure a, w => ⟨a, w, []⟩
  | .getKeySet set k, w => ((k (w.store.getKeySet set)).run w).after (.getKeySet set)
  | .getKey set kid k, w => ((k (w.store.getKey set kid)).run w).after (.getKey set kid)
  | .addKeySet set keys k, w =>
    let r := addResult w (w.store.addKeySet set keys); ((k r.1).run r.2).after (.addKeySet set keys)
  | .addKey set key k, w =>
    let r := addResult w (w.store.addKey set key); ((k r.1).run r.2).after (.addKey set key)
  | .deleteKeySet set k, w =>
    ((k (.ok ())).run { w with store := w.store.deleteKeySet set }).after (.deleteKeySet set)
  | .deleteKey set kid k, w =>
    ((k (.ok ())).run { w with store := w.store.deleteKey set kid }).after (.deleteKey set kid)
  | .generate alg kid k, w => ((k (w.entropy 0)).run w.draw).after (.generate alg kid)
  | .write r next, w => (next.run w).after (.write r)

theorem run_eq_of_step {p p' : Prog α} {w w' : World} {c : Call} (h : p.step w = some (p', w', c)) :
    p.run w = (p'.run w').after c := by
  cases p <;> simp only [step, Option.some.injEq, Prod.mk.injEq, reduceCtorEq] at h <;>
    obtain ⟨rfl, rfl, rfl⟩ := h <;> rfl

@[simp] theorem run_pure (a : α) (w : World) : (Prog.pure a).run w = ⟨a, w, []⟩ := rfl

section
variable {set kid alg : String} {keys : List JSONWebKey} {key : JSONWebKey} {r : Response} (w : World)

@[simp] theorem run_getKeySet (k : Except KeyError (List JSONWebKey) → Prog α) :
    (Prog.getKeySet set k).run w = ((k (w.store.getKeySet set)).run w).after (.getKeySet set) := rfl
@[simp] theorem run_getKey (k : Except KeyError (List JSONWebKey) → Prog α) :
    (Prog.getKey set kid k).run w = ((k (w.store.getKey set kid)).run w).after (.getKey set kid) := rfl
@[simp] theorem run_addKeySet (k : Except KeyError Unit → Prog α) :
    (Prog.addKeySet set keys k).run w =
      let r := addResult w (w.store.addKeySet set keys); ((k r.1).run r.2).after (.addKeySet set keys) := rfl
@[simp] theorem run_addKey (k : Except KeyError Unit → Prog α) :
    (Prog.addKey set key k).run w =
      let r := addResult w (w.store.addKey set key); ((k r.1).run r.2).after (.addKey set key) := rfl
@[simp] theorem run_deleteKeySet (k : Except KeyError Unit → Prog α) :
    (Prog.deleteKeySet set k).run w =
      ((k (.ok ())).run { w with store := w.store.deleteKeySet set }).after (.deleteKeySet set) := rfl
@[simp] theorem run_deleteKey (k : Except KeyError Unit → Prog α) :
    (Prog.deleteKey set kid k).run w =
      ((k (.ok ())).run { w with store := w.store.deleteKey set kid }).after (.deleteKey set kid) := rfl
@[simp] theorem run_generate (k : Except KeyError (List JSONWebKey) → Prog α) :
    (Prog.generate alg kid k).run w = ((k (w.entropy 0)).run w.draw).after (.generate alg kid) := rfl
@[simp] theorem run_write (next : Prog α) : (Prog.write r next).run w = (next.run w).after (.write r) := rfl

@[simp] theorem addResult_ok (st : KeyStore) : addResult w (.ok st) = (.ok (), { w with store := st }) := rfl
@[simp] theorem addResult_error (e : KeyError) : addResult w (.error e) = (.error e, w) := rfl

end

theorem run_bind (p : Prog α) (f : α → Prog β) (w : World) :
    (p >>= f).run w =
      let o := p.run w; let o' := (f o.result).run o.world; ⟨o'.result, o'.world, o.calls ++ o'.calls⟩ := by
  show (p.bind f).run w = _
  induction p generalizing w with
  | pure a => rfl
  | write r next ih => simp only [bind, run, Outcome.after, ih, List.cons_append]
  | _ => simp only [bind, run, Outcome.after, *, List.cons_append]

theorem step_bind {p p' : Prog α} {w w' : World} {c : Call} (f : α → Prog β) (h : p.step w = some (p', w', c)) :
    (p >>= f).step w = some (p' >>= f, w', c) := by
  cases p <;> simp only [step, Option.some.injEq, Prod.mk.injEq, reduceCtorEq] at h <;>
    obtain ⟨rfl, rfl, rfl⟩ := h <;> rfl

/-- **The log determines the store.** The store a run leaves is the run's calls applied, in order, to the store it
started from. -/
theorem run_store (p : Prog α) (w : World) : (p.run w).world.store = (p.run w).calls.foldl Call.apply w.store := by
  induction p generalizing w with
  | pure a => rfl
  | getKeySet set k ih | getKey set kid k ih | generate alg kid k ih => exact ih _ _
  | write r next ih => exact ih _
  | addKeySet set keys k ih | addKey set keys k ih =>
    simp only [run, Outcome.after_world, Outcome.after_calls, List.foldl_cons, ih]
    congr 1
    simp only [Call.apply, KeyStore.addKey]
    split <;> simp [*]
  | deleteKeySet set k ih | deleteKey set kid k ih => exact ih _ _

/-! ## What a program can do, whatever the answers it gets -/

/-- every call the program can make, whatever the answers it gets, satisfies `P` -/
inductive Calls (P : Call → Prop) : Prog α → Prop
  | pure (a : α) : Calls P (.pure a)
  | getKeySet {set k} : P (.getKeySet set) → (∀ r, Calls P (k r)) → Calls P (.getKeySet set k)
  | getKey {set kid k} : P (.getKey set kid) → (∀ r, Calls P (k r)) → Calls P (.getKey set kid k)
  | addKeySet {set keys k} : P (.addKeySet set keys) → (∀ r, Calls P (k r)) → Calls P (.addKeySet set keys k)
  | addKey {set key k} : P (.addKey set key) → (∀ r, Calls P (k r)) → Calls P (.addKey set key k)
  | deleteKeySet {set k} : P (.deleteKeySet set) → (∀ r, Calls P (k r)) → Calls P (.deleteKeySet set k)
  | deleteKey {set kid k} : P (.deleteKey set kid) → (∀ r, Calls P (k r)) → Calls P (.deleteKey set kid k)
  | generate {alg kid k} : P (.generate alg kid) → (∀ r, Calls P (k r)) → Calls P (.generate alg kid k)
  | write {r next} : P (.write r) → Calls P next → Calls P (.write r next)

/-- the program writes a response on every path, whatever the answers it gets -/
inductive Answers : Prog α → Prop
  | write {r next} : Answers (.write r next)
  | getKeySet {set k} : (∀ r, Answers (k r)) → Answers (.getKeySet set k)
  | getKey {set kid k} : (∀ r, Answers (k r)) → Answers (.getKey set kid k)
  | addKeySet {set keys k} : (∀ r, Answers (k r)) → Answers (.addKeySet set keys k)
  | addKey {set key k} : (∀ r, Answers (k r)) → Answers (.addKey set key k)
  | deleteKeySet {set k} : (∀ r, Answers (k r)) → Answers (.deleteKeySet set k)
  | deleteKey {set kid k} : (∀ r, Answers (k r)) → Answers (.deleteKey set kid k)
  | generate {alg kid k} : (∀ r, Answers (k r)) → Answers (.generate alg kid k)

variable {P : Call → Prop}

theorem Calls.bind {p : Prog α} {f : α → Prog β} (hp : p.Calls P) (hf : ∀ a, (f a).Calls P) : (p >>= f).Calls P := by
  show (p.bind f).Calls P
  induction hp with
  | pure a => exact hf a
  | _ => constructor <;> assumption

theorem Calls.mono {Q : Call → Prop} {p : Prog α} (hp : p.Calls P) (h : ∀ c, P c → Q c) : p.Calls Q := by
  induction hp with
  | pure a => exact .pure a
  | _ => constructor <;> first | assumption | exact h _ ‹_›

/-- **Run lemma.** What a program can call is what its runs call. -/
theorem Calls.run {p : Prog α} (hp : p.Calls P) (w : World) : ∀ c ∈ (p.run w).calls, P c := by
  induction hp generalizing w with
  | pure a => simp
  | write h _ ih => simpa [Outcome.after] using ⟨h, ih w⟩
  | getKeySet h _ ih => simpa [Outcome.after] using ⟨h, ih _ w⟩
  | getKey h _ ih => simpa [Outcome.after] using ⟨h, ih _ w⟩
  | addKeySet h _ ih => simpa [Outcome.after] using ⟨h, ih _ _⟩
  | addKey h _ ih => simpa [Outcome.after] using ⟨h, ih _ _⟩
  | deleteKeySet h _ ih => simpa [Outcome.after] using ⟨h, ih _ _⟩
  | deleteKey h _ ih => simpa [Outcome.after] using ⟨h, ih _ _⟩
  | generate h _ ih => simpa [Outcome.after] using ⟨h, ih _ _⟩

theorem Answers.bind {p : Prog α} (hp : p.Answers) (f : α → Prog β) : (p >>= f).Answers := by
  show (p.bind f).Answers
  induction hp <;> constructor <;> assumption

theorem Answers.bind_of_forall (p : Prog α) {f : α → Prog β} (hf : ∀ a, (f a).Answers) : (p >>= f).Answers := by
  show (p.bind f).Answers
  induction p with
  | pure a => exact hf a
  | _ => constructor <;> assumption

/-- **Run lemma.** A program that answers on every path writes a response in every run. -/
theorem Answers.run {p : Prog α} (hp : p.Answers) (w : World) : ∃ r, Call.write r ∈ (p.run w).calls := by
  induction hp generalizing w with
  | write => exact ⟨_, List.mem_cons_self _ _⟩
  | getKeySet _ ih | getKey _ ih | addKeySet _ ih | addKey _ ih | deleteKeySet _ ih | deleteKey _ ih
  | generate _ ih =>
    obtain ⟨r, hr⟩ := ih _ _
    exact ⟨r, List.mem_cons_of_mem _ hr⟩

end Prog

/-! ## Two programs sharing one store -/

/-- one program in flight, with the outcomes of its own generator calls -/
structure Thread (α : Type) where
  prog : Prog α
  entropy : Entropy

/-- the result of a finished thread -/
def Thread.result {α : Type} (t : Thread α) : Option α :=
  match t.prog with
  | .pure a => some a
  | _ => none

/-- one call of the thread, against the shared store -/
def Thread.step {α : Type} (t : Thread α) (st : KeyStore) : Option (Thread α × KeyStore) :=
  (t.prog.step ⟨st, t.entropy⟩).map fun r => (⟨r.1, r.2.1.entropy⟩, r.2.1.store)

/-- a thread's call is its program's next call, against the shared store and the thread's own entropy -/
theorem Thread.step_eq_some {α : Type} {p p' : Prog α} {ent : Entropy} {st st' : KeyStore} {w : World} {c : Call}
    {t' : Thread α} (hp : p.step ⟨st, ent⟩ = some (p', w, c)) (h : Thread.step ⟨p, ent⟩ st = some (t', st')) :
    t' = ⟨p', w.entropy⟩ ∧ w.store = st' := by
  simp only [Thread.step, hp, Option.map_some', Option.some.injEq, Prod.mk.injEq] at h
  exact ⟨h.1.symm, h.2⟩

/-- the two threads -/
inductive Tid where
  | a
  | b
deriving DecidableEq, Repr

/-- two threads and the store they share -/
structure Sys (α : Type) where
  store : KeyStore
  a : Thread α
  b : Thread α

namespace Sys

variable {α : Type}

/-- thread `i` makes its next call; a finished thread makes none -/
def step (s : Sys α) : Tid → Sys α
  | .a => match s.a.step s.store with
    | some (t, st) => { s with a := t, store := st }
    | none => s
  | .b => match s.b.step s.store with
    | some (t, st) => { s with b := t, store := st }
    | none => s

/-- run a schedule: the order in which the threads' calls reach the store -/
def run (s : Sys α) (σ : List Tid) : Sys α := σ.foldl step s

/-- the same system with the threads' names exchanged -/
def swap (s : Sys α) : Sys α := ⟨s.store, s.b, s.a⟩

@[simp] theorem swap_swap (s : Sys α) : s.swap.swap = s := rfl

theorem swap_step_a (s : Sys α) : (s.step .a).swap = s.swap.step .b := by
  simp only [step, swap]; split <;> rfl

theorem swap_step_b (s : Sys α) : (s.step .b).swap = s.swap.step .a := by
  simpa using (congrArg swap (swap_step_a s.swap)).symm

theorem run_append (s : Sys α) (σ τ : List Tid) : s.run (σ ++ τ) = (s.run σ).run τ := List.foldl_append _ _ _ _

theorem run_replicate_succ (s : Sys α) (i : Tid) (n : ℕ) :
    s.run (List.replicate (n + 1) i) = (s.run (List.replicate n i)).step i := by
  rw [List.replicate_succ', run_append]; rfl

theorem swap_run_b (s : Sys α) (n : ℕ) : (s.run (List.replicate n .b)).swap = s.swap.run (List.replicate n .a) := by
  induction n with
  | zero => rfl
  | succ n ih => rw [run_replicate_succ, run_replicate_succ, swap_step_b, ih]

/-- what thread `a`'s program computes when it runs alone to its end: its result and its world -/
def soloA (s : Sys α) : α × World :=
  let o := s.a.prog.run ⟨s.store, s.a.entropy⟩; (o.result, o.world)

/-- **Simulation step.** A call of thread `a` leaves what its program computes alone, and thread `b`, as they
were. -/
theorem soloA_step_a (s : Sys α) : (s.step .a).soloA = s.soloA ∧ (s.step .a).b = s.b := by
  simp only [step]
  split
  · rename_i t st hs
    simp only [Thread.step, Option.map_eq_some'] at hs
    obtain ⟨⟨p', w', c⟩, hp, he⟩ := hs
    simp only [Prod.mk.injEq] at he
    obtain ⟨rfl, rfl⟩ := he
    simp [soloA, Prog.run_eq_of_step hp]
  · exact ⟨rfl, rfl⟩

/-- **Simulation.** Thread `a` scheduled alone runs its program as `Prog.run` does, and leaves thread `b` alone. -/
theorem soloA_run_a (s : Sys α) (n : ℕ) :
    (s.run (List.replicate n .a)).soloA = s.soloA ∧ (s.run (List.replicate n .a)).b = s.b := by
  induction n with
  | zero => exact ⟨rfl, rfl⟩
  | succ n ih =>
    rw [run_replicate_succ]
    exact ⟨(soloA_step_a _).1.trans ih.1, (soloA_step_a _).2.trans ih.2⟩

/-- a thread that has finished computes its result, in the world it stands in -/
theorem soloA_of_result {s : Sys α} {r : α} (h : s.a.result = some r) : s.soloA = (r, ⟨s.store, s.a.entropy⟩) := by
  simp only [Thread.result] at h
  split at h
  · rename_i a ha
    cases h
    simp [soloA, ha]
  · cases h

end Sys

end Hydra
