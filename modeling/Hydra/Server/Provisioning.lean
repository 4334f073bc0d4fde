/-
Lean model of two `createOrGetJWK` calls (`cmd/server/helper_keys.go`) running at once against one key store: two
server replicas provisioning the same signing key set. The calls are `Prog` threads of `Hydra.Sys`, interleaved call
by call (`GetKeySet`, `Generate`, `AddKeySet`) in any order; each thread has its own generator outcomes.

The code reads the set, and when it holds no prefix key it generates and stores a new key pair: a check, then an act,
with nothing between them. Two calls that both read the set before either stores one both store a pair.

A thread's progress is abstracted by `Phase` (`Phase.prog` is the rest of its program in each phase); `thread_moves`
says what one call of a thread can do (`Moves`), and `PrefixKeysStored` is the invariant over the store and both
phases: the prefix keys of the set are exactly the keys the threads stored, in the order they stored them, and a
thread that returned a key it read was handed the key the other thread stored.

Results, from any state whose set holds no prefix key, when every key set the generator returns holds exactly one
prefix key (as the RS256 pair `private:<uuid>`, `public:<uuid>` does for `private` and for `public`):
- `createOrGetJWK_race`: both calls read the missing set, then each stores its own pair: both succeed, with
  different keys, and the set holds two `private` keys.
- `createOrGetJWK_interleavings`: under every schedule in which both calls succeed, either they return the same key
  and the set holds that one prefix key only, or they return different keys and the set holds exactly those two.
And from any store, with any generators: `createOrGetJWK_serial`: when the calls do not overlap (every call of the
first reaches the store before any call of the second), two successful calls return the same key and the second
stores nothing. Its proof runs each call alone through the simulation lemma `Sys.soloA_run_a` and applies the
sequential results of `Hydra.Server.HelperKeys`.
-/
import Hydra.Server.HelperKeys

namespace Hydra.Server

open Hydra.Jwk

variable {set kidPrefix : String}

/-- Modelled from the spec: the key set `RS256Generator.Generate("")` returns (the generator is absent from src/), "a
fresh RS256 keypair with two keys whose kids are `public:<uuid>` and `private:<uuid>`", for the uuid and the RSA key
`(n, e, d, p, q)` it drew -/
def rs256KeySet (uuid n e d p q : String) : List JSONWebKey :=
  [⟨.rsaPrivate n e d p q, "private:" ++ uuid, "RS256", ""⟩, ⟨.rsaPublic n e, "public:" ++ uuid, "RS256", ""⟩]

/-- every key set the generator returns is an RS256 key pair -/
def RS256Outcomes (ent : Entropy) : Prop :=
  ∀ i keys, ent i = .ok keys → ∃ uuid n e d p q, keys = rs256KeySet uuid n e d p q

/-- every key set the generator can return holds exactly one key whose kid begins with the prefix -/
def OnePrefixKey (kidPrefix : String) (ent : Entropy) : Prop :=
  ∀ n keys, ent n = .ok keys → ∃ k, keys.filter (hasPrefix kidPrefix) = [k]

/-- the prefix keys of the set -/
def prefixKeys (set kidPrefix : String) (st : KeyStore) : List JSONWebKey := (st.sets set).filter (hasPrefix kidPrefix)

theorem onePrefixKey_private {ent : Entropy} (h : RS256Outcomes ent) : OnePrefixKey "private" ent := by
  intro i keys hi
  obtain ⟨uuid, n, e, d, p, q, rfl⟩ := h i keys hi
  exact ⟨⟨.rsaPrivate n e d p q, "private:" ++ uuid, "RS256", ""⟩, by simp [rs256KeySet, hasPrefix, List.isPrefixOf]⟩

theorem onePrefixKey_public {ent : Entropy} (h : RS256Outcomes ent) : OnePrefixKey "public" ent := by
  intro i keys hi
  obtain ⟨uuid, n, e, d, p, q, rfl⟩ := h i keys hi
  exact ⟨⟨.rsaPublic n e, "public:" ++ uuid, "RS256", ""⟩, by simp [rs256KeySet, hasPrefix, List.isPrefixOf]⟩

/-- where a `createOrGetJWK` thread stands; `done r wrote` records whether it stored the key it returns -/
inductive Phase (kidPrefix : String) where
  | start
  | generating (retry : Bool)
  | storing (retry : Bool) (keys : List JSONWebKey) (key : JSONWebKey)
      (one : keys.filter (hasPrefix kidPrefix) = [key])
  | done (r : Except KeyError JSONWebKey) (wrote : Bool)

/-- the continuation waiting for `createJWKS`: in `createOrGetJWK`, or in its retry -/
def cont (set kidPrefix : String) (retry : Bool) : Except KeyError (List JSONWebKey) → Prog (Except KeyError JSONWebKey) :=
  if retry then afterRegenerate kidPrefix else afterCreate set kidPrefix

/-- the rest of the thread's program -/
def Phase.prog (set : String) : Phase kidPrefix → Prog (Except KeyError JSONWebKey)
  | .start => createOrGetJWK set kidPrefix
  | .generating r => createJWKS set >>= cont set kidPrefix r
  | .storing r keys _ _ => storeJWKS set keys >>= cont set kidPrefix r
  | .done r _ => pure r

/-- the prefix keys the thread stored: the key it returns, when it stored it -/
def Phase.written : Phase kidPrefix → List JSONWebKey
  | .done (.ok k) true => [k]
  | _ => []

/-- what one call of a thread does to its phase and to the store -/
inductive Moves (set kidPrefix : String) : Phase kidPrefix → KeyStore → Phase kidPrefix → KeyStore → Prop
  | found {st k} : findKeyByPrefix (st.sets set) kidPrefix = .ok k → Moves set kidPrefix .start st (.done (.ok k) false) st
  | absent {st r} : prefixKeys set kidPrefix st = [] → Moves set kidPrefix .start st (.generating r) st
  | generated {st r keys k one} : Moves set kidPrefix (.generating r) st (.storing r keys k one) st
  | generateFailed {st r e} : Moves set kidPrefix (.generating r) st (.done (.error e) false) st
  | storeFailed {st r keys k one e} : Moves set kidPrefix (.storing r keys k one) st (.done (.error e) false) st
  | stored {st st' r keys k one} : st'.sets set = st.sets set ++ keys →
      Moves set kidPrefix (.storing r keys k one) st (.done (.ok k) true) st'

/-! ## One call of a thread -/

theorem step_start (w : World) : ((.start : Phase kidPrefix).prog set).step w =
    some ((if missingOrEmpty (w.store.getKeySet set) then createJWKS set >>= afterCreate set kidPrefix
      else afterCreate set kidPrefix (w.store.getKeySet set)), w, .getKeySet set) := by
  simp [Phase.prog, createOrGetJWK, Prog.step]

variable {r : Bool} {w : World} {keys : List JSONWebKey} {k : JSONWebKey} {e : KeyError}

@[simp] theorem cont_error : cont set kidPrefix r (.error e) = pure (.error e) := by
  cases r <;> rfl

theorem step_generating_error (h : w.entropy 0 = .error e) : ((.generating r : Phase kidPrefix).prog set).step w =
    some (pure (.error (.wrapped ("Could not generate " ++ set ++ " key") e)), w.draw, .generate "RS256" "") := by
  simp [Phase.prog, createJWKS, Prog.bind_assoc, Prog.step, h]

theorem step_generating_ok (h : w.entropy 0 = .ok keys) : ((.generating r : Phase kidPrefix).prog set).step w =
    some (storeJWKS set (keys.map fun k => { k with use := "sig" }) >>= cont set kidPrefix r, w.draw,
      .generate "RS256" "") := by
  simp [Phase.prog, createJWKS, Prog.bind_assoc, Prog.step, h]

theorem step_storing_error {one} (h : w.store.addKeySet set keys = .error e) :
    ((.storing r keys k one : Phase kidPrefix).prog set).step w =
      some (pure (.error (.wrapped ("Could not persist " ++ set ++ " key") e)), w, .addKeySet set keys) := by
  simp [Phase.prog, storeJWKS, Prog.bind_assoc, Prog.step, h]

theorem step_storing_ok {one} {st : KeyStore} (h : w.store.addKeySet set keys = .ok st) :
    ((.storing r keys k one : Phase kidPrefix).prog set).step w =
      some (pure (.ok k), { w with store := st }, .addKeySet set keys) := by
  have hf : findKeyByPrefix keys kidPrefix = .ok k := findKeyByPrefix_eq_ok.2 ⟨[], one⟩
  cases r <;> simp [Phase.prog, storeJWKS, Prog.bind_assoc, Prog.step, h, cont, afterCreate, afterRegenerate,
    findOrRegenerate, hf]

theorem filter_sign (keys : List JSONWebKey) :
    (keys.map fun k => { k with use := "sig" }).filter (hasPrefix kidPrefix) =
      (keys.filter (hasPrefix kidPrefix)).map fun k => { k with use := "sig" } := by
  rw [List.filter_map]; rfl

/-- **One call.** A thread in a phase makes a call its phase allows (`Moves`), after which the rest of its program
is again a phase's; its generator outcomes keep one prefix key per set. -/
theorem thread_moves {ph : Phase kidPrefix} {t t' : Thread (Except KeyError JSONWebKey)} {st st' : KeyStore}
    (hp : t.prog = ph.prog set) (he : OnePrefixKey kidPrefix t.entropy) (hs : t.step st = some (t', st')) :
    ∃ ph' : Phase kidPrefix, t'.prog = ph'.prog set ∧ OnePrefixKey kidPrefix t'.entropy ∧
      Moves set kidPrefix ph st ph' st' := by
  obtain ⟨p, ent⟩ := t
  simp only at hp he
  subst hp
  have he' : OnePrefixKey kidPrefix (World.mk st ent).draw.entropy := fun n keys h => he (n + 1) keys h
  cases ph with
  | start =>
    obtain ⟨rfl, rfl⟩ := Thread.step_eq_some (step_start _) hs
    by_cases hne : st.sets set = []
    · refine ⟨.generating false, ?_, he, .absent (by simp [prefixKeys, hne])⟩
      simp [KeyStore.getKeySet_of_nil hne, missingOrEmpty, KeyError.cause, Phase.prog, cont]
    · have hk : missingOrEmpty (.ok (st.sets set)) = false := by simpa [missingOrEmpty] using hne
      cases hf : findKeyByPrefix (st.sets set) kidPrefix with
      | ok k =>
        refine ⟨.done (.ok k) false, ?_, he, .found hf⟩
        simp [KeyStore.getKeySet_eq_ok hne, hk, afterCreate, findOrRegenerate, hf, Phase.prog]
      | error e =>
        refine ⟨.generating true, ?_, he, .absent (findKeyByPrefix_eq_error (by simp [hf]))⟩
        simp [KeyStore.getKeySet_eq_ok hne, hk, afterCreate, findOrRegenerate, hf, Phase.prog, cont]
  | generating r =>
    cases hg : ent 0 with
    | error e =>
      obtain ⟨rfl, rfl⟩ := Thread.step_eq_some (step_generating_error (w := ⟨st, ent⟩) hg) hs
      exact ⟨.done (.error _) false, rfl, he', .generateFailed⟩
    | ok g =>
      obtain ⟨rfl, rfl⟩ := Thread.step_eq_some (step_generating_ok (w := ⟨st, ent⟩) hg) hs
      obtain ⟨k, hk⟩ := he 0 g hg
      exact ⟨.storing r _ _ (by rw [filter_sign, hk]; rfl), rfl, he', .generated⟩
  | storing r keys k one =>
    cases ha : st.addKeySet set keys with
    | error e =>
      obtain ⟨rfl, rfl⟩ := Thread.step_eq_some (step_storing_error (w := ⟨st, ent⟩) ha) hs
      exact ⟨.done (.error _) false, rfl, he, .storeFailed⟩
    | ok st'' =>
      obtain ⟨rfl, rfl⟩ := Thread.step_eq_some (step_storing_ok (w := ⟨st, ent⟩) ha) hs
      exact ⟨.done (.ok k) true, rfl, he, .stored (KeyStore.addKeySet_sets ha).1⟩
  | done r wrote => simp [Thread.step, Phase.prog, Prog.step] at hs

/-! ## The invariant -/

/-- the invariant of two threads `x`, `y` sharing the store: the prefix keys of the set are the keys the threads
stored, in the order they stored them; a thread that returned a key it read returned the key the other stored -/
structure PrefixKeysStored (set kidPrefix : String) (st : KeyStore) (x y : Phase kidPrefix) : Prop where
  keys : prefixKeys set kidPrefix st = x.written ++ y.written ∨ prefixKeys set kidPrefix st = y.written ++ x.written
  x_read : ∀ k, x = .done (.ok k) false → y = .done (.ok k) true
  y_read : ∀ k, y = .done (.ok k) false → x = .done (.ok k) true

variable {st st' : KeyStore} {x x' y : Phase kidPrefix}

theorem PrefixKeysStored.symm (g : PrefixKeysStored set kidPrefix st x y) : PrefixKeysStored set kidPrefix st y x :=
  ⟨g.keys.symm, g.y_read, g.x_read⟩

theorem written_eq_nil (hx : ∀ r, x ≠ .done r true) : x.written = [] := by
  cases x with
  | done r wrote => cases r <;> cases wrote <;> simp_all [Phase.written]
  | _ => rfl

theorem eq_of_written_eq_cons {ks : List JSONWebKey} (h : y.written = k :: ks) : y = .done (.ok k) true := by
  cases y with
  | done r wrote => cases r <;> cases wrote <;> simp_all [Phase.written]
  | _ => simp [Phase.written] at h

/-- a thread that has not stored what it returns: the prefix keys are the other's, and the other has not returned a
key it read -/
theorem PrefixKeysStored.of_silent (g : PrefixKeysStored set kidPrefix st x y) (hx : ∀ r, x ≠ .done r true) :
    prefixKeys set kidPrefix st = y.written ∧ ∀ k, y ≠ .done (.ok k) false := by
  have hw := written_eq_nil hx
  exact ⟨by rcases g.keys with h | h <;> simpa [hw] using h, fun k hy => hx _ (g.y_read k hy)⟩

/-- **Step lemma.** Every call of `x` keeps the invariant. -/
theorem PrefixKeysStored.moves (g : PrefixKeysStored set kidPrefix st x y) (m : Moves set kidPrefix x st x' st') :
    PrefixKeysStored set kidPrefix st' x' y := by
  obtain ⟨hkeys, hy⟩ := g.of_silent (by cases m <;> simp)
  cases m with
  | found hf =>
    obtain ⟨ks, hks⟩ := findKeyByPrefix_eq_ok.1 hf
    refine ⟨.inl (by simp [Phase.written, hkeys]), fun k h => ?_, fun k h => absurd h (hy k)⟩
    cases h
    exact eq_of_written_eq_cons (hkeys.symm.trans hks)
  | stored hs =>
    rename_i r keys k one
    refine ⟨.inr ?_, by simp, fun k h => absurd h (hy k)⟩
    show (st'.sets set).filter _ = y.written ++ [k]
    rw [hs, List.filter_append, one, ← hkeys]; rfl
  | _ => exact ⟨.inl (by simp [Phase.written, hkeys]), by simp, fun k h => absurd h (hy k)⟩

/-! ## Two calls, every schedule -/

/-- two `createOrGetJWK set kidPrefix` calls on the store `st`, each with its generator's outcomes -/
def provisioning (st : KeyStore) (set kidPrefix : String) (entA entB : Entropy) : Sys (Except KeyError JSONWebKey) :=
  ⟨st, ⟨createOrGetJWK set kidPrefix, entA⟩, ⟨createOrGetJWK set kidPrefix, entB⟩⟩

/-- the invariant of the system: both threads are in a phase, and the phases and the store are `PrefixKeysStored` -/
def Inv (set kidPrefix : String) (s : Sys (Except KeyError JSONWebKey)) : Prop :=
  ∃ x y : Phase kidPrefix, s.a.prog = x.prog set ∧ s.b.prog = y.prog set ∧ OnePrefixKey kidPrefix s.a.entropy ∧
    OnePrefixKey kidPrefix s.b.entropy ∧ PrefixKeysStored set kidPrefix s.store x y

variable {s : Sys (Except KeyError JSONWebKey)}

theorem Inv.swap (h : Inv set kidPrefix s) : Inv set kidPrefix s.swap :=
  let ⟨x, y, ha, hb, hea, heb, g⟩ := h; ⟨y, x, hb, ha, heb, hea, g.symm⟩

theorem Inv.step_a (h : Inv set kidPrefix s) : Inv set kidPrefix (s.step .a) := by
  obtain ⟨x, y, ha, hb, hea, heb, g⟩ := h
  simp only [Sys.step]
  split
  · rename_i t st' hs
    obtain ⟨x', hx', he', m⟩ := thread_moves ha hea hs
    exact ⟨x', y, hx', hb, he', heb, g.moves m⟩
  · exact ⟨x, y, ha, hb, hea, heb, g⟩

theorem Inv.step (h : Inv set kidPrefix s) (i : Tid) : Inv set kidPrefix (s.step i) := by
  cases i with
  | a => exact h.step_a
  | b =>
    have h' := h.swap.step_a.swap
    rwa [Sys.swap_step_a, Sys.swap_swap] at h'

/-- **Run lemma.** Every schedule keeps the invariant. -/
theorem Inv.run (h : Inv set kidPrefix s) (σ : List Tid) : Inv set kidPrefix (s.run σ) := by
  induction σ generalizing s with
  | nil => exact h
  | cons i σ ih => exact ih (h.step i)

theorem inv_provisioning {entA entB : Entropy} (hst : prefixKeys set kidPrefix st = [])
    (hA : OnePrefixKey kidPrefix entA) (hB : OnePrefixKey kidPrefix entB) :
    Inv set kidPrefix (provisioning st set kidPrefix entA entB) :=
  ⟨.start, .start, rfl, rfl, hA, hB, ⟨.inl (by simpa [Phase.written] using hst), by simp, by simp⟩⟩

/-- a thread that has finished is in phase `done` -/
theorem eq_done_of_result {ph : Phase kidPrefix} {t : Thread (Except KeyError JSONWebKey)}
    {r : Except KeyError JSONWebKey} (hp : t.prog = ph.prog set) (h : t.result = some r) :
    ∃ wrote, ph = .done r wrote := by
  rw [Thread.result, hp] at h
  cases ph with
  | done r' wrote => exact ⟨wrote, by simp_all [Phase.prog]⟩
  | _ => simp [Phase.prog, createOrGetJWK, createJWKS, storeJWKS, Prog.bind_assoc] at h

theorem prefixKeys_kids_nodup (set kidPrefix : String) (st : KeyStore) :
    ((prefixKeys set kidPrefix st).map JSONWebKey.keyID).Nodup :=
  ((List.filter_sublist _).map _).nodup (st.kids_nodup set)

/-- **Every interleaving.** From a set with no prefix key, with generators whose every key set holds one prefix key:
when both calls succeed, either they return the same key and it is the only prefix key of the set, or they return
different keys and the set holds exactly those two. -/
theorem createOrGetJWK_interleavings (st : KeyStore) (set kidPrefix : String) (entA entB : Entropy)
    (hst : prefixKeys set kidPrefix st = []) (hA : OnePrefixKey kidPrefix entA) (hB : OnePrefixKey kidPrefix entB)
    (σ : List Tid) (kA kB : JSONWebKey)
    (ha : ((provisioning st set kidPrefix entA entB).run σ).a.result = some (.ok kA))
    (hb : ((provisioning st set kidPrefix entA entB).run σ).b.result = some (.ok kB)) :
    let keys := prefixKeys set kidPrefix ((provisioning st set kidPrefix entA entB).run σ).store
    (kA = kB ∧ keys = [kA]) ∨ (kA ≠ kB ∧ (keys = [kA, kB] ∨ keys = [kB, kA])) := by
  obtain ⟨x, y, hxa, hyb, -, -, g⟩ := (inv_provisioning hst hA hB).run σ
  obtain ⟨wa, rfl⟩ := eq_done_of_result hxa ha
  obtain ⟨wb, rfl⟩ := eq_done_of_result hyb hb
  cases wa with
  | false =>
    cases g.x_read kA rfl
    exact .inl ⟨rfl, by rcases g.keys with h | h <;> simpa [Phase.written] using h⟩
  | true =>
    cases wb with
    | false =>
      cases g.y_read kB rfl
      exact .inl ⟨rfl, by rcases g.keys with h | h <;> simpa [Phase.written] using h⟩
    | true =>
      have hk : prefixKeys set kidPrefix _ = [kA, kB] ∨ prefixKeys set kidPrefix _ = [kB, kA] := g.keys
      refine .inr ⟨fun he => ?_, hk⟩
      subst he
      have hn := prefixKeys_kids_nodup set kidPrefix ((provisioning st set kidPrefix entA entB).run σ).store
      rcases hk with h | h <;> simp [h] at hn

/-- **The race.** Two calls on a missing ID-token set both read it before either stores a pair; each then stores
its own pair: both succeed, with different keys, and the set holds two `private` keys. -/
theorem createOrGetJWK_race :
    let s := (provisioning KeyStore.empty idTokenKeyName "private"
      (fun _ => .ok (rs256KeySet "a" "na" "AQAB" "da" "pa" "qa"))
      (fun _ => .ok (rs256KeySet "b" "nb" "AQAB" "db" "pb" "qb"))).run [.a, .b, .a, .a, .b, .b]
    s.a.result = some (.ok ⟨.rsaPrivate "na" "AQAB" "da" "pa" "qa", "private:a", "RS256", "sig"⟩) ∧
    s.b.result = some (.ok ⟨.rsaPrivate "nb" "AQAB" "db" "pb" "qb", "private:b", "RS256", "sig"⟩) ∧
    prefixKeys idTokenKeyName "private" s.store =
      [⟨.rsaPrivate "na" "AQAB" "da" "pa" "qa", "private:a", "RS256", "sig"⟩,
       ⟨.rsaPrivate "nb" "AQAB" "db" "pb" "qb", "private:b", "RS256", "sig"⟩] := by
  decide

theorem createOrGetJWK_interleavings_race :
    let kA : JSONWebKey := ⟨.rsaPrivate "na" "AQAB" "da" "pa" "qa", "private:a", "RS256", "sig"⟩
    let kB : JSONWebKey := ⟨.rsaPrivate "nb" "AQAB" "db" "pb" "qb", "private:b", "RS256", "sig"⟩
    let keys := prefixKeys idTokenKeyName "private" ((provisioning KeyStore.empty idTokenKeyName "private"
      (fun _ => .ok (rs256KeySet "a" "na" "AQAB" "da" "pa" "qa"))
      (fun _ => .ok (rs256KeySet "b" "nb" "AQAB" "db" "pb" "qb"))).run [.a, .b, .a, .a, .b, .b]).store
    (kA = kB ∧ keys = [kA]) ∨ (kA ≠ kB ∧ (keys = [kA, kB] ∨ keys = [kB, kA])) :=
  createOrGetJWK_interleavings KeyStore.empty idTokenKeyName "private" _ _ rfl
    (onePrefixKey_private fun _ _ h => ⟨"a", "na", "AQAB", "da", "pa", "qa", (Except.ok.inj h).symm⟩)
    (onePrefixKey_private fun _ _ h => ⟨"b", "nb", "AQAB", "db", "pb", "qb", (Except.ok.inj h).symm⟩)
    [.a, .b, .a, .a, .b, .b] _ _ (by decide) (by decide)

/-! ## Calls that do not overlap -/

/-- **Calls that do not overlap.** From any store, when every call of the first `createOrGetJWK` reaches the store
before any call of the second: if both succeed they return the same key, it is the first prefix key of the set, and
the second call stores nothing. -/
theorem createOrGetJWK_serial (st : KeyStore) (set kidPrefix : String) (entA entB : Entropy) (n m : ℕ)
    (kA kB : JSONWebKey)
    (ha : ((provisioning st set kidPrefix entA entB).run (List.replicate n .a)).a.result = some (.ok kA))
    (hb : ((provisioning st set kidPrefix entA entB).run (List.replicate n .a ++ List.replicate m .b)).b.result =
      some (.ok kB)) :
    let s₁ := (provisioning st set kidPrefix entA entB).run (List.replicate n .a)
    let s₂ := (provisioning st set kidPrefix entA entB).run (List.replicate n .a ++ List.replicate m .b)
    kA = kB ∧ s₂.store = s₁.store ∧ findKeyByPrefix (s₂.store.sets set) kidPrefix = .ok kA := by
  intro s₁ s₂
  -- the first call, alone, is the sequential call on `st`
  obtain ⟨hsa, hb₁⟩ := Sys.soloA_run_a (provisioning st set kidPrefix entA entB) n
  rw [Sys.soloA_of_result ha] at hsa
  have hfirst : findKeyByPrefix (s₁.store.sets set) kidPrefix = .ok kA := by
    have h₁ : ((createOrGetJWK set kidPrefix).run ⟨st, entA⟩).result = .ok kA := (congrArg Prod.fst hsa).symm
    have h₂ : ((createOrGetJWK set kidPrefix).run ⟨st, entA⟩).world.store = s₁.store :=
      (congrArg (·.2.store) hsa).symm
    exact h₂ ▸ createOrGetJWK_first h₁
  -- the second call, alone after it, finds that key and stores nothing
  have hsb := (Sys.soloA_run_a s₁.swap m).1
  have hb₂ : s₂.swap.a.result = some (.ok kB) := hb
  have hseq : s₁.swap.soloA = (.ok kA, ⟨s₁.store, entB⟩) := by
    have ha₁ : s₁.swap.a = ⟨createOrGetJWK set kidPrefix, entB⟩ := hb₁
    have hfound : findKeyByPrefix ((World.mk s₁.swap.store entB).store.sets set) kidPrefix = .ok kA := hfirst
    simp only [Sys.soloA, ha₁, createOrGetJWK_run_of_found hfound]; rfl
  rw [← Sys.swap_run_b, ← Sys.run_append, Sys.soloA_of_result hb₂, hseq] at hsb
  simp only [Prod.mk.injEq, Except.ok.injEq, World.mk.injEq] at hsb
  exact ⟨hsb.1.symm, hsb.2.1, hsb.2.1 ▸ hfirst⟩

theorem createOrGetJWK_serial_empty :
    let kA : JSONWebKey := ⟨.rsaPrivate "na" "AQAB" "da" "pa" "qa", "private:a", "RS256", "sig"⟩
    let s := provisioning KeyStore.empty idTokenKeyName "private"
      (fun _ => .ok (rs256KeySet "a" "na" "AQAB" "da" "pa" "qa"))
      (fun _ => .ok (rs256KeySet "b" "nb" "AQAB" "db" "pb" "qb"))
    (s.run (List.replicate 3 .a)).a.result = some (.ok kA) ∧
    (s.run (List.replicate 3 .a ++ List.replicate 1 .b)).b.result = some (.ok kA) ∧
    kA = kA ∧ (s.run (List.replicate 3 .a ++ List.replicate 1 .b)).store = (s.run (List.replicate 3 .a)).store ∧
      findKeyByPrefix ((s.run (List.replicate 3 .a ++ List.replicate 1 .b)).store.sets idTokenKeyName) "private" =
        .ok kA :=
  have ha : ((provisioning KeyStore.empty idTokenKeyName "private"
      (fun _ => .ok (rs256KeySet "a" "na" "AQAB" "da" "pa" "qa"))
      (fun _ => .ok (rs256KeySet "b" "nb" "AQAB" "db" "pb" "qb"))).run (List.replicate 3 .a)).a.result =
      some (.ok ⟨.rsaPrivate "na" "AQAB" "da" "pa" "qa", "private:a", "RS256", "sig"⟩) := by decide
  have hb : ((provisioning KeyStore.empty idTokenKeyName "private"
      (fun _ => .ok (rs256KeySet "a" "na" "AQAB" "da" "pa" "qa"))
      (fun _ => .ok (rs256KeySet "b" "nb" "AQAB" "db" "pb" "qb"))).run
        (List.replicate 3 .a ++ List.replicate 1 .b)).b.result =
      some (.ok ⟨.rsaPrivate "na" "AQAB" "da" "pa" "qa", "private:a", "RS256", "sig"⟩) := by decide
  ⟨ha, hb, createOrGetJWK_serial _ _ _ _ _ 3 1 _ _ ha hb⟩

end Hydra.Server
