/-
Lean model of `cmd/server/helper_keys.go`: `createJWKS` and `createOrGetJWK`, the provisioning of the server's
signing keys, as programs over the key manager (`Hydra.Prog`).

`createOrGetJWK set prefix` reads the set; when it is missing (`ErrNotFound` as the error's cause) or empty it first
creates it with `createJWKS` (an RS256 key set from the generator, every key marked `Use = "sig"`, persisted with
`AddKeySet`). It then returns the first key whose kid begins with the prefix; when there is none it calls
`createJWKS` once more and looks in the newly generated keys only.

Results, for every store, set, prefix and generator outcome:
- `createOrGetJWK_reuses_then_idempotent`: a set that already holds a prefix key is never rotated: the call makes
  one `GetKeySet` and nothing else, and returns the first prefix key; a call that succeeds with `k` leaves `k` the
  first prefix key of the stored set, so the same call again returns `k` and leaves the store unchanged.
- `publicKey_publicKey`: `publicKey` answers the public half of a private key only; applied to a public key, its
  own answer included, it gives `nil`.
- `createJWKS_run_ok` and `findOrRegenerate_first`: the step lemmas: a successful `createJWKS` appends the keys it
  returns to the set; the lookup half returns the first prefix key of the stored set whenever the part of the set
  before the keys it was given holds none.
-/
import Hydra.Prog

namespace Hydra.Server

open Hydra.Jwk

/-- the write half of `createJWKS`: persist the generated keys with `AddKeySet` -/
def storeJWKS (set : String) (keys : List JSONWebKey) : Prog (Except KeyError (List JSONWebKey)) := do
  match ← Manager.addKeySet set keys with
  | .error e => return .error (.wrapped ("Could not persist " ++ set ++ " key") e)
  | .ok () => return .ok keys

/-- `createJWKS`: generate an RS256 key set, mark its keys for signing, persist it -/
def createJWKS (set : String) : Prog (Except KeyError (List JSONWebKey)) := do
  match ← Generator.generate "RS256" "" with
  | .error e => return .error (.wrapped ("Could not generate " ++ set ++ " key") e)
  | .ok keys => storeJWKS set (keys.map fun k => { k with use := "sig" })

/-- the set is missing (`errors.Cause(err) == pkg.ErrNotFound`) or holds no key -/
def missingOrEmpty : Except KeyError (List JSONWebKey) → Bool
  | .error e => e.cause == .notFound
  | .ok keys => keys.isEmpty

/-- the end of `findOrRegenerate`, once its `createJWKS` has answered: look in the new keys only -/
def afterRegenerate (kidPrefix : String) : Except KeyError (List JSONWebKey) → Prog (Except KeyError JSONWebKey)
  | .error e => return .error e
  | .ok keys => return findKeyByPrefix keys kidPrefix

/-- the second half of `createOrGetJWK`: the first prefix key of `keys`; when there is none, regenerate the set once
and look in the new keys -/
def findOrRegenerate (set kidPrefix : String) (keys : List JSONWebKey) : Prog (Except KeyError JSONWebKey) :=
  match findKeyByPrefix keys kidPrefix with
  | .ok key => return .ok key
  | .error _ => createJWKS set >>= afterRegenerate kidPrefix

/-- the rest of `createOrGetJWK` once it holds the set (read, or created): `if err != nil { return nil, err }`, then
the second half -/
def afterCreate (set kidPrefix : String) : Except KeyError (List JSONWebKey) → Prog (Except KeyError JSONWebKey)
  | .error e => return .error e
  | .ok keys => findOrRegenerate set kidPrefix keys

/-- `createOrGetJWK` -/
def createOrGetJWK (set kidPrefix : String) : Prog (Except KeyError JSONWebKey) := do
  let keys ← Manager.getKeySet set
  let keys ← if missingOrEmpty keys then createJWKS set else pure keys
  afterCreate set kidPrefix keys

/-- `publicKey`: the public half of an RSA or ECDSA private key, `nil` for any other key -/
def publicKey : KeyMaterial → KeyMaterial
  | .rsaPrivate n e _ _ _ => .rsaPublic n e
  | .ecPrivate crv x y _ => .ecPublic crv x y
  | _ => .nil

/-- `publicKey` takes private keys only: what it answers is never private, and a public key gives `nil` -/
theorem publicKey_publicKey (m : KeyMaterial) : publicKey (publicKey m) = .nil := by
  cases m <;> rfl

variable {set kidPrefix : String} {w : World} {keys pre : List JSONWebKey} {k : JSONWebKey}

theorem createJWKS_run_ok (h : ((createJWKS set).run w).result = .ok keys) :
    ((createJWKS set).run w).world.store.sets set = w.store.sets set ++ keys := by
  unfold createJWKS at h ⊢
  cases hg : w.entropy 0 with
  | error e => simp [hg] at h
  | ok g =>
    cases ha : w.store.addKeySet set (g.map fun k => { k with use := "sig" }) with
    | error e => simp [storeJWKS, hg, ha] at h
    | ok st =>
      simp [storeJWKS, hg, ha] at h ⊢
      subst h
      exact (KeyStore.addKeySet_sets ha).1

theorem findOrRegenerate_first (hs : w.store.sets set = pre ++ keys) (hpre : pre.filter (hasPrefix kidPrefix) = [])
    (h : ((findOrRegenerate set kidPrefix keys).run w).result = .ok k) :
    findKeyByPrefix (((findOrRegenerate set kidPrefix keys).run w).world.store.sets set) kidPrefix = .ok k := by
  unfold findOrRegenerate at h ⊢
  cases hf : findKeyByPrefix keys kidPrefix with
  | ok key =>
    simp only [hf, Prog.pure_eq, Prog.run_pure, Except.ok.injEq] at h ⊢
    rw [hs, findKeyByPrefix_append_of_nil hpre, hf, h]
  | error _ =>
    have hkeys : keys.filter (hasPrefix kidPrefix) = [] := findKeyByPrefix_eq_error (by simp [hf])
    simp only [hf, Prog.run_bind] at h ⊢
    cases hc : ((createJWKS set).run w).result with
    | error e => simp [hc, afterRegenerate] at h
    | ok new =>
      simp only [hc, afterRegenerate, Prog.pure_eq, Prog.run_pure] at h ⊢
      rw [createJWKS_run_ok hc, hs, findKeyByPrefix_append_of_nil (by simp [List.filter_append, hpre, hkeys]), h]

theorem createOrGetJWK_first (h : ((createOrGetJWK set kidPrefix).run w).result = .ok k) :
    findKeyByPrefix (((createOrGetJWK set kidPrefix).run w).world.store.sets set) kidPrefix = .ok k := by
  unfold createOrGetJWK at h ⊢
  by_cases hne : w.store.sets set = []
  · simp only [Manager.getKeySet_bind, Prog.run_getKeySet, KeyStore.getKeySet_of_nil hne, missingOrEmpty,
      KeyError.cause, beq_self_eq_true, ite_true, Outcome.after_result, Outcome.after_world, Prog.run_bind] at h ⊢
    cases hc : ((createJWKS set).run w).result with
    | error e => simp [hc, afterCreate] at h
    | ok keys =>
      simp only [hc, afterCreate] at h ⊢
      have hs : ((createJWKS set).run w).world.store.sets set = [] ++ keys := by rw [createJWKS_run_ok hc, hne]
      exact findOrRegenerate_first hs rfl h
  · have hk : missingOrEmpty (.ok (w.store.sets set)) = false := by simpa [missingOrEmpty] using hne
    simp only [Manager.getKeySet_bind, Prog.run_getKeySet, KeyStore.getKeySet_eq_ok hne, hk, Bool.false_eq_true,
      ite_false, Prog.pure_bind', afterCreate, Outcome.after_result, Outcome.after_world] at h ⊢
    exact findOrRegenerate_first (List.nil_append _).symm rfl h

/-- a set that already holds a prefix key: one `GetKeySet`, and its first prefix key -/
theorem createOrGetJWK_run_of_found (h : findKeyByPrefix (w.store.sets set) kidPrefix = .ok k) :
    (createOrGetJWK set kidPrefix).run w = ⟨.ok k, w, [.getKeySet set]⟩ := by
  have hne : w.store.sets set ≠ [] := fun h' => by simp [h', findKeyByPrefix] at h
  have hk : missingOrEmpty (.ok (w.store.sets set)) = false := by simpa [missingOrEmpty] using hne
  simp [createOrGetJWK, afterCreate, findOrRegenerate, KeyStore.getKeySet_eq_ok hne, hk, h, Outcome.after]

/-- **Reuse and idempotence.** An existing prefix key is returned with no other call than `GetKeySet`; a key a call
returns is afterwards the first prefix key of the stored set, and the same call again returns it and changes
nothing. -/
theorem createOrGetJWK_reuses_then_idempotent (w : World) (set kidPrefix : String) :
    (∀ k, findKeyByPrefix (w.store.sets set) kidPrefix = .ok k →
      (createOrGetJWK set kidPrefix).run w = ⟨.ok k, w, [.getKeySet set]⟩) ∧
    (∀ k, ((createOrGetJWK set kidPrefix).run w).result = .ok k →
      let st := ((createOrGetJWK set kidPrefix).run w).world.store
      findKeyByPrefix (st.sets set) kidPrefix = .ok k ∧
      ∀ ent : Entropy, (createOrGetJWK set kidPrefix).run ⟨st, ent⟩ = ⟨.ok k, ⟨st, ent⟩, [.getKeySet set]⟩) :=
  ⟨fun _ h => createOrGetJWK_run_of_found h,
   fun _ h => ⟨createOrGetJWK_first h, fun _ => createOrGetJWK_run_of_found (createOrGetJWK_first h)⟩⟩

/-- Part (b) on runs that create the set (from the empty store) and that regenerate it (from a set whose only key has
no `private` kid): both return the new private key, and a second call only reads it back. -/
theorem createOrGetJWK_reuses_then_idempotent_branches :
    ∀ w ∈ [(⟨KeyStore.empty, fun _ => .ok [⟨.rsaPrivate "n" "AQAB" "d" "p" "q", "private:a", "RS256", ""⟩,
          ⟨.rsaPublic "n" "AQAB", "public:a", "RS256", ""⟩]⟩ : World),
        ⟨KeyStore.empty.update idTokenKeyName [⟨.symmetric "a2V5", "other:1", "HS256", "sig"⟩] (by decide),
          fun _ => .ok [⟨.rsaPrivate "n" "AQAB" "d" "p" "q", "private:a", "RS256", ""⟩,
            ⟨.rsaPublic "n" "AQAB", "public:a", "RS256", ""⟩]⟩],
      ((createOrGetJWK idTokenKeyName "private").run w).result =
        .ok ⟨.rsaPrivate "n" "AQAB" "d" "p" "q", "private:a", "RS256", "sig"⟩ ∧
      let st := ((createOrGetJWK idTokenKeyName "private").run w).world.store
      findKeyByPrefix (st.sets idTokenKeyName) "private" =
        .ok ⟨.rsaPrivate "n" "AQAB" "d" "p" "q", "private:a", "RS256", "sig"⟩ ∧
      ∀ ent : Entropy, (createOrGetJWK idTokenKeyName "private").run ⟨st, ent⟩ =
        ⟨.ok ⟨.rsaPrivate "n" "AQAB" "d" "p" "q", "private:a", "RS256", "sig"⟩, ⟨st, ent⟩,
          [.getKeySet idTokenKeyName]⟩ := by
  intro w hw
  have hres : ((createOrGetJWK idTokenKeyName "private").run w).result =
      .ok ⟨.rsaPrivate "n" "AQAB" "d" "p" "q", "private:a", "RS256", "sig"⟩ := by
    simp only [List.mem_cons, List.mem_singleton, List.not_mem_nil, or_false] at hw
    rcases hw with rfl | rfl <;> decide
  exact ⟨hres, (createOrGetJWK_reuses_then_idempotent w idTokenKeyName "private").2 _ hres⟩

end Hydra.Server
