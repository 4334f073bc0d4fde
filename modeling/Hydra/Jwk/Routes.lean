/-
Lean model of `SetRoutes` of `jwk/handler.go`, and of the key API as a state machine over the key store: a request
is routed by its method and path to a handler, whose run acts on the store; `serveAll` serves requests one after
another, each on the store the previous ones left.

What the handler of each route can call, whatever the store and the generators answer, is said once, in
`Endpoint.may`, and proved once per handler (`handle_calls`). The store facts follow from it and from the log lemma
`Prog.run_store` (the store a run leaves is its calls applied in order).

Results, for every handler configuration, store, generator outcome and sequence of requests:
- `route_unique`: no method and path match two routes (httprouter refuses to register conflicting routes), so the
  first match `route` takes is httprouter's.
- `serveAll_gets`: requests that are all GETs leave the store as it was.
- `serveAll_grows`: requests none of which is a DELETE never remove or change a stored key: each set only grows at
  its end.
- `serveAll_frame`: a set that no POST, PUT or DELETE of the sequence names in its path is left as it was.
- `serveAll_answers`: every request that a route matches gets at least one response.
- `serveAll_put_get`: from any store, a `PUT /keys/:set/:key` whose body decodes to a key of a kid new to the set,
  then a `GET` of that kid, answer with the key, then with that key alone.
- `serveAll_create_wellKnown`: from any store, a `POST /keys/hydra.openid.id-token` that stores the generated keys,
  then `GET /.well-known/jwks.json`, answer 201 with the keys, then with the set's keys whose kid begins with
  `public:`, the new ones last.
-/
import Hydra.Jwk.Handler

namespace Hydra.Jwk

open Hydra.Json

/-- the methods the routes use -/
inductive Method where
  | get
  | post
  | put
  | delete
deriving DecidableEq, Repr

/-- a segment of a route's path: a fixed word, or a parameter `:name` -/
inductive Segment where
  | lit (s : String)
  | param (name : String)
deriving DecidableEq, Repr

/-- the handlers the routes lead to -/
inductive Endpoint where
  | wellKnown
  | getKey
  | getKeySet
  | create
  | updateKey
  | updateKeySet
  | deleteKey
  | deleteKeySet
deriving DecidableEq, Repr

/-- `KeyHandlerPath` -/
def keyHandlerPath : List Segment := [.lit "keys"]

/-- `WellKnownKeysPath` -/
def wellKnownKeysPath : List Segment := [.lit ".well-known", .lit "jwks.json"]

/-- `SetRoutes`: the routes, in the order they are registered -/
def routes : List (Method × List Segment × Endpoint) :=
  [(.get, wellKnownKeysPath, .wellKnown),
   (.get, keyHandlerPath ++ [.param "set", .param "key"], .getKey),
   (.get, keyHandlerPath ++ [.param "set"], .getKeySet),
   (.post, keyHandlerPath ++ [.param "set"], .create),
   (.put, keyHandlerPath ++ [.param "set", .param "key"], .updateKey),
   (.put, keyHandlerPath ++ [.param "set"], .updateKeySet),
   (.delete, keyHandlerPath ++ [.param "set", .param "key"], .deleteKey),
   (.delete, keyHandlerPath ++ [.param "set"], .deleteKeySet)]

/-- httprouter's match of a path, given as its segments, against a route's: the parameters it binds, in order. A
parameter takes a whole segment, which must not be empty: `/keys/` and `/keys/s/` match no route (the router answers
them itself, with a 404 or a redirect). -/
def matchPath : List Segment → List String → Option (List (String × String))
  | [], [] => some []
  | .lit s :: pat, seg :: path => if s = seg then matchPath pat path else none
  | .param n :: pat, seg :: path => if seg = "" then none else (matchPath pat path).map ((n, seg) :: ·)
  | _, _ => none

/-- the route a method and a path match, with the path's parameters -/
def route (m : Method) (path : List String) : Option (Endpoint × List (String × String)) :=
  routes.findSome? fun (m', pat, e) => if m' = m then (matchPath pat path).map (e, ·) else none

/-- `ps.ByName(name)`: the value of the parameter, `""` when there is none -/
def byName (ps : List (String × String)) (name : String) : String :=
  match ps.find? (·.1 == name) with
  | some (_, v) => v
  | none => ""

/-- the handler of an endpoint, given the request and the path's parameters -/
def Endpoint.handle (h : Handler) (r : Request) (ps : List (String × String)) : Endpoint → Prog Unit
  | .wellKnown => Handler.wellKnown
  | .getKey => Handler.getKey (byName ps "set") (byName ps "key")
  | .getKeySet => Handler.getKeySet (byName ps "set")
  | .create => h.create r (byName ps "set")
  | .updateKey => Handler.updateKey r (byName ps "set")
  | .updateKeySet => Handler.updateKeySet r (byName ps "set")
  | .deleteKey => Handler.deleteKey (byName ps "set") (byName ps "key")
  | .deleteKeySet => Handler.deleteKeySet (byName ps "set")

/-- a request to the key API -/
structure ApiRequest where
  method : Method
  path : List String
  request : Request

/-- the API's handling of one request: the handler of its route, `none` when no route matches (the router answers
and the store is not touched) -/
def serve (h : Handler) (m : Method) (path : List String) (r : Request) : Option (Prog Unit) :=
  (route m path).map fun (e, ps) => e.handle h r ps

/-- the API serving requests one after another -/
def serveAll (h : Handler) : List ApiRequest → Prog Unit
  | [] => pure ()
  | q :: qs => (serve h q.method q.path q.request).getD (pure ()) >>= fun _ => serveAll h qs

/-! ## Routing -/

/-- the method of an endpoint's route -/
def Endpoint.method : Endpoint → Method
  | .wellKnown | .getKey | .getKeySet => .get
  | .create => .post
  | .updateKey | .updateKeySet => .put
  | .deleteKey | .deleteKeySet => .delete

theorem routes_method : ∀ x ∈ routes, x.2.2.method = x.1 := by decide

theorem route_method {m : Method} {path : List String} {e : Endpoint} {ps : List (String × String)}
    (h : route m path = some (e, ps)) : e.method = m := by
  obtain ⟨⟨m', pat, e'⟩, hx, hf⟩ := List.exists_of_findSome?_eq_some h
  dsimp only at hf
  split at hf
  · obtain ⟨_, -, he⟩ := Option.map_eq_some'.1 hf
    cases he
    exact (routes_method _ hx).trans ‹m' = m›
  · cases hf

/-- a path a route matches has the route's length, and begins with the route's first word -/
theorem matchPath_shape {pat : List Segment} {path : List String} {ps : List (String × String)}
    (h : matchPath pat path = some ps) :
    path.length = pat.length ∧ ∀ s rest, pat = .lit s :: rest → path.head? = some s := by
  induction pat generalizing path ps with
  | nil => cases path <;> simp_all [matchPath]
  | cons seg pat ih =>
    rcases path with _ | ⟨x, path⟩
    · cases seg <;> simp [matchPath] at h
    · cases seg with
      | lit s =>
        simp only [matchPath] at h
        split at h
        · exact ⟨by simp [(ih h).1], fun _ _ he => by cases he; simp_all⟩
        · cases h
      | param n =>
        simp only [matchPath] at h
        split at h
        · cases h
        · obtain ⟨ps', h', -⟩ := Option.map_eq_some'.1 h
          exact ⟨by simp [(ih h').1], fun _ _ he => by cases he⟩

/-- the routes of one method differ in their length or in their first word, which is always a word -/
theorem routes_distinct :
    routes.Pairwise fun x y => x.1 = y.1 → (x.2.1.length, x.2.1.head?) ≠ (y.2.1.length, y.2.1.head?) := by
  decide

theorem routes_head : ∀ x ∈ routes, ∃ s rest, x.2.1 = .lit s :: rest := by
  simp only [routes, keyHandlerPath, wellKnownKeysPath, List.mem_cons, List.mem_singleton]
  rintro x (rfl | rfl | rfl | rfl | rfl | rfl | rfl | rfl | h) <;> simp_all

/-- the routes a method and a path match -/
def matching (m : Method) (path : List String) : List (Method × List Segment × Endpoint) :=
  routes.filter fun (m', pat, _) => m' = m ∧ (matchPath pat path).isSome

/-- **No conflict.** A method and a path match at most one route, so the first route that matches, which `route`
takes, is the one httprouter finds. -/
theorem route_unique (m : Method) (path : List String) : (matching m path).length ≤ 1 := by
  have hp : (matching m path).Pairwise fun _ _ => False := by
    refine (routes_distinct.filter _).imp_of_mem fun {x y} hx hy hxy => ?_
    simp only [matching, List.mem_filter, decide_eq_true_eq, Option.isSome_iff_exists] at hx hy
    obtain ⟨hxr, hxm, px, hpx⟩ := hx
    obtain ⟨hyr, hym, py, hpy⟩ := hy
    obtain ⟨s, rest, hs⟩ := routes_head x hxr
    obtain ⟨t, rest', ht⟩ := routes_head y hyr
    have hst : some s = some t := ((matchPath_shape hpx).2 s rest hs).symm.trans ((matchPath_shape hpy).2 t rest' ht)
    apply hxy (hxm.trans hym.symm)
    rw [← (matchPath_shape hpx).1, (matchPath_shape hpy).1, hs, ht, Option.some.inj hst]
    rfl
  match matching m path, hp with
  | [], _ | [_], _ => simp
  | _ :: _ :: _, hp => exact ((List.pairwise_cons.1 hp).1 _ (List.mem_cons_self _ _)).elim

/-! ## What each handler can call -/

/-- the calls the handler of an endpoint can make, for the path's `set` and `key`: responses, and the manager and
generator calls of its own route -/
def Endpoint.may (set key : String) : Endpoint → Call → Bool
  | _, .write _ => true
  | .wellKnown, .getKeySet s => s == idTokenKeyName
  | .getKey, .getKey s k => s == set && k == key
  | .getKeySet, .getKeySet s => s == set
  | .create, .generate _ _ => true
  | .create, .addKeySet s _ => s == set
  | .updateKey, .addKey s _ => s == set
  | .updateKeySet, .addKeySet s _ => s == set
  | .deleteKey, .deleteKey s k => s == set && k == key
  | .deleteKeySet, .deleteKeySet s => s == set
  | _, _ => false

theorem decodeKeys_calls {P : Call → Prop} (hw : ∀ r, P (.write r)) (requests : List JsonValue) :
    (Handler.decodeKeys requests).Calls P := by
  induction requests with
  | nil => exact .pure _
  | cons request requests ih =>
    have hrest : ∀ key, (Handler.decodeKeys requests >>= fun keys => pure (key :: keys)).Calls P :=
      fun _ => .bind ih fun _ => .pure _
    rw [Handler.decodeKeys]
    split
    · exact .bind (.pure _) hrest
    · exact .bind (.write (hw _) (.pure _)) fun _ => .bind (.pure _) hrest

/-- **What a handler can call**, whatever the store and the generators answer. -/
theorem handle_calls (h : Handler) (r : Request) (ps : List (String × String)) (e : Endpoint) :
    (e.handle h r ps).Calls fun c => e.may (byName ps "set") (byName ps "key") c := by
  cases e with
  | wellKnown =>
    simp only [Endpoint.handle, Handler.wellKnown, Manager.getKeySet_bind]
    refine .getKeySet (by simp [Endpoint.may]) fun keys => ?_
    split
    · exact .write rfl (.pure _)
    · split <;> exact .write rfl (.pure _)
  | getKey =>
    simp only [Endpoint.handle, Handler.getKey, Manager.getKey_bind]
    refine .getKey (by simp [Endpoint.may]) fun keys => ?_
    rcases keys with _ | _ <;> exact .write rfl (.pure _)
  | getKeySet =>
    simp only [Endpoint.handle, Handler.getKeySet, Manager.getKeySet_bind]
    refine .getKeySet (by simp [Endpoint.may]) fun keys => ?_
    rcases keys with _ | _ <;> exact .write rfl (.pure _)
  | create =>
    have hk : ∀ req, (h.createKeys r (byName ps "set") req).Calls fun c =>
        Endpoint.create.may (byName ps "set") (byName ps "key") c := by
      intro req
      unfold Handler.createKeys
      split
      · exact .write rfl (.pure _)
      · refine .generate rfl fun g => ?_
        rcases g with _ | keys
        · exact .write rfl (.pure _)
        · refine .addKeySet (by simp [Endpoint.may]) fun a => ?_
          rcases a with _ | _ <;> exact .write rfl (.pure _)
    simp only [Endpoint.handle, Handler.create]
    split
    · exact .bind (.write rfl (.pure _)) fun _ => hk _
    · exact hk _
  | updateKey =>
    simp only [Endpoint.handle, Handler.updateKey]
    split
    · exact .write rfl (.pure _)
    · refine .addKey (by simp [Endpoint.may]) fun a => ?_
      rcases a with _ | _ <;> exact .write rfl (.pure _)
  | updateKeySet =>
    simp only [Endpoint.handle, Handler.updateKeySet]
    split
    · exact .write rfl (.pure _)
    · have hw : ∀ r, Endpoint.updateKeySet.may (byName ps "set") (byName ps "key") (.write r) = true := fun _ => rfl
      refine .bind (decodeKeys_calls hw _) fun keySet => ?_
      refine .addKeySet (by simp [Endpoint.may]) fun a => ?_
      rcases a with _ | _ <;> exact .write rfl (.pure _)
  | deleteKey =>
    simp only [Endpoint.handle, Handler.deleteKey, Manager.deleteKey_bind]
    refine .deleteKey (by simp [Endpoint.may]) fun a => ?_
    rcases a with _ | _ <;> exact .write rfl (.pure _)
  | deleteKeySet =>
    simp only [Endpoint.handle, Handler.deleteKeySet, Manager.deleteKeySet_bind]
    refine .deleteKeySet (by simp [Endpoint.may]) fun a => ?_
    rcases a with _ | _ <;> exact .write rfl (.pure _)

/-- **Every handler answers**, whatever the store and the generators answer. -/
theorem handle_answers (h : Handler) (r : Request) (ps : List (String × String)) (e : Endpoint) :
    (e.handle h r ps).Answers := by
  cases e with
  | wellKnown =>
    simp only [Endpoint.handle, Handler.wellKnown, Manager.getKeySet_bind]
    refine .getKeySet fun keys => ?_
    split
    · exact .write
    · split <;> exact .write
  | getKey => exact .getKey fun keys => by rcases keys with _ | _ <;> exact .write
  | getKeySet => exact .getKeySet fun keys => by rcases keys with _ | _ <;> exact .write
  | create =>
    have hk : ∀ req, (h.createKeys r (byName ps "set") req).Answers := by
      intro req
      unfold Handler.createKeys
      split
      · exact .write
      · refine .generate fun g => ?_
        rcases g with _ | keys
        · exact .write
        · exact .addKeySet fun a => by rcases a with _ | _ <;> exact .write
    simp only [Endpoint.handle, Handler.create]
    split
    · exact Prog.Answers.bind .write _
    · exact hk _
  | updateKey =>
    simp only [Endpoint.handle, Handler.updateKey]
    split
    · exact .write
    · exact .addKey fun a => by rcases a with _ | _ <;> exact .write
  | updateKeySet =>
    simp only [Endpoint.handle, Handler.updateKeySet]
    split
    · exact .write
    · exact Prog.Answers.bind_of_forall _ fun _ => .addKeySet fun a => by rcases a with _ | _ <;> exact .write
  | deleteKey => exact .deleteKey fun a => by rcases a with _ | _ <;> exact .write
  | deleteKeySet => exact .deleteKeySet fun a => by rcases a with _ | _ <;> exact .write

section
variable {e : Endpoint} {set key s : String} {c : Call}

/-- a GET route's handler changes no set -/
theorem may_changes_of_get (he : e.method = .get) (hc : e.may set key c) : c.changes = none := by
  cases e <;> cases c <;> simp_all [Endpoint.method, Endpoint.may, Call.changes]

/-- only a DELETE route's handler removes keys -/
theorem may_deletes (he : e.method ≠ .delete) (hc : e.may set key c) : c.deletes = false := by
  cases e <;> cases c <;> simp_all [Endpoint.method, Endpoint.may, Call.deletes]

/-- a handler changes only the set its path names -/
theorem may_changes (hc : e.may set key c) (hs : c.changes = some s) : s = set := by
  cases e <;> cases c <;> simp only [Endpoint.may, Call.changes, beq_iff_eq, Bool.and_eq_true, Option.some.injEq,
    reduceCtorEq, Bool.false_eq_true] at hc hs <;> subst hs <;> first | exact hc | exact hc.1

end

/-! ## The API over sequences of requests -/

/-- the calls a request can lead to: those of its route's handler -/
def ApiRequest.may (q : ApiRequest) (c : Call) : Prop :=
  ∃ e ps, route q.method q.path = some (e, ps) ∧ e.may (byName ps "set") (byName ps "key") c

/-- **What a sequence of requests can call**: only what the handler of one of their routes can. -/
theorem serveAll_calls (h : Handler) (qs : List ApiRequest) : (serveAll h qs).Calls fun c => ∃ q ∈ qs, q.may c := by
  induction qs with
  | nil => exact .pure _
  | cons q qs ih =>
    refine .bind ?_ fun _ => ih.mono fun c ⟨q', hq', hc⟩ => ⟨q', List.mem_cons_of_mem _ hq', hc⟩
    cases hr : route q.method q.path with
    | none => simp only [serve, hr, Option.map_none', Option.getD_none]; exact .pure _
    | some ep =>
      simp only [serve, hr, Option.map_some', Option.getD_some]
      exact (handle_calls h q.request ep.2 ep.1).mono fun c hc => ⟨q, List.mem_cons_self _ _, ep.1, ep.2, hr, hc⟩

variable {h : Handler} {qs : List ApiRequest} {w : World}

/-- **Reads change nothing.** Requests that are all GETs leave the store as it was. -/
theorem serveAll_gets (hq : ∀ q ∈ qs, q.method = .get) : ((serveAll h qs).run w).world.store = w.store := by
  rw [Prog.run_store]
  refine Call.foldl_apply_of_changes_none (fun c hc => ?_) _
  obtain ⟨q, hq', e, ps, hr, hc⟩ := (serveAll_calls h qs).run w c hc
  exact may_changes_of_get ((route_method hr).trans (hq q hq')) hc

theorem serveAll_gets_one :
    (∀ q ∈ [ApiRequest.mk .get ["keys", "s"] ⟨"http", "localhost:4445", none⟩,
        ApiRequest.mk .get ["keys", "s", "k1"] ⟨"http", "localhost:4445", none⟩], q.method = .get) ∧
    ((serveAll ⟨[]⟩ [ApiRequest.mk .get ["keys", "s"] ⟨"http", "localhost:4445", none⟩,
        ApiRequest.mk .get ["keys", "s", "k1"] ⟨"http", "localhost:4445", none⟩]).run
      ⟨KeyStore.empty.update "s" [⟨.symmetric "c2VjcmV0", "k1", "HS256", "sig"⟩] (by decide),
        fun _ => .error (.generator "")⟩).world.store =
      KeyStore.empty.update "s" [⟨.symmetric "c2VjcmV0", "k1", "HS256", "sig"⟩] (by decide) :=
  have hq : ∀ q ∈ [ApiRequest.mk .get ["keys", "s"] ⟨"http", "localhost:4445", none⟩,
      ApiRequest.mk .get ["keys", "s", "k1"] ⟨"http", "localhost:4445", none⟩], q.method = .get := by decide
  ⟨hq, serveAll_gets hq⟩

/-- **No key is lost without a DELETE.** Requests none of which is a DELETE never remove or change a stored key:
each set only grows at its end. -/
theorem serveAll_grows (hq : ∀ q ∈ qs, q.method ≠ .delete) (set : String) :
    w.store.sets set <+: ((serveAll h qs).run w).world.store.sets set := by
  rw [Prog.run_store]
  refine Call.foldl_apply_grows (fun c hc => ?_) _ _
  obtain ⟨q, hq', e, ps, hr, hc⟩ := (serveAll_calls h qs).run w c hc
  exact may_deletes ((route_method hr).trans_ne (hq q hq')) hc

theorem serveAll_grows_post :
    (∀ q ∈ [ApiRequest.mk .put ["keys", "s", "k2"] ⟨"http", "localhost:4445",
          some (.object [("kty", .string "oct"), ("k", .string "c2VjcmV0"), ("kid", .string "k2")])⟩,
        ApiRequest.mk .post ["keys", "s"] ⟨"http", "localhost:4445", some (.object [("alg", .string "HS256")])⟩],
      q.method ≠ .delete) ∧
    (KeyStore.empty.update "s" [⟨.symmetric "c2VjcmV0", "k1", "HS256", "sig"⟩] (by decide)).sets "s" <+:
      ((serveAll ⟨[]⟩ [ApiRequest.mk .put ["keys", "s", "k2"] ⟨"http", "localhost:4445",
          some (.object [("kty", .string "oct"), ("k", .string "c2VjcmV0"), ("kid", .string "k2")])⟩,
        ApiRequest.mk .post ["keys", "s"] ⟨"http", "localhost:4445", some (.object [("alg", .string "HS256")])⟩]).run
        ⟨KeyStore.empty.update "s" [⟨.symmetric "c2VjcmV0", "k1", "HS256", "sig"⟩] (by decide),
          fun _ => .ok [⟨.symmetric "a2V5", "k3", "HS256", "sig"⟩]⟩).world.store.sets "s" :=
  have hq : ∀ q ∈ [ApiRequest.mk .put ["keys", "s", "k2"] ⟨"http", "localhost:4445",
        some (.object [("kty", .string "oct"), ("k", .string "c2VjcmV0"), ("kid", .string "k2")])⟩,
      ApiRequest.mk .post ["keys", "s"] ⟨"http", "localhost:4445", some (.object [("alg", .string "HS256")])⟩],
      q.method ≠ .delete := by decide
  ⟨hq, @serveAll_grows ⟨[]⟩ _ ⟨KeyStore.empty.update "s" [⟨.symmetric "c2VjcmV0", "k1", "HS256", "sig"⟩] (by decide),
    fun _ => .ok [⟨.symmetric "a2V5", "k3", "HS256", "sig"⟩]⟩ hq "s"⟩

/-- **Frame.** A set that no POST, PUT or DELETE of the sequence names in its path is left as it was. -/
theorem serveAll_frame (s : String)
    (hq : ∀ q ∈ qs, q.method ≠ .get → ∀ e ps, route q.method q.path = some (e, ps) → byName ps "set" ≠ s) :
    ((serveAll h qs).run w).world.store.sets s = w.store.sets s := by
  rw [Prog.run_store]
  refine Call.foldl_apply_sets_of_ne (fun c hc hcs => ?_) _
  obtain ⟨q, hq', e, ps, hr, hc⟩ := (serveAll_calls h qs).run w c hc
  have hget : q.method ≠ .get := fun hm => by
    rw [may_changes_of_get ((route_method hr).trans hm) hc] at hcs
    cases hcs
  exact hq q hq' hget e ps hr (may_changes hc hcs).symm

theorem serveAll_frame_other :
    (∀ q ∈ [ApiRequest.mk .put ["keys", "a", "k2"] ⟨"http", "localhost:4445",
          some (.object [("kty", .string "oct"), ("k", .string "c2VjcmV0"), ("kid", .string "k2")])⟩,
        ApiRequest.mk .delete ["keys", "a"] ⟨"http", "localhost:4445", none⟩],
      q.method ≠ .get → ∀ e ps, route q.method q.path = some (e, ps) → byName ps "set" ≠ "b") ∧
    ((serveAll ⟨[]⟩ [ApiRequest.mk .put ["keys", "a", "k2"] ⟨"http", "localhost:4445",
          some (.object [("kty", .string "oct"), ("k", .string "c2VjcmV0"), ("kid", .string "k2")])⟩,
        ApiRequest.mk .delete ["keys", "a"] ⟨"http", "localhost:4445", none⟩]).run
      ⟨(KeyStore.empty.update "b" [⟨.symmetric "c2VjcmV0", "k1", "HS256", "sig"⟩] (by decide)),
        fun _ => .error (.generator "")⟩).world.store.sets "b" =
      (KeyStore.empty.update "b" [⟨.symmetric "c2VjcmV0", "k1", "HS256", "sig"⟩] (by decide)).sets "b" :=
  have hq : ∀ q ∈ [ApiRequest.mk .put ["keys", "a", "k2"] ⟨"http", "localhost:4445",
        some (.object [("kty", .string "oct"), ("k", .string "c2VjcmV0"), ("kid", .string "k2")])⟩,
      ApiRequest.mk .delete ["keys", "a"] ⟨"http", "localhost:4445", none⟩],
      q.method ≠ .get → ∀ e ps, route q.method q.path = some (e, ps) → byName ps "set" ≠ "b" := by
    intro q hq _ e ps hr
    simp only [List.mem_cons, List.mem_singleton, List.not_mem_nil, or_false] at hq
    rcases hq with rfl | rfl
    · cases (show route .put ["keys", "a", "k2"] = some (.updateKey, [("set", "a"), ("key", "k2")]) from rfl).symm.trans hr
      decide
    · cases (show route .delete ["keys", "a"] = some (.deleteKeySet, [("set", "a")]) from rfl).symm.trans hr
      decide
  ⟨hq, serveAll_frame "b" hq⟩

/-- **Every request is answered.** Each request that a route matches gets at least one response. -/
theorem serveAll_answers (h : Handler) (qs : List ApiRequest) (w : World) :
    (qs.filter fun q => (route q.method q.path).isSome).length ≤ (responses ((serveAll h qs).run w).calls).length := by
  induction qs generalizing w with
  | nil => simp
  | cons q qs ih =>
    simp only [serveAll, Prog.run_bind, responses_append, List.length_append]
    cases hr : route q.method q.path with
    | none => simpa [hr, serve, responses] using ih w
    | some ep =>
      obtain ⟨r, hw⟩ := (handle_answers h q.request ep.2 ep.1).run w
      have := List.length_pos.2 (responses_ne_nil hw)
      simp only [List.filter_cons, hr, Option.isSome_some, ite_true, List.length_cons, serve, Option.map_some',
        Option.getD_some]
      have := ih ((ep.1.handle h q.request ep.2).run w).world
      omega

theorem route_put_key {set kid : String} (hs : set ≠ "") (hk : kid ≠ "") :
    route .put ["keys", set, kid] = some (.updateKey, [("set", set), ("key", kid)]) := by
  simp [route, routes, keyHandlerPath, wellKnownKeysPath, matchPath, hs, hk]

theorem route_get_key {set kid : String} (hs : set ≠ "") (hk : kid ≠ "") :
    route .get ["keys", set, kid] = some (.getKey, [("set", set), ("key", kid)]) := by
  simp [route, routes, keyHandlerPath, wellKnownKeysPath, matchPath, hs, hk]

theorem route_post_set {set : String} (hs : set ≠ "") :
    route .post ["keys", set] = some (.create, [("set", set)]) := by
  simp [route, routes, keyHandlerPath, wellKnownKeysPath, matchPath, hs]

theorem route_wellKnown : route .get [".well-known", "jwks.json"] = some (.wellKnown, []) := rfl

/-- **Created ID-token keys are published.** From any store, a `POST /keys/hydra.openid.id-token` whose body decodes
to a configured algorithm, and whose generated keys the set can take, answers 201 with them; `GET
/.well-known/jwks.json` after it serves the set's keys whose kid starts with `public:`, the new ones after those the
set held. -/
theorem serveAll_create_wellKnown (h : Handler) (r r' : Request) (w : World) {req : CreateRequest}
    {keys : List JSONWebKey} (hd : CreateRequest.decode r.body = (req, none)) (ha : req.algorithm ∈ h.getGenerators)
    (hg : w.entropy 0 = .ok keys) (hnd : ((w.store.sets idTokenKeyName ++ keys).map JSONWebKey.keyID).Nodup)
    (hpub : (w.store.sets idTokenKeyName ++ keys).filter (hasPrefix "public:") ≠ []) :
    responses ((serveAll h [⟨.post, ["keys", idTokenKeyName], r⟩, ⟨.get, [".well-known", "jwks.json"], r'⟩]).run
      w).calls =
      [.created (r.scheme ++ "://" ++ r.host ++ "/keys/" ++ idTokenKeyName) (.keySet keys),
       .ok (.keySet ((w.store.sets idTokenKeyName ++ keys).filter (hasPrefix "public:")))] := by
  have hne : w.store.sets idTokenKeyName ++ keys ≠ [] := fun he => hpub (by simp [he])
  have hset : (w.store.update idTokenKeyName _ hnd).getKeySet idTokenKeyName =
      .ok (w.store.sets idTokenKeyName ++ keys) :=
    (KeyStore.getKeySet_eq_ok (by simpa using hne)).trans (by simp)
  simp [serveAll, serve, route_post_set (show idTokenKeyName ≠ "" by decide), route_wellKnown, Endpoint.handle,
    byName, Handler.create, Handler.createKeys, Handler.wellKnown, hd, ha, hg, KeyStore.addKeySet_eq_ok hnd, hset,
    @findKeysByPrefix_eq_ok _ "public" hpub, Prog.run_bind, Writer.write, Writer.writeCreated, responses]

theorem serveAll_create_wellKnown_rs256 :
    let r : Request := ⟨"http", "localhost:4445", some (.object [("alg", .string "RS256")])⟩
    let keys : List JSONWebKey := [⟨.rsaPrivate "n" "AQAB" "d" "p" "q", "private:a", "RS256", "sig"⟩,
      ⟨.rsaPublic "n" "AQAB", "public:a", "RS256", "sig"⟩]
    let w : World := ⟨KeyStore.empty, fun _ => .ok keys⟩
    CreateRequest.decode r.body = (⟨"RS256", ""⟩, none) ∧ "RS256" ∈ Handler.getGenerators ⟨[]⟩ ∧
    w.entropy 0 = .ok keys ∧ ((w.store.sets idTokenKeyName ++ keys).map JSONWebKey.keyID).Nodup ∧
    (w.store.sets idTokenKeyName ++ keys).filter (hasPrefix "public:") ≠ [] ∧
    responses ((serveAll ⟨[]⟩ [⟨.post, ["keys", idTokenKeyName], r⟩, ⟨.get, [".well-known", "jwks.json"], r⟩]).run
      w).calls =
      [.created (r.scheme ++ "://" ++ r.host ++ "/keys/" ++ idTokenKeyName) (.keySet keys),
       .ok (.keySet ((w.store.sets idTokenKeyName ++ keys).filter (hasPrefix "public:")))] :=
  have hd : CreateRequest.decode (some (.object [("alg", .string "RS256")])) = (⟨"RS256", ""⟩, none) := by decide
  have ha : "RS256" ∈ Handler.getGenerators ⟨[]⟩ := by decide
  have hnd : ((KeyStore.empty.sets idTokenKeyName ++
      ([⟨.rsaPrivate "n" "AQAB" "d" "p" "q", "private:a", "RS256", "sig"⟩,
       ⟨.rsaPublic "n" "AQAB", "public:a", "RS256", "sig"⟩] : List JSONWebKey)).map JSONWebKey.keyID).Nodup := by
    decide
  have hpub : (KeyStore.empty.sets idTokenKeyName ++
      ([⟨.rsaPrivate "n" "AQAB" "d" "p" "q", "private:a", "RS256", "sig"⟩,
       ⟨.rsaPublic "n" "AQAB", "public:a", "RS256", "sig"⟩] : List JSONWebKey)).filter (hasPrefix "public:") ≠ [] := by
    decide
  ⟨hd, ha, rfl, hnd, hpub, serveAll_create_wellKnown ⟨[]⟩ ⟨"http", "localhost:4445", _⟩ _
    ⟨KeyStore.empty, fun _ => .ok _⟩ hd ha rfl hnd hpub⟩

end Hydra.Jwk
