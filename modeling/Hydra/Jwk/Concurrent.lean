/-
Lean model of the key API serving two requests at once: `net/http` runs each request's handler in its own goroutine,
and the handlers of `jwk/handler.go` share only the key store (and `h.Generators`, which `GetGenerators` only ever
sets to the same four defaults). `serveTwo` puts the handlers of two requests, as `SetRoutes` routes them, on the two
threads of a `Hydra.Sys`, each with its own generator outcomes.

Every handler makes at most one manager call on every path (`handle_atMostOnce`): `Create` generates, then calls
`AddKeySet`; `UpdateKeySet` decodes every key before its one `AddKeySet`; the others make one manager call. So the
linearizability of `Hydra.Linearizable` applies, where `createOrGetJWK`, which reads the set and then writes it,
races (`Hydra.Server.createOrGetJWK_race`).

Results, for every handler configuration, store, generator outcomes and two requests:
- `handle_atMostOnce`: the handler of every endpoint touches the store at most once, whatever the store and the
  generators answer.
- `serveTwo_linearizable`: under every schedule in which both requests are answered, the store the two leave, and
  each request's responses and manager calls, are those of serving the two one after the other, in one of the two
  orders.
-/
import Hydra.Jwk.Routes
import Hydra.Linearizable

namespace Hydra.Jwk

open Hydra.Json

/-- the program that serves a request: its route's handler, nothing when no route matches -/
def ApiRequest.handler (h : Handler) (q : ApiRequest) : Prog Unit := (serve h q.method q.path q.request).getD (pure ())

/-- a program that writes one response and ends never touches the store -/
theorem local_write (resp : Response) : (Prog.write resp (.pure ()) : Prog Unit).Local := .write rfl (.pure _)

theorem decodeKeys_local (requests : List JsonValue) : (Handler.decodeKeys requests).Local :=
  decodeKeys_calls (P := fun c => c.touchesStore = false) (fun _ => rfl) requests

/-- **One store call.** The handler of every endpoint makes at most one manager call, whatever the store and the
generators answer. -/
theorem handle_atMostOnce (h : Handler) (r : Request) (ps : List (String × String)) (e : Endpoint) :
    (e.handle h r ps).AtMostOnce := by
  cases e with
  | wellKnown =>
    simp only [Endpoint.handle, Handler.wellKnown, Manager.getKeySet_bind]
    refine .getKeySet fun keys => ?_
    split
    · exact local_write _
    · split <;> exact local_write _
  | getKey => exact .getKey fun keys => by rcases keys with _ | _ <;> exact local_write _
  | getKeySet => exact .getKeySet fun keys => by rcases keys with _ | _ <;> exact local_write _
  | create =>
    have hk : ∀ req, (h.createKeys r (byName ps "set") req).AtMostOnce := by
      intro req
      unfold Handler.createKeys
      split
      · exact (local_write _).atMostOnce
      · refine .generate fun g => ?_
        rcases g with _ | keys
        · exact (local_write _).atMostOnce
        · exact .addKeySet fun a => by rcases a with _ | _ <;> exact local_write _
    simp only [Endpoint.handle, Handler.create]
    split
    · exact .write (hk _)
    · exact hk _
  | updateKey =>
    simp only [Endpoint.handle, Handler.updateKey]
    split
    · exact (local_write _).atMostOnce
    · exact .addKey fun a => by rcases a with _ | _ <;> exact local_write _
  | updateKeySet =>
    simp only [Endpoint.handle, Handler.updateKeySet]
    split
    · exact (local_write _).atMostOnce
    · exact (decodeKeys_local _).bind_atMostOnce fun _ =>
        .addKeySet fun a => by rcases a with _ | _ <;> exact local_write _
  | deleteKey => exact .deleteKey fun a => by rcases a with _ | _ <;> exact local_write _
  | deleteKeySet => exact .deleteKeySet fun a => by rcases a with _ | _ <;> exact local_write _

theorem handler_atMostOnce (h : Handler) (q : ApiRequest) : (q.handler h).AtMostOnce := by
  unfold ApiRequest.handler serve
  cases route q.method q.path with
  | none => exact .pure ()
  | some ep => exact handle_atMostOnce h q.request ep.2 ep.1

/-- two requests served at once on the store `st`, each handler drawing its own generator outcomes -/
def serveTwo (h : Handler) (st : KeyStore) (q₁ q₂ : ApiRequest) (e₁ e₂ : Entropy) : Sys Unit :=
  ⟨st, ⟨q₁.handler h, e₁⟩, ⟨q₂.handler h, e₂⟩⟩

/-- **Two requests at once are linearizable.** Under every schedule of their manager, generator and writer calls in
which both requests are answered, the store they leave, and each request's responses and calls, are those of serving
the two one after the other, in one of the two orders. -/
theorem serveTwo_linearizable (h : Handler) (st : KeyStore) (q₁ q₂ : ApiRequest) (e₁ e₂ : Entropy) (σ : List Tid)
    (h₁ : ((serveTwo h st q₁ q₂ e₁ e₂).run σ).a.result.isSome)
    (h₂ : ((serveTwo h st q₁ q₂ e₁ e₂).run σ).b.result.isSome) :
    (serveTwo h st q₁ q₂ e₁ e₂).view σ = (serveTwo h st q₁ q₂ e₁ e₂).serialAB ∨
      (serveTwo h st q₁ q₂ e₁ e₂).view σ = (serveTwo h st q₁ q₂ e₁ e₂).serialBA :=
  Sys.view_serial (handler_atMostOnce h q₁) (handler_atMostOnce h q₂) h₁ h₂

theorem serveTwo_linearizable_delete_get :
    let r : Request := ⟨"http", "localhost:4445", none⟩
    let s := serveTwo ⟨[]⟩ KeyStore.empty ⟨.delete, ["keys", "s"], r⟩ ⟨.get, ["keys", "s"], r⟩
      (fun _ => .error (.generator "")) (fun _ => .error (.generator ""))
    (s.run [.b, .a, .a, .b]).a.result.isSome ∧ (s.run [.b, .a, .a, .b]).b.result.isSome ∧
    (s.view [.b, .a, .a, .b] = s.serialAB ∨ s.view [.b, .a, .a, .b] = s.serialBA) :=
  ⟨by decide, by decide, serveTwo_linearizable _ _ _ _ _ _ _ (by decide) (by decide)⟩

end Hydra.Jwk
