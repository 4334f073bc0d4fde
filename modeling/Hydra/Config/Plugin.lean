/-
Lean model of `PluginConnection` of `config/backend_plugin.go`: the database backend loaded from a Go plugin, as a
state machine over the connection's fields `plugin`, `didConnect` and `db`, with the environment (`Env`) giving what
`plugin.Open` answers for the configured path, what the plugin's symbols are, and whether a database answers `Ping`.

`load` opens the plugin once and keeps it. `Connect` returns at once when `didConnect` is set, but nothing ever
sets it. The four manager constructors share one shape, `newManager`: load, look the symbol up, assert its type,
call it on `c.db`; `NewConsentManager` alone reports the symbol it found when the assertion fails.

Results, for every environment and every sequence of operations:
- `run_plugin` (run lemma, from `step_plugin`): once a plugin is loaded it is kept, whatever is called after.
- `run_didConnect`: `didConnect` is never set, so from the initial state it stays false and the guard of `Connect`
  never fires.
- `connect_reconnects`: in every reachable state, a `Connect` that gets its database from the plugin stores a new
  handle, however many times it connected before.
- `newManager_error`: every error of the four constructors is the loading error, or names the symbol looked up;
  `newConsentManager_mismatch`: only `NewConsentManager` reports the symbol found.
- `newManager_before_connect`: after any operations without a `Connect`, each constructor builds its manager over
  no database handle.
- `ping_before_connect`: `Ping` before a successful `Connect` dereferences the nil handle.
-/
import Mathlib.Logic.Basic

namespace Hydra.Config

/-- a database handle (`*sqlx.DB`), by the name of the connection it stands for -/
abbrev DB := String

/-- the Go type of a symbol a plugin exports, as the code asserts it -/
inductive SymbolType where
  /-- `func(url string) (*sqlx.DB, error)` -/
  | connect
  /-- `func(*sqlx.DB, fosite.Hasher) client.Manager` -/
  | newClientManager
  /-- `func(*sqlx.DB, *jwk.AEAD) jwk.Manager` -/
  | newJWKManager
  /-- `func(*sqlx.DB, client.Manager, logrus.FieldLogger) pkg.FositeStorer` -/
  | newOAuth2Manager
  /-- `func(*sqlx.DB) consent.Manager` -/
  | newConsentManager
  /-- any other type -/
  | other (type : String)
deriving DecidableEq, Repr

/-- a loaded plugin: its package path (`p.pluginpath`, which the error of `Lookup` names), what `Lookup` finds under
a name (the symbol's type, and the symbol as `%v` prints it), and what its `Connect` answers for a database URL -/
structure Plugin where
  path : String
  lookup : String → Option (SymbolType × String)
  connect : String → Except String DB

/-- the world the connection runs in (`plugin.Open` is given `cf.DatabasePlugin`, and its answer is `openPlugin`) -/
structure Env where
  /-- `cf.DatabaseURL` -/
  databaseURL : String
  /-- what `plugin.Open(cf.DatabasePlugin)` answers -/
  openPlugin : Except String Plugin
  /-- whether a database answers `Ping` -/
  ping : DB → Bool

/-- the fields of `PluginConnection` the code reads and writes (`nil` is `none`) -/
structure PluginConnection where
  plugin : Option Plugin
  didConnect : Bool
  db : Option DB

/-- the connection as `config` builds it: nothing loaded, not connected -/
def PluginConnection.init : PluginConnection := ⟨none, false, none⟩

variable (env : Env)

/-- the error of `p.Lookup` for a missing symbol -/
def lookupError (p : Plugin) (name : String) : String :=
  "plugin: symbol " ++ name ++ " not found in plugin " ++ p.path

/-- `load`: the plugin, opened on the first call only -/
def load (c : PluginConnection) : Except String Plugin × PluginConnection :=
  match c.plugin with
  | some p => (.ok p, c)
  | none =>
    match env.openPlugin with
    | .error err => (.error err, c)
    | .ok p => (.ok p, { c with plugin := some p })

/-- how `Connect` ends: `nil`, an error, or the process stopped by `Fatal` -/
inductive ConnectResult where
  | ok
  | error (msg : String)
  | fatal (msg : String)
deriving DecidableEq, Repr

/-- `Connect` -/
def connect (c : PluginConnection) : ConnectResult × PluginConnection :=
  if c.didConnect then (.ok, c) else
  match load env c with
  | (.error err, c) => (.error err, c)
  | (.ok p, c) =>
    match p.lookup "Connect" with
    | none => (.error ("Unable to look up `Connect`: " ++ lookupError p "Connect"), c)
    | some (.connect, _) =>
      match p.connect env.databaseURL with
      | .error err => (.error ("Could not connect to database: " ++ err), c)
      | .ok db =>
        let c := { c with db := some db }
        if env.ping db then (.ok, c) else (.fatal "Could not ping database connection from plugin", c)
    | some _ => (.error "Unable to type assert `Connect`", c)

/-- how `Ping` ends: `c.db.Ping()` on a nil handle dereferences it -/
inductive PingResult where
  | ok
  | error
  | nilDereference
deriving DecidableEq, Repr

/-- `Ping` -/
def ping (c : PluginConnection) : PingResult :=
  match c.db with
  | none => .nilDereference
  | some db => if env.ping db then .ok else .error

/-- a manager the plugin builds: the constructor that built it, and the database handle it was given -/
structure Manager where
  constructor : String
  db : Option DB
deriving DecidableEq, Repr

/-- the shape of the four manager constructors: load the plugin, look `name` up, assert its type, call it on
`c.db`; `mismatch` is the error of a failed assertion, given the symbol found -/
def newManager (name : String) (type : SymbolType) (mismatch : String → String) (c : PluginConnection) :
    Except String Manager × PluginConnection :=
  match load env c with
  | (.error err, c) => (.error err, c)
  | (.ok p, c) =>
    match p.lookup name with
    | none => (.error ("Unable to look up `" ++ name ++ "`: " ++ lookupError p name), c)
    | some (t, found) => if t = type then (.ok ⟨name, c.db⟩, c) else (.error (mismatch found), c)

/-- `NewClientManager` -/
def newClientManager : PluginConnection → Except String Manager × PluginConnection :=
  newManager env "NewClientManager" .newClientManager fun _ => "Unable to type assert `NewClientManager`"

/-- `NewJWKManager` -/
def newJWKManager : PluginConnection → Except String Manager × PluginConnection :=
  newManager env "NewJWKManager" .newJWKManager fun _ => "Unable to type assert `NewJWKManager`"

/-- `NewOAuth2Manager` -/
def newOAuth2Manager : PluginConnection → Except String Manager × PluginConnection :=
  newManager env "NewOAuth2Manager" .newOAuth2Manager fun _ => "Unable to type assert `NewOAuth2Manager`"

/-- `NewConsentManager`: its failed assertion reports the symbol found (`errors.Errorf(..., got %v, l)`) -/
def newConsentManager : PluginConnection → Except String Manager × PluginConnection :=
  newManager env "NewConsentManager" .newConsentManager fun found =>
    "Unable to type assert `NewConsentManager`, got " ++ found

/-- the operations of a `PluginConnection` -/
inductive Op where
  | connect
  | ping
  | newClientManager
  | newJWKManager
  | newOAuth2Manager
  | newConsentManager
deriving DecidableEq, Repr

/-- the connection after one operation -/
def step (c : PluginConnection) : Op → PluginConnection
  | .connect => (connect env c).2
  | .ping => c
  | .newClientManager => (newClientManager env c).2
  | .newJWKManager => (newJWKManager env c).2
  | .newOAuth2Manager => (newOAuth2Manager env c).2
  | .newConsentManager => (newConsentManager env c).2

/-- the connection after a sequence of operations -/
def run (c : PluginConnection) (ops : List Op) : PluginConnection := ops.foldl (step env) c

/-! ## What a step changes -/

variable {env}

/-- what `load` does to the connection: nothing, or record the plugin it opened where there was none -/
theorem load_snd (c : PluginConnection) :
    (load env c).2 = c ∨ c.plugin = none ∧ ∃ p, env.openPlugin = .ok p ∧ (load env c).2 = { c with plugin := some p } := by
  unfold load
  split
  · exact .inl rfl
  · split
    · exact .inl rfl
    · exact .inr ⟨‹_›, _, ‹_›, rfl⟩

/-- `load` fails only with the error of opening the plugin -/
theorem load_error {c : PluginConnection} {err : String} (h : (load env c).1 = .error err) :
    env.openPlugin = .error err := by
  unfold load at h
  split at h
  · cases h
  · split at h <;> simp_all

theorem load_of_plugin {c : PluginConnection} {p : Plugin} (h : c.plugin = some p) : load env c = (.ok p, c) := by
  simp [load, h]

theorem load_of_none {c : PluginConnection} {p : Plugin} (h : c.plugin = none) (hopen : env.openPlugin = .ok p) :
    load env c = (.ok p, { c with plugin := some p }) := by
  simp [load, h, hopen]

/-- what `Connect` does to the connection: nothing, or what `load` does, then possibly a new handle -/
theorem connect_snd (env : Env) (c : PluginConnection) :
    (connect env c).2 = c ∨ (connect env c).2 = (load env c).2 ∨
      ∃ db, (connect env c).2 = { (load env c).2 with db := some db } := by
  unfold connect
  split
  · exact .inl rfl
  · refine .inr ?_
    split <;> rename_i h <;> rw [h]
    · exact .inl rfl
    · split
      · exact .inl rfl
      · split
        · exact .inl rfl
        · exact .inr ⟨_, by split <;> rfl⟩
      · exact .inl rfl

/-- the manager constructors do to the connection what `load` does -/
theorem newManager_snd (name : String) (type : SymbolType) (mismatch : String → String) (c : PluginConnection) :
    (newManager env name type mismatch c).2 = (load env c).2 := by
  unfold newManager
  split <;> rename_i h <;> rw [h]
  split
  · rfl
  · split <;> rfl

/-- **What a step can do**: load the environment's plugin where there was none; `Connect` may also store a new
database handle. -/
theorem step_cases (env : Env) (c : PluginConnection) (op : Op) :
    ∃ c₁, (c₁ = c ∨ c.plugin = none ∧ ∃ p, env.openPlugin = .ok p ∧ c₁ = { c with plugin := some p }) ∧
      (step env c op = c₁ ∨ op = .connect ∧ ∃ db, step env c op = { c₁ with db := some db }) := by
  cases op with
  | connect =>
    rcases connect_snd env c with h | h | ⟨db, h⟩
    · exact ⟨c, .inl rfl, .inl h⟩
    · exact ⟨_, load_snd c, .inl h⟩
    · exact ⟨_, load_snd c, .inr ⟨rfl, db, h⟩⟩
  | ping => exact ⟨c, .inl rfl, .inl rfl⟩
  | _ => exact ⟨_, load_snd c, .inl (newManager_snd _ _ _ _)⟩

/-- a step keeps a loaded plugin -/
theorem step_plugin {c : PluginConnection} {p : Plugin} (h : c.plugin = some p) (op : Op) :
    (step env c op).plugin = some p := by
  obtain ⟨c₁, hc₁, hs⟩ := step_cases env c op
  have h₁ : c₁.plugin = some p := by
    rcases hc₁ with rfl | ⟨hn, -⟩
    · exact h
    · simp [h] at hn
  rcases hs with hs | ⟨-, db, hs⟩ <;> rw [hs] <;> exact h₁

/-- **Run lemma.** Once a plugin is loaded, every later operation keeps it. -/
theorem run_plugin {c : PluginConnection} {p : Plugin} (h : c.plugin = some p) (ops : List Op) :
    (run env c ops).plugin = some p := by
  induction ops generalizing c with
  | nil => exact h
  | cons op ops ih => exact ih (step_plugin h op)

theorem run_plugin_connect :
    let p : Plugin := ⟨"plugin/unnamed-db",
      fun n => if n = "Connect" then some (.connect, "0x1") else some (.other "func()", "0x2"), fun url => .ok url⟩
    let env : Env := ⟨"postgres://db/hydra", .ok p, fun _ => true⟩
    (PluginConnection.mk (some p) false none).plugin = some p ∧
    (run env ⟨some p, false, none⟩ [.connect, .newJWKManager]).plugin = some p :=
  ⟨rfl, run_plugin rfl _⟩

/-- the plugin a connection holds is the one the environment opens -/
def Opened (env : Env) (c : PluginConnection) : Prop := ∀ p, c.plugin = some p → env.openPlugin = .ok p

theorem step_opened {c : PluginConnection} (h : Opened env c) (op : Op) : Opened env (step env c op) := by
  intro p hp
  obtain ⟨c₁, hc₁, hs⟩ := step_cases env c op
  have h₁ : c₁.plugin = some p := by rcases hs with hs | ⟨-, db, hs⟩ <;> rw [hs] at hp <;> exact hp
  rcases hc₁ with rfl | ⟨-, p', hopen, rfl⟩
  · exact h p h₁
  · cases h₁; exact hopen

theorem run_opened (c : PluginConnection) (h : Opened env c) (ops : List Op) : Opened env (run env c ops) := by
  induction ops generalizing c with
  | nil => exact h
  | cons op ops ih => exact ih _ (step_opened h op)

/-- no step writes `didConnect` -/
theorem step_didConnect (c : PluginConnection) (op : Op) : (step env c op).didConnect = c.didConnect := by
  obtain ⟨c₁, hc₁, hs⟩ := step_cases env c op
  have h₁ : c₁.didConnect = c.didConnect := by
    rcases hc₁ with rfl | ⟨-, p, -, rfl⟩ <;> rfl
  rcases hs with hs | ⟨-, db, hs⟩ <;> rw [hs] <;> exact h₁

/-- **`didConnect` is never set.** Every run keeps it as it was; from the initial state it stays false. -/
theorem run_didConnect (c : PluginConnection) (ops : List Op) : (run env c ops).didConnect = c.didConnect := by
  induction ops generalizing c with
  | nil => rfl
  | cons op ops ih => exact (ih _).trans (step_didConnect c op)

/-- only `Connect` stores a database handle -/
theorem step_db {c : PluginConnection} {op : Op} (hop : op ≠ .connect) : (step env c op).db = c.db := by
  obtain ⟨c₁, hc₁, hs⟩ := step_cases env c op
  rcases hs with hs | ⟨hc, -⟩
  · rw [hs]; rcases hc₁ with rfl | ⟨-, p, -, rfl⟩ <;> rfl
  · exact absurd hc hop

theorem run_db (c : PluginConnection) {ops : List Op} (h : Op.connect ∉ ops) : (run env c ops).db = c.db := by
  induction ops generalizing c with
  | nil => rfl
  | cons op ops ih =>
    simp only [List.mem_cons, not_or] at h
    exact (ih _ h.2).trans (step_db (Ne.symm h.1))

/-- from the initial state, with a plugin that opens, `load` answers that plugin after any operations, and leaves
the handle as it was -/
theorem load_run_init (ops : List Op) {p : Plugin} (hopen : env.openPlugin = .ok p) :
    ∃ c, load env (run env .init ops) = (.ok p, c) ∧ c.db = (run env .init ops).db := by
  cases hp : (run env .init ops).plugin with
  | none => exact ⟨_, load_of_none hp hopen, rfl⟩
  | some p' =>
    cases (run_opened .init (fun _ h => by cases h) ops p' hp).symm.trans hopen
    exact ⟨_, load_of_plugin hp, rfl⟩

/-! ## Connecting -/

/-- a `Connect` that gets past the guard and gets a database from the plugin stores it -/
theorem connect_db {c : PluginConnection} {p : Plugin} {found : String} {db : DB} (hd : c.didConnect = false)
    (hl : (load env c).1 = .ok p) (hsym : p.lookup "Connect" = some (.connect, found))
    (hdb : p.connect env.databaseURL = .ok db) : (connect env c).2.db = some db := by
  rcases hl' : load env c with ⟨r, c'⟩
  simp only [connect, hd, hl', Bool.false_eq_true, ite_false]
  cases hl.symm.trans (congrArg Prod.fst hl')
  simp only [hsym, hdb]
  split <;> rfl

/-- **Every error names its cause.** An error of a manager constructor is the plugin's loading error, the lookup
error naming the symbol, or the constructor's own assertion error for the symbol found. -/
theorem newManager_error {name : String} {type : SymbolType} {mismatch : String → String} {c : PluginConnection}
    {err : String} (h : (newManager env name type mismatch c).1 = .error err) :
    env.openPlugin = .error err ∨
      (∃ p, (load env c).1 = .ok p ∧ err = "Unable to look up `" ++ name ++ "`: " ++ lookupError p name) ∨
      ∃ found, err = mismatch found := by
  unfold newManager at h
  split at h
  · rename_i hl
    cases h
    exact .inl (load_error (congrArg Prod.fst hl))
  · rename_i p c' hl
    split at h
    · cases h
      exact .inr (.inl ⟨p, by rw [hl], rfl⟩)
    · split at h
      · cases h
      · cases h
        exact .inr (.inr ⟨_, rfl⟩)

/-- **Only `NewConsentManager` reports the symbol it found.** With a plugin whose symbols have other types, the
assertion error of `NewConsentManager` shows the symbol; that of `NewClientManager` does not depend on it. -/
theorem newConsentManager_mismatch {c : PluginConnection} {p : Plugin} {t t' : SymbolType} {found found' : String}
    (hp : c.plugin = some p) (hc : p.lookup "NewConsentManager" = some (t, found)) (ht : t ≠ .newConsentManager)
    (hc' : p.lookup "NewClientManager" = some (t', found')) (ht' : t' ≠ .newClientManager) :
    (newConsentManager env c).1 = .error ("Unable to type assert `NewConsentManager`, got " ++ found) ∧
      (newClientManager env c).1 = .error "Unable to type assert `NewClientManager`" := by
  simp [newConsentManager, newClientManager, newManager, load_of_plugin hp, hc, ht, hc', ht']

/-- **Managers without a database.** After any operations none of which is `Connect`, each of the four constructors
builds its manager over no database handle, when the plugin opens and exports the symbol with the asserted type:
nothing checks that `Connect` ran. -/
theorem newManager_before_connect {ops : List Op} (h : Op.connect ∉ ops) {name : String} {type : SymbolType}
    {mismatch : String → String} {p : Plugin} {found : String} (hopen : env.openPlugin = .ok p)
    (hsym : p.lookup name = some (type, found)) :
    (newManager env name type mismatch (run env .init ops)).1 = .ok ⟨name, none⟩ := by
  obtain ⟨c, hl, hdb⟩ := load_run_init ops hopen
  simp only [newManager, hl, hsym, ite_true, hdb, run_db _ h]
  rfl

theorem newManager_before_connect_client :
    let p : Plugin := ⟨"plugin/unnamed-db",
      fun n => if n = "NewClientManager" then some (.newClientManager, "0x3") else none, fun url => .ok url⟩
    let env : Env := ⟨"postgres://db/hydra", .ok p, fun _ => true⟩
    Op.connect ∉ [Op.ping, .newJWKManager] ∧ env.openPlugin = .ok p ∧
    p.lookup "NewClientManager" = some (.newClientManager, "0x3") ∧
    (newClientManager env (run env .init [.ping, .newJWKManager])).1 = .ok ⟨"NewClientManager", none⟩ :=
  have h : Op.connect ∉ [Op.ping, .newJWKManager] := by decide
  ⟨h, rfl, rfl, newManager_before_connect h rfl rfl⟩

/-- **`Ping` before `Connect`.** After any operations none of which is `Connect`, `Ping` dereferences the nil
handle. -/
theorem ping_before_connect {ops : List Op} (h : Op.connect ∉ ops) :
    ping env (run env .init ops) = .nilDereference := by
  simp [ping, run_db _ h, PluginConnection.init]

theorem ping_before_connect_managers :
    let p : Plugin := ⟨"plugin/unnamed-db",
      fun n => if n = "Connect" then some (.connect, "0x1") else some (.other "func()", "0x2"), fun url => .ok url⟩
    let env : Env := ⟨"postgres://db/hydra", .ok p, fun _ => true⟩
    Op.connect ∉ [Op.newClientManager, .ping, .newJWKManager] ∧
    ping env (run env .init [.newClientManager, .ping, .newJWKManager]) = .nilDereference :=
  have h : Op.connect ∉ [Op.newClientManager, .ping, .newJWKManager] := by decide
  ⟨h, ping_before_connect h⟩

end Hydra.Config
