/-
Lean model of `runMigrateSQL` and `MigrateSQL` of package `cli` (in `src/cmd/server/helper_keys.go`, which holds the
Go file after the key helpers): the `migrate sql` command runs `CreateSchemas` of four SQL managers, kept in a Go
map by name, and adds up the migrations each one applies.

Go leaves the iteration order of a map unspecified (and randomises it), so the loop is modelled over every order of
the four names: `runMigrateSQL schemas order` for any `order` that is a permutation of `schemaNames`. A manager's
`CreateSchemas` is its answer in `schemas`: the number of migrations it applied, or its error. Besides the lines the
command prints, the loop's state records the managers whose migrations were applied (`applied`), which is what the
database holds afterwards. `MigrateSQL` takes the outcome of `connectToSql` as given; `connectToSql` itself is
modelled below it, with `url.Parse` abstracted by the scheme it finds and `pkg.Retry` (absent from src/) by the
number of attempts its time limits allow. The closure it retries rewrites the DSN it captured, so each attempt opens
the DSN the previous one opened, rewritten once more.

Results, for every order and every answer of the managers:
- `migrateLoop_ok`, `migrateLoop_error` (loop lemmas): the loop applies the managers in order up to the first that
  fails, adding up their counts.
- `runMigrateSQL_total`: when every manager succeeds, the run succeeds and prints the same total whatever the map's
  order: the sum of the four counts.
- `runMigrateSQL_error`: when a manager fails, the run stops at the first failing manager in the map's order, and
  names it in its error; the managers before it, and only those, have applied their migrations. What the database
  holds after a failed run therefore depends on the order the map is walked in.
- `migrateSQL_exit`: the command exits with status 1 exactly when it was given a database URL and the connection or
  one of the migrations failed, and with 0 otherwise; with no argument it prints the usage alone.
- `connectToSql_first_ok`, `connectToSql_all_error`: attempt `k` opens the DSN rewritten `k + 1` times
  (`openedAt`); the connection is made at the first attempt whose ping succeeds, or the last attempt's error is
  returned.
- `openedAt_const_iff`: every attempt opens the same DSN exactly when the scheme is not MySQL or the first rewrite
  leaves no `mysql://` in the DSN; otherwise the second attempt opens a shorter DSN than the first.
-/
import Mathlib

namespace Hydra.Cli

/-- the names of the schema creators `runMigrateSQL` holds in its map -/
def schemaNames : List String := ["client", "oauth2", "jwk", "consent"]

/-- what each manager's `CreateSchemas` answers: the number of migrations it applied, or its error -/
abbrev Schemas := String → Except String Nat

/-- the count a manager adds to the total (none when it fails) -/
def Schemas.count (schemas : Schemas) (name : String) : Nat :=
  match schemas name with
  | .ok num => num
  | .error _ => 0

/-- the manager succeeds -/
def Schemas.succeeds (schemas : Schemas) (name : String) : Bool := (schemas name).isOk

/-- `errors.Wrapf(err, "Could not apply ... SQL migrations", k)` -/
structure MigrateError where
  name : String
  cause : String
deriving DecidableEq, Repr

/-- the text of the error -/
def MigrateError.message (e : MigrateError) : String :=
  "Could not apply `" ++ e.name ++ "` SQL migrations: " ++ e.cause

/-- the state of the loop: the lines printed, the managers whose migrations were applied, the running total -/
structure MigrateState where
  output : List String
  applied : List String
  total : Nat
deriving DecidableEq, Repr

/-- the loop of `runMigrateSQL` over the map, walked in `order`: the state it ends in, and its error -/
def migrateLoop (schemas : Schemas) : MigrateState → List String → MigrateState × Option MigrateError
  | st, [] => (st, none)
  | st, k :: order =>
    let st := { st with output := st.output ++ ["Applying `" ++ k ++ "` SQL migrations...\n"] }
    match schemas k with
    | .error err => (st, some ⟨k, err⟩)
    | .ok num =>
      migrateLoop schemas
        { output := st.output ++ ["Applied " ++ toString num ++ " `" ++ k ++ "` SQL migrations.\n"],
          applied := st.applied ++ [k], total := st.total + num } order

/-- `runMigrateSQL`, its map walked in `order` -/
def runMigrateSQL (schemas : Schemas) (order : List String) : MigrateState × Option MigrateError :=
  let r := migrateLoop schemas ⟨[], [], 0⟩ order
  match r.2 with
  | some e => (r.1, some e)
  | none =>
    ({ r.1 with output := r.1.output ++
        ["Migration successful! Applied a total of " ++ toString r.1.total ++ " SQL migrations.\n"] }, none)

/-- `MigrateSQL`: the lines printed and the exit status, for the command's arguments, the outcome of
`connectToSql` on the database URL, and the managers' answers -/
def migrateSQL (usage : String) (args : List String) (connect : String → Except String Unit) (schemas : Schemas)
    (order : List String) : List String × Nat :=
  match args with
  | [] => ([usage ++ "\n"], 0)
  | dsn :: _ =>
    match connect dsn with
    | .error err => (["An error occurred while connecting to SQL: " ++ err], 1)
    | .ok () =>
      match runMigrateSQL schemas order with
      | (st, some e) => (st.output ++ ["An error occurred while running the migrations: " ++ e.message], 1)
      | (st, none) => (st.output ++ ["Migration successful!\n"], 0)

/-- `strings.Replace(dsn, "mysql://", "", -1)` on the characters of a DSN: every `mysql://`, left to right -/
def stripMysql : List Char → List Char
  | 'm' :: 'y' :: 's' :: 'q' :: 'l' :: ':' :: '/' :: '/' :: rest => stripMysql rest
  | c :: rest => c :: stripMysql rest
  | [] => []

/-- the first statement of the closure `connectToSql` retries, on the DSN it captured: a MySQL DSN loses every
`mysql://` it holds -/
def prepare (scheme dsn : String) : String := if scheme = "mysql" then ⟨stripMysql dsn.toList⟩ else dsn

/-- `pkg.Retry` (absent from src/) calling the closure of `connectToSql`, from attempt `i`, with `n` more attempts its
time limits allow. The closure writes the DSN it rewrote back to the variable it captured, so each attempt starts
from the DSN the previous one opened. `ping i scheme dsn` is what `sqlx.Open(scheme, dsn)` and `db.Ping()` answer at
attempt `i`. The result: the DSN each attempt opened, in order, and the DSN of the connection, or the last error. -/
def retryOpen (scheme : String) (ping : Nat → String → String → Except String Unit) (i : Nat) (dsn : String) (n : Nat) :
    List String × Except String String :=
  let dsn := prepare scheme dsn
  match ping i scheme dsn with
  | .ok () => ([dsn], .ok dsn)
  | .error err =>
    match n with
    | 0 => ([dsn], .error ("Could not connect to SQL: " ++ err))
    | n + 1 => let r := retryOpen scheme ping (i + 1) dsn n; (dsn :: r.1, r.2)

/-- `connectToSql`: `url.Parse` (abstracted by the scheme it finds, or its error), then the retried closure -/
def connectToSql (parse : String → Except String String) (ping : Nat → String → String → Except String Unit) (n : Nat)
    (dsn : String) : List String × Except String String :=
  match parse dsn with
  | .error err => ([], .error ("Could not parse DATABASE_URL: " ++ err))
  | .ok scheme => retryOpen scheme ping 0 dsn n

/-! ## The loop -/

variable {schemas : Schemas}

/-- **Loop lemma, success.** When every manager of `order` succeeds, the loop applies them all, in order, and adds
their counts to the total. -/
theorem migrateLoop_ok (st : MigrateState) {order : List String} (h : ∀ k ∈ order, schemas.succeeds k) :
    (migrateLoop schemas st order).2 = none ∧ (migrateLoop schemas st order).1.applied = st.applied ++ order ∧
      (migrateLoop schemas st order).1.total = st.total + (order.map schemas.count).sum := by
  induction order generalizing st with
  | nil => simp [migrateLoop]
  | cons k order ih =>
    simp only [List.mem_cons, forall_eq_or_imp] at h
    obtain ⟨hk, h⟩ := h
    cases hs : schemas k with
    | error err => simp [Schemas.succeeds, hs, Except.isOk, Except.toBool] at hk
    | ok num =>
      simp only [migrateLoop, hs]
      refine ⟨(ih _ h).1, by rw [(ih _ h).2.1]; simp, by rw [(ih _ h).2.2]; simp [Schemas.count, hs]; omega⟩

/-- **Loop lemma, failure.** The loop stops at the first manager that fails, with that manager's error, after
applying the managers before it. -/
theorem migrateLoop_error (st : MigrateState) {pre post : List String} {k err : String}
    (hpre : ∀ k' ∈ pre, schemas.succeeds k') (hk : schemas k = .error err) :
    (migrateLoop schemas st (pre ++ k :: post)).2 = some ⟨k, err⟩ ∧
      (migrateLoop schemas st (pre ++ k :: post)).1.applied = st.applied ++ pre := by
  induction pre generalizing st with
  | nil => simp [migrateLoop, hk]
  | cons k' pre ih =>
    simp only [List.mem_cons, forall_eq_or_imp] at hpre
    obtain ⟨hk', hpre⟩ := hpre
    cases hs : schemas k' with
    | error err => simp [Schemas.succeeds, hs, Except.isOk, Except.toBool] at hk'
    | ok num =>
      simp only [List.cons_append, migrateLoop, hs, List.append_eq]
      exact ⟨(ih _ hpre).1, by rw [(ih _ hpre).2]; simp⟩

theorem migrateLoop_isSome (st : MigrateState) (order : List String) :
    (migrateLoop schemas st order).2.isSome ↔ ∃ k ∈ order, schemas.succeeds k = false := by
  induction order generalizing st with
  | nil => simp [migrateLoop]
  | cons k order ih =>
    cases hs : schemas k with
    | error err => simp [migrateLoop, hs, Schemas.succeeds, Except.isOk, Except.toBool]
    | ok num => simp [migrateLoop, hs, ih, Schemas.succeeds, Except.isOk, Except.toBool]

/-! ## The run -/

theorem runMigrateSQL_snd (order : List String) :
    (runMigrateSQL schemas order).2 = (migrateLoop schemas ⟨[], [], 0⟩ order).2 := by
  unfold runMigrateSQL; dsimp only; split <;> simp_all

/-- **The total does not depend on the map's order.** When every manager succeeds, the run succeeds, applies all
four, and prints as its last line the sum of the four counts, whatever the order. -/
theorem runMigrateSQL_total {order : List String} (horder : order.Perm schemaNames)
    (h : ∀ k ∈ schemaNames, schemas.succeeds k) :
    (runMigrateSQL schemas order).2 = none ∧ (runMigrateSQL schemas order).1.applied.Perm schemaNames ∧
      (runMigrateSQL schemas order).1.output.getLast? =
        some ("Migration successful! Applied a total of " ++ toString (schemaNames.map schemas.count).sum ++
          " SQL migrations.\n") := by
  obtain ⟨h₁, h₂, h₃⟩ := migrateLoop_ok ⟨[], [], 0⟩ fun k hk => h k (horder.subset hk)
  have hsum : (order.map schemas.count).sum = (schemaNames.map schemas.count).sum := (horder.map _).sum_eq
  simp only [runMigrateSQL, h₁]
  simp [h₂, h₃, hsum, horder]

theorem runMigrateSQL_total_jwk_first :
    let schemas : Schemas := fun k => .ok (if k = "client" then 3 else 1)
    ["jwk", "client", "consent", "oauth2"].Perm schemaNames ∧ (∀ k ∈ schemaNames, schemas.succeeds k) ∧
    (runMigrateSQL schemas ["jwk", "client", "consent", "oauth2"]).2 = none ∧
    (runMigrateSQL schemas ["jwk", "client", "consent", "oauth2"]).1.applied.Perm schemaNames ∧
    (runMigrateSQL schemas ["jwk", "client", "consent", "oauth2"]).1.output.getLast? =
      some ("Migration successful! Applied a total of " ++ toString (schemaNames.map schemas.count).sum ++
        " SQL migrations.\n") :=
  have horder : ["jwk", "client", "consent", "oauth2"].Perm schemaNames := by decide
  have h : ∀ k ∈ schemaNames, Schemas.succeeds (fun k => .ok (if k = "client" then 3 else 1)) k := by decide
  ⟨horder, h, runMigrateSQL_total horder h⟩

/-- **A failed run stops at the first failure in the map's order.** The error names that manager; the managers
before it, and only those, have applied their migrations. -/
theorem runMigrateSQL_error {pre post : List String} {k err : String} (hpre : ∀ k' ∈ pre, schemas.succeeds k')
    (hk : schemas k = .error err) :
    (runMigrateSQL schemas (pre ++ k :: post)).2 = some ⟨k, err⟩ ∧
      (runMigrateSQL schemas (pre ++ k :: post)).1.applied = pre := by
  obtain ⟨h₁, h₂⟩ : (migrateLoop schemas ⟨[], [], 0⟩ (pre ++ k :: post)).2 = some ⟨k, err⟩ ∧
      (migrateLoop schemas ⟨[], [], 0⟩ (pre ++ k :: post)).1.applied = [] ++ pre := migrateLoop_error _ hpre hk
  simp only [runMigrateSQL, h₁]
  simpa using h₂

theorem runMigrateSQL_error_client :
    let schemas : Schemas := fun k => if k = "client" then .error "connection refused" else .ok 1
    (∀ k' ∈ ["jwk"], schemas.succeeds k') ∧ schemas "client" = .error "connection refused" ∧
    (runMigrateSQL schemas (["jwk"] ++ "client" :: ["consent", "oauth2"])).2 = some ⟨"client", "connection refused"⟩ ∧
    (runMigrateSQL schemas (["jwk"] ++ "client" :: ["consent", "oauth2"])).1.applied = ["jwk"] :=
  have hpre : ∀ k' ∈ ["jwk"],
      Schemas.succeeds (fun k => if k = "client" then .error "connection refused" else .ok 1) k' := by decide
  have hk : (fun k => if k = "client" then Except.error "connection refused" else .ok 1 : Schemas) "client" =
      .error "connection refused" := rfl
  ⟨hpre, hk, runMigrateSQL_error hpre hk⟩

theorem migrateSQL_status_eq_one (usage : String) (args : List String) (connect : String → Except String Unit)
    (order : List String) :
    (migrateSQL usage args connect schemas order).2 = 1 ↔
      ∃ dsn rest, args = dsn :: rest ∧ ((connect dsn).isOk = false ∨ ∃ k ∈ order, schemas.succeeds k = false) := by
  rcases args with _ | ⟨dsn, rest⟩
  · simp [migrateSQL]
  · have hrun : (migrateLoop schemas ⟨[], [], 0⟩ order).2.isSome ↔ ∃ k ∈ order, schemas.succeeds k = false :=
      migrateLoop_isSome _ order
    rw [← runMigrateSQL_snd] at hrun
    cases hc : connect dsn with
    | error err => simp [migrateSQL, hc, Except.isOk, Except.toBool]
    | ok u =>
      simp only [migrateSQL, hc]
      split <;> simp_all [Except.isOk, Except.toBool]

/-- the command exits with 0 or 1 -/
theorem migrateSQL_status (usage : String) (args : List String) (connect : String → Except String Unit)
    (order : List String) :
    (migrateSQL usage args connect schemas order).2 = 0 ∨ (migrateSQL usage args connect schemas order).2 = 1 := by
  rcases args with _ | ⟨dsn, rest⟩
  · exact .inl rfl
  · simp only [migrateSQL]
    split
    · exact .inr rfl
    · split <;> simp

/-- **Exit status.** `MigrateSQL` exits with 1 exactly when it was given a database URL and the connection failed,
or a manager of the map failed, and with 0 otherwise; given no argument, it prints the usage alone. -/
theorem migrateSQL_exit (usage : String) (args : List String) (connect : String → Except String Unit)
    (order : List String) :
    ((migrateSQL usage args connect schemas order).2 = 1 ↔
      ∃ dsn rest, args = dsn :: rest ∧ ((connect dsn).isOk = false ∨ ∃ k ∈ order, schemas.succeeds k = false)) ∧
    ((migrateSQL usage args connect schemas order).2 = 0 ∨ (migrateSQL usage args connect schemas order).2 = 1) ∧
    (args = [] → migrateSQL usage args connect schemas order = ([usage ++ "\n"], 0)) :=
  ⟨migrateSQL_status_eq_one usage args connect order, migrateSQL_status usage args connect order,
    fun h => by subst h; rfl⟩

/-! ## Connecting -/

/-- the characters of `mysql://` -/
theorem mysql_toList : "mysql://".toList = ['m', 'y', 's', 'q', 'l', ':', '/', '/'] := rfl

theorem stripMysql_length_le (cs : List Char) : (stripMysql cs).length ≤ cs.length := by
  induction cs using stripMysql.induct with
  | case1 rest ih => simp only [stripMysql, List.length_cons]; omega
  | case2 c rest _ ih => simp only [stripMysql, List.length_cons]; omega
  | case3 => rfl

/-- a DSN that the literal pattern of `stripMysql` does not match does not begin with `mysql://` -/
theorem mysql_not_prefix_of_ne {c : Char} {rest : List Char}
    (hc : ∀ t, c = 'm' → rest = 'y' :: 's' :: 'q' :: 'l' :: ':' :: '/' :: '/' :: t → False) :
    ¬ ['m', 'y', 's', 'q', 'l', ':', '/', '/'] <+: c :: rest := by
  rintro ⟨t, ht⟩
  simp only [List.cons_append, List.nil_append, List.cons.injEq] at ht
  exact hc t ht.1.symm ht.2.symm

/-- a DSN holding `mysql://` loses at least its eight characters -/
theorem stripMysql_length_add {cs : List Char} (h : "mysql://".toList <:+: cs) :
    (stripMysql cs).length + 8 ≤ cs.length := by
  rw [mysql_toList] at h
  induction cs using stripMysql.induct with
  | case1 rest ih => simp only [stripMysql, List.length_cons]; have := stripMysql_length_le rest; omega
  | case2 c rest hc ih =>
    have hin := (List.infix_cons_iff.1 h).resolve_left (mysql_not_prefix_of_ne hc)
    simp only [stripMysql, List.length_cons]
    have := ih hin
    omega
  | case3 => exact absurd (List.eq_nil_of_infix_nil h) (by simp)

/-- a DSN with no `mysql://` is left as it is; one with an `mysql://` anywhere loses characters -/
theorem stripMysql_eq_self_iff (cs : List Char) : stripMysql cs = cs ↔ ¬ "mysql://".toList <:+: cs := by
  rw [mysql_toList]
  induction cs using stripMysql.induct with
  | case1 rest ih =>
    have hlt : (stripMysql rest).length < rest.length + 8 := by have := stripMysql_length_le rest; omega
    simp only [stripMysql]
    exact ⟨fun h => absurd (congrArg List.length h) (by simpa using hlt.ne), fun h => absurd ⟨[], rest, rfl⟩ h⟩
  | case2 c rest hc ih =>
    -- `mysql://` stands in `c :: rest` at its start, which `hc` excludes, or in `rest`
    simp only [stripMysql, List.cons.injEq, true_and, ih, List.infix_cons_iff, not_or, iff_and_self]
    exact fun _ => mysql_not_prefix_of_ne hc
  | case3 => simp [stripMysql]

section Retry

variable {scheme : String} {ping : Nat → String → String → Except String Unit}

/-- the DSN attempt `k` opens: the captured DSN, rewritten once by every attempt up to this one -/
def openedAt (scheme dsn : String) (k : Nat) : String := (prepare scheme)^[k + 1] dsn

theorem openedAt_succ (scheme dsn : String) (k : Nat) :
    openedAt scheme dsn (k + 1) = openedAt scheme (prepare scheme dsn) k :=
  Function.iterate_succ_apply _ _ _

theorem openedAt_eq (scheme dsn : String) (k : Nat) :
    openedAt scheme dsn k = prepare scheme ((prepare scheme)^[k] dsn) :=
  Function.iterate_succ_apply' _ _ _

theorem retryOpen_ok {i : Nat} {dsn : String} {n : Nat} (h : ping i scheme (prepare scheme dsn) = .ok ()) :
    retryOpen scheme ping i dsn n = ([prepare scheme dsn], .ok (prepare scheme dsn)) := by
  simp only [retryOpen, h]

theorem retryOpen_error_zero {i : Nat} {dsn err : String} (h : ping i scheme (prepare scheme dsn) = .error err) :
    retryOpen scheme ping i dsn 0 = ([prepare scheme dsn], .error ("Could not connect to SQL: " ++ err)) := by
  rw [retryOpen, h]

/-- one failed attempt with attempts left: the next starts from the DSN this one opened -/
theorem retryOpen_error_succ {i : Nat} {dsn err : String} {n : Nat}
    (h : ping i scheme (prepare scheme dsn) = .error err) :
    retryOpen scheme ping i dsn (n + 1) =
      (prepare scheme dsn :: (retryOpen scheme ping (i + 1) (prepare scheme dsn) n).1,
        (retryOpen scheme ping (i + 1) (prepare scheme dsn) n).2) := by
  rw [retryOpen, h]

/-- `k` failed attempts: they open the DSN rewritten once, twice, ..., `k` times, and the retry goes on from the
last of them -/
theorem retryOpen_skip {i : Nat} {dsn : String} {n : Nat} (k : Nat) (hk : k ≤ n)
    (hfail : ∀ j < k, (ping (i + j) scheme (openedAt scheme dsn j)).isOk = false) :
    retryOpen scheme ping i dsn n =
      ((List.range k).map (openedAt scheme dsn) ++ (retryOpen scheme ping (i + k) ((prepare scheme)^[k] dsn) (n - k)).1,
        (retryOpen scheme ping (i + k) ((prepare scheme)^[k] dsn) (n - k)).2) := by
  induction k generalizing i dsn n with
  | zero => rfl
  | succ k ih =>
    obtain ⟨n, rfl⟩ : ∃ n', n = n' + 1 := ⟨n - 1, by omega⟩
    obtain ⟨err, herr⟩ : ∃ err, ping i scheme (prepare scheme dsn) = .error err := by
      cases h : ping i scheme (prepare scheme dsn) with
      | error err => exact ⟨err, rfl⟩
      | ok _ => simpa [openedAt, h, Except.isOk, Except.toBool] using hfail 0 (by omega)
    have ih' := @ih (i + 1) (prepare scheme dsn) n (by omega) fun j hj => by
      rw [← openedAt_succ, Nat.add_right_comm, Nat.add_assoc]; exact hfail (j + 1) (by omega)
    rw [retryOpen_error_succ herr, ih', List.range_succ_eq_map, List.map_cons, List.map_map, Nat.add_right_comm,
      Nat.add_assoc, ← Function.iterate_succ_apply, Nat.add_sub_add_right]
    simp only [Function.comp_def, openedAt_succ, List.cons_append]
    rfl

/-- **The first attempt that pings.** When attempt `k` is the first whose ping succeeds, the retry has opened the
DSN rewritten once, twice, ..., `k + 1` times, and connects with the last -/
theorem retryOpen_first_ok {i : Nat} {dsn : String} {n k : Nat} (hk : k ≤ n)
    (hfail : ∀ j < k, (ping (i + j) scheme (openedAt scheme dsn j)).isOk = false)
    (hok : ping (i + k) scheme (openedAt scheme dsn k) = .ok ()) :
    retryOpen scheme ping i dsn n = ((List.range (k + 1)).map (openedAt scheme dsn), .ok (openedAt scheme dsn k)) := by
  rw [retryOpen_skip k hk hfail, retryOpen_ok (by rwa [openedAt_eq] at hok), ← openedAt_eq, List.range_succ,
    List.map_append]
  rfl

/-- **Every attempt fails.** The retry has opened the DSN rewritten once, twice, ..., `n + 1` times, and gives the
error of the last attempt -/
theorem retryOpen_all_error {i : Nat} {dsn err : String} {n : Nat}
    (hfail : ∀ j < n, (ping (i + j) scheme (openedAt scheme dsn j)).isOk = false)
    (herr : ping (i + n) scheme (openedAt scheme dsn n) = .error err) :
    retryOpen scheme ping i dsn n =
      ((List.range (n + 1)).map (openedAt scheme dsn), .error ("Could not connect to SQL: " ++ err)) := by
  rw [retryOpen_skip n le_rfl hfail, Nat.sub_self, retryOpen_error_zero (by rwa [openedAt_eq] at herr),
    ← openedAt_eq, List.range_succ, List.map_append]
  rfl

theorem openedAt_const_iff_aux (scheme dsn : String) :
    (∀ k, openedAt scheme dsn k = openedAt scheme dsn 0) ↔
      (scheme = "mysql" → ¬ "mysql://".toList <:+: stripMysql dsn.toList) := by
  have hconst : (∀ k, openedAt scheme dsn k = openedAt scheme dsn 0) ↔
      prepare scheme (prepare scheme dsn) = prepare scheme dsn := by
    refine ⟨fun h => h 1, fun h k => ?_⟩
    rw [openedAt, Function.iterate_succ_apply]
    exact Function.iterate_fixed h k
  rw [hconst]
  by_cases hs : scheme = "mysql"
  · subst hs
    simp only [prepare, if_true, forall_const, ← stripMysql_eq_self_iff]
    exact ⟨congrArg String.data, congrArg String.mk⟩
  · simp [prepare, hs]

/-- **Connecting.** A URL that parses connects at the first attempt whose ping succeeds: the attempts have opened
the DSN rewritten once, twice, ..., `k + 1` times, and the connection is to the last of them -/
theorem connectToSql_first_ok {parse : String → Except String String} {dsn : String} {n k : Nat}
    (hparse : parse dsn = .ok scheme) (hk : k ≤ n)
    (hfail : ∀ j < k, (ping j scheme (openedAt scheme dsn j)).isOk = false)
    (hok : ping k scheme (openedAt scheme dsn k) = .ok ()) :
    connectToSql parse ping n dsn = ((List.range (k + 1)).map (openedAt scheme dsn), .ok (openedAt scheme dsn k)) := by
  rw [connectToSql, hparse]
  exact retryOpen_first_ok hk (by simpa only [Nat.zero_add]) (by rwa [Nat.zero_add])

/-- A MySQL URL holding a second `mysql://` inside its first: the first attempt opens `mysql://u@/db`, which the
driver refuses, and the retry connects to `u@/db`. -/
theorem connectToSql_first_ok_nested :
    connectToSql (fun _ => .ok "mysql") (fun _ _ d => if d = "u@/db" then .ok () else .error "refused") 3
      "mysql://mysmysql://ql://u@/db" = (["mysql://u@/db", "u@/db"], .ok "u@/db") :=
  (@connectToSql_first_ok "mysql" (fun _ _ d => if d = "u@/db" then .ok () else .error "refused")
    (fun _ => .ok "mysql") "mysql://mysmysql://ql://u@/db" 3 1 rfl (by decide) (by decide) rfl).trans rfl

/-- **Every attempt fails.** The attempts have opened the DSN rewritten once, twice, ..., `n + 1` times, and the error
is that of the last attempt -/
theorem connectToSql_all_error {parse : String → Except String String} {dsn err : String} {n : Nat}
    (hparse : parse dsn = .ok scheme) (hfail : ∀ j < n, (ping j scheme (openedAt scheme dsn j)).isOk = false)
    (herr : ping n scheme (openedAt scheme dsn n) = .error err) :
    connectToSql parse ping n dsn =
      ((List.range (n + 1)).map (openedAt scheme dsn), .error ("Could not connect to SQL: " ++ err)) := by
  rw [connectToSql, hparse]
  exact retryOpen_all_error (by simpa only [Nat.zero_add]) (by rwa [Nat.zero_add])

theorem connectToSql_all_error_nested :
    connectToSql (fun _ => .ok "mysql") (fun _ _ _ => .error "refused") 2 "mysql://mysmysql://ql://u@/db" =
      (["mysql://u@/db", "u@/db", "u@/db"], .error "Could not connect to SQL: refused") :=
  (@connectToSql_all_error "mysql" (fun _ _ _ => .error "refused") (fun _ => .ok "mysql")
    "mysql://mysmysql://ql://u@/db" "refused" 2 rfl (by decide) rfl).trans rfl

end Retry

end Hydra.Cli
