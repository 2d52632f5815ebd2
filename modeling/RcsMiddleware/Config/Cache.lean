import RcsMiddleware.Source.SystemConfig
import RcsMiddleware.Support.CacheAside

/-!
# Config — Cache

Any number of `SystemConfigRepository.get` and `set` on one setting, beside each other.  Nothing
orders the two stores: a `get` can fill the cache with a value it read before a `set` committed,
two `set`s can reach the two stores in opposite orders, and a `set` can stop between them
(`cache_stays_stale`).  The entry never expires, so it stays wrong.

**The cache is coherent** (`cache_coherent`) whenever no operation is in progress, when no `set`
changes the row while another operation is to write to the cache what it has read or committed,
and none that has changed it stops before its cache write takes effect.
-/

namespace Rcs

open Support Support.CacheAside

/-! ### The operations -/

/-- An operation on a setting. -/
inductive ConfigOp where
  | get
  | set (value : String)

def ConfigOp.isSet : ConfigOp → Bool
  | .get => false
  | .set _ => true

def ConfigOp.program (key : String) : ConfigOp → M Unit
  | .get => (configGet key).discard
  | .set value => configSet key value

/-- The phase of an operation that has read this row and is not to change it first: `get` is to
fill the cache from it, and `set` to write the value when the row has it already, for then no
`UPDATE` is sent. -/
def ConfigOp.phase : ConfigOp → Option (Option String) → Phase String
  | .get, some (some v) => .filling v
  | .set value, some (some v) => if v = value then .filling v else .idle
  | _, _ => .idle

theorem ConfigOp.phase_cases (op : ConfigOp) (row : Option (Option String)) :
    op.phase row = .idle ∨ ∃ v, op.phase row = .filling v ∧ row = some (some v) := by
  unfold ConfigOp.phase
  split
  · exact .inr ⟨_, rfl, rfl⟩
  · split
    · exact .inr ⟨_, rfl, rfl⟩
    · exact .inl rfl
  · exact .inl rfl

/-- A program that has ended. -/
def Ended (p : M Unit) : Prop := ∀ o k, p ≠ .op o k

/-- A process with this operation on a setting, in a phase. -/
inductive CacheUser (key : String) (op : ConfigOp) : Phase String → M Unit → Prop where
  | ended {p : M Unit} (hp : Ended p) : CacheUser key op .idle p
  | lookup {k : Except PyExc (Option RedisValue) → M Unit}
      (hk : ∀ r, CacheUser key op .idle (k r)) :
      CacheUser key op .idle (.op (.redisGet (sysconfigKey key)) k)
  | select {k : Except PyExc (Option (Option String)) → M Unit}
      (hok : ∀ row, CacheUser key op (op.phase row) (k (.ok row)))
      (herr : ∀ e, Ended (k (.error e))) : CacheUser key op .idle (.op (.selectConfig key) k)
  | save {value : String} {row : Option (Option String)} {k : Except PyExc Unit → M Unit}
      (hop : op = .set value)
      (hok : ∀ φ, φ = .filling value ∨ φ = .flushing value → CacheUser key op φ (k (.ok ())))
      (herr : ∀ e, Ended (k (.error e))) :
      CacheUser key op (op.phase row) (.op (.commit [configWrite key value row]) k)
  | store {φ : Phase String} {v : String} {k : Except PyExc Unit → M Unit}
      (hφ : φ = .filling v ∨ (φ = .flushing v ∧ op.isSet = true)) (hk : ∀ r, Ended (k r)) :
      CacheUser key op φ (.op (.redisSet (sysconfigKey key) (.text v)) k)

theorem ended_ret (u : Unit) : Ended (.ret u) := Prog.ended_ret u

theorem ended_raise (e : PyExc) : Ended (.raise e) := Prog.ended_raise e

theorem configSet_user (key value : String) :
    CacheUser key (.set value) .idle (configSet key value) := by
  refine .select (fun row => ?_) fun e => ended_raise e
  refine .save rfl (fun φ hφ => ?_) fun e => ended_raise e
  refine .store (hφ.imp_right fun hf => ⟨hf, rfl⟩) fun r => ?_
  cases r with
  | ok u => exact ended_ret u
  | error e => exact ended_raise e

theorem configGet_user (key : String) : CacheUser key .get .idle (configGet key).discard := by
  have hfetch : CacheUser key .get .idle (configFetch key).discard := by
    refine .select (fun row => ?_) fun e => ended_raise e
    rcases row with _ | _ | v
    · exact .ended (ended_ret ())
    · exact .ended (ended_ret ())
    · refine .store (.inl rfl) fun r => ?_
      cases r with
      | ok u => exact ended_ret ()
      | error e => exact ended_raise e
  refine .lookup fun r => ?_
  cases r with
  | error e => exact .ended (ended_raise e)
  | ok cached =>
      show CacheUser key .get .idle (configFrom key (cachedText cached)).discard
      cases cachedText cached with
      | none => exact hfetch
      | some text => exact .ended (ended_ret ())

theorem ConfigOp.program_user (key : String) (op : ConfigOp) :
    CacheUser key op .idle (op.program key) := by
  cases op with
  | get => exact configGet_user key
  | set value => exact configSet_user key value

/-! ### What a commit does -/

variable {ι : Type} [DecidableEq ι]

/-- A commit of one change that the tables accept. -/
theorem respond_commit_of_ok {i : ι} {write : Write} {w : World ι} {db : Tables}
    (hs : w.sessions i = []) (h : write.run w.db = .ok db) :
    respond i {} (.commit [write]) w =
      (.ok (), { w with db := db, sessions := Function.update w.sessions i [] }) := by
  simp only [respond, Fault.strike, World.commit, hs, List.nil_append, List.foldlM_cons, h]
  rfl

/-- A commit of one change that a constraint refuses. -/
theorem respond_commit_of_error {i : ι} {write : Write} {w : World ι} {column : String}
    (hs : w.sessions i = []) (h : write.run w.db = .error column) :
    respond i {} (.commit [write]) w = (.error (.integrityError column), w.setSession i []) := by
  simp only [respond, Fault.strike, World.commit, hs, List.nil_append, List.foldlM_cons, h]
  rfl

/-- The commit of a `set` that does not fail: refused; not sent, for the row has the value; or the
row has the value afterwards. -/
theorem respond_saveConfig {i : ι} {key value : String} {row : Option (Option String)}
    {w : World ι} (hs : w.sessions i = []) :
    ∃ r w', respond i {} (.commit [configWrite key value row]) w = (r, w') ∧
      w'.sessions i = [] ∧ ((w'.db = w.db ∧ ∃ e, r = .error e) ∨
        (w'.db = w.db ∧ r = .ok () ∧ row = some (some value)) ∨
        w'.db.configs key = some (some value)) := by
  cases row with
  | none =>
      by_cases hrow : (w.db.configs key).isSome = true
      · exact ⟨_, _, respond_commit_of_error hs (if_pos hrow), Function.update_self _ _ _,
          .inl ⟨rfl, _, rfl⟩⟩
      · exact ⟨_, _, respond_commit_of_ok hs (if_neg hrow), Function.update_self _ _ _,
          .inr (.inr (Function.update_self _ _ _))⟩
  | some old =>
      by_cases hold : old = some value
      · exact ⟨_, _, respond_commit_of_ok hs (if_pos hold), Function.update_self _ _ _,
          .inr (.inl ⟨rfl, rfl, by rw [hold]⟩)⟩
      · exact ⟨_, _, respond_commit_of_ok hs (if_neg hold), Function.update_self _ _ _,
          .inr (.inr (Function.update_self _ _ _))⟩

/-- What the commit of a `set` can do: fail; leave the row, which had the value; or give the row
the value, and its answer may be lost. -/
theorem exec_saveConfig {i : ι} {key value : String} {row : Option (Option String)}
    {w w' : World ι} {r : Except PyExc Unit}
    (h : Exec i (.commit [configWrite key value row]) w r w') (hs : w.sessions i = []) :
    w'.sessions i = [] ∧
      ((w'.db = w.db ∧ (∃ e, r = .error e)) ∨
        (w'.db = w.db ∧ r = .ok () ∧ row = some (some value)) ∨
        w'.db.configs key = some (some value)) := by
  obtain ⟨r₀, w₀, hrun, hsess, hdb⟩ := respond_saveConfig hs
  rcases exec_store h id with hr | ⟨e, rfl, rfl | hr⟩
  · obtain ⟨rfl, rfl⟩ := Prod.mk.inj (hr.trans hrun)
    exact ⟨hsess, hdb⟩
  · exact ⟨hs, .inl ⟨rfl, e, rfl⟩⟩
  · rw [hrun] at hr
    subst hr
    rcases hdb with ⟨hsame, -⟩ | ⟨hsame, -⟩ | hset
    · exact ⟨hsess, .inl ⟨hsame, e, rfl⟩⟩
    · exact ⟨hsess, .inl ⟨hsame, e, rfl⟩⟩
    · exact ⟨hsess, .inr (.inr hset)⟩

/-! ### The condition -/

/-- The value a process is to write to the cache without changing the row first. -/
def toCache : M Unit → Option String
  | .op (.redisSet _ (.text v)) _ => some v
  | .op (.commit [.updateConfig _ old v]) _ => if old = some v then some v else none
  | _ => none

/-- A step that changes the row succeeds, and finds no other process about to write the cache;
and a cache write of a `set` takes effect. -/
def Orderly (key : String) (ops : ι → ConfigOp) : Guard ι Op Ret PyExc Unit (World ι) :=
  fun c e c' =>
    (c'.shared.db.configs key ≠ c.shared.db.configs key →
      e.answer.isOk = true ∧ ∀ j, j ≠ e.pid → toCache (c.procs j) = none) ∧
    ((ops e.pid).isSet = true → ∀ v ∈ e.op.redisSetText?,
      cachedText (c'.shared.redis (sysconfigKey key)) = some v)

instance [Fintype ι] (key : String) (ops : ι → ConfigOp)
    (c : Config ι Op Ret PyExc Unit (World ι)) (e : Event ι Op Ret PyExc)
    (c' : Config ι Op Ret PyExc Unit (World ι)) : Decidable (Orderly key ops c e c') :=
  inferInstanceAs (Decidable (_ ∧ ((ops e.pid).isSet = true → ∀ v ∈ e.op.redisSetText?,
    cachedText (c'.shared.redis (sysconfigKey key)) = some v)))

/-- The Redis entry of the setting is absent, or holds the committed value. -/
def Coherent (key : String) (w : World ι) : Prop :=
  w.redis (sysconfigKey key) = none ∨
    ∃ v, w.redis (sysconfigKey key) = some (.text v) ∧ w.db.configs key = some (some v)

/-! ### The simulation -/

/-- The processes in `c` stand for the abstract state `s`. -/
structure Caches (key : String) (ops : ι → ConfigOp) (c : Config ι Op Ret PyExc Unit (World ι))
    (s : State ι String) : Prop where
  row : s.row = (c.shared.db.configs key).join
  cache : c.shared.redis (sysconfigKey key) = s.cache.map .text
  user : ∀ i, CacheUser key (ops i) (s.phase i) (c.procs i)
  session : ∀ i, c.shared.sessions i = []

variable {key : String} {ops : ι → ConfigOp} {c c' : Config ι Op Ret PyExc Unit (World ι)}
  {e : Event ι Op Ret PyExc} {s : State ι String} {expires : String → Prop}

/-- A process that is to write the cache shows it. -/
theorem CacheUser.toCache {o : ConfigOp} {φ : Phase String} {p : M Unit}
    (h : CacheUser key o φ p) (hp : toCache p = none) : φ = .idle := by
  cases h with
  | ended _ | lookup _ | select _ _ => rfl
  | store _ _ => cases hp
  | @save value row _ hop _ _ =>
      subst hop
      rcases row with _ | _ | v
      · rfl
      · rfl
      · rw [ConfigOp.phase]
        refine if_neg fun hv => ?_
        subst hv
        simp [Rcs.toCache, configWrite] at hp

/-- One process moves on, the others are where they were. -/
theorem user_update {i : ι} {φ : Phase String} {p : M Unit}
    (h : ∀ j, CacheUser key (ops j) (s.phase j) (c.procs j)) (hi : CacheUser key (ops i) φ p)
    (j : ι) :
    CacheUser key (ops j) (Function.update s.phase i φ j) (Function.update c.procs i p j) := by
  exact forall_update₂ (P := fun j φ p => CacheUser key (ops j) φ p) hi (fun j _ => h j) j

/-- As `user_update`, in the phase the process was in. -/
theorem user_stay {i : ι} {φ : Phase String} {p : M Unit}
    (h : ∀ j, CacheUser key (ops j) (s.phase j) (c.procs j)) (hφ : s.phase i = φ)
    (hi : CacheUser key (ops i) φ p) (j : ι) :
    CacheUser key (ops j) (s.phase j) (Function.update c.procs i p j) := by
  have hu := user_update (i := i) h hi j
  rwa [← hφ, Function.update_eq_self] at hu

/-- The `SELECT` of the setting. -/
theorem caches_select (h : Caches key ops c s) (hs : Step (system expires) c e c')
    {k : Except PyExc (Option (Option String)) → M Unit}
    (hp : c.procs e.pid = .op (.selectConfig key) k) (hi : s.phase e.pid = .idle)
    (hok : ∀ row, CacheUser key (ops e.pid) ((ops e.pid).phase row) (k (.ok row)))
    (herr : ∀ e, Ended (k (.error e))) :
    ∃ s', Relation.ReflTransGen Move s s' ∧ Caches key ops c' s' := by
  obtain ⟨r, w', -, hx, rfl⟩ := hs.inv_at hp
  obtain ⟨rfl, hr⟩ := exec_read hx id rfl
  rcases hr with rfl | ⟨x, rfl⟩
  · have huser := hok (c.shared.db.configs key)
    rcases (ops e.pid).phase_cases (c.shared.db.configs key) with hφ | ⟨v, hφ, hrow⟩
    · exact ⟨s, .refl, h.row, h.cache, user_stay h.user (hi.trans hφ.symm) huser, h.session⟩
    · have hv : s.row = some v := by rw [h.row, hrow]; rfl
      rw [hφ] at huser
      exact ⟨_, .single (.read hi hv), h.row, h.cache, user_update h.user huser, h.session⟩
  · exact ⟨s, .refl, h.row, h.cache, user_stay h.user hi (.ended (herr x)), h.session⟩

/-- A process gives up what it was to write. -/
theorem caches_drop {w' : World ι} {i : ι} {p : M Unit} {t : List (Event ι Op Ret PyExc)}
    (h : Caches key ops c s) (hp : Ended p)
    (hi : s.phase i = .idle ∨ ∃ v, s.phase i = .filling v)
    (hrow : w'.db.configs key = c.shared.db.configs key)
    (hcache : w'.redis (sysconfigKey key) = c.shared.redis (sysconfigKey key))
    (hsession : ∀ j, w'.sessions j = []) :
    ∃ s', Relation.ReflTransGen Move s s' ∧
      Caches key ops ⟨w', Function.update c.procs i p, t⟩ s' := by
  have hrow' : s.row = (w'.db.configs key).join := by rw [hrow]; exact h.row
  rcases hi with hi | ⟨v, hi⟩
  · exact ⟨s, .refl, hrow', hcache.trans h.cache, user_stay h.user hi (.ended hp), hsession⟩
  · exact ⟨_, .single (.drop hi), hrow', hcache.trans h.cache, user_update h.user (.ended hp),
      hsession⟩

/-- The commit of a `set`. -/
theorem caches_save (h : Caches key ops c s) (hs : Step (system expires) c e c')
    (hG : Orderly key ops c e c') {value : String} {row : Option (Option String)}
    {k : Except PyExc Unit → M Unit}
    (hp : c.procs e.pid = .op (.commit [configWrite key value row]) k)
    (hi : s.phase e.pid = (ConfigOp.set value).phase row)
    (hok : ∀ φ, φ = .filling value ∨ φ = .flushing value →
      CacheUser key (ops e.pid) φ (k (.ok ())))
    (herr : ∀ e, Ended (k (.error e))) :
    ∃ s', Relation.ReflTransGen Move s s' ∧ Caches key ops c' s' := by
  obtain ⟨r, w', he, hx, rfl⟩ := hs.inv_at hp
  obtain ⟨hself, hdb⟩ := exec_saveConfig hx (h.session e.pid)
  have hredis : w'.redis = c.shared.redis := (exec_sql hx trivial).1
  have hcache : w'.redis (sysconfigKey key) = s.cache.map .text := by rw [hredis]; exact h.cache
  have hsession : ∀ j, w'.sessions j = [] := by
    intro j
    by_cases hj : j = e.pid
    · exact hj ▸ hself
    · exact (hx.sessions_other hj).trans (h.session j)
  -- Before the commit the process is idle, or has found the row at its value.
  have hphase : s.phase e.pid = .idle ∨ s.phase e.pid = .filling value := by
    rw [hi]
    rcases row with _ | _ | v
    · exact .inl rfl
    · exact .inl rfl
    · by_cases hv : v = value
      · subst hv
        exact .inr (if_pos rfl)
      · exact .inl (if_neg hv)
  have hgiveUp : s.phase e.pid = .idle ∨ ∃ v, s.phase e.pid = .filling v :=
    hphase.imp_right fun hf => ⟨value, hf⟩
  rcases hdb with ⟨hsame, x, rfl⟩ | ⟨hsame, rfl, hrow⟩ | hset
  · exact caches_drop h (herr x) hgiveUp (by rw [hsame]) (by rw [hredis]) hsession
  · subst hrow
    have hf : s.phase e.pid = .filling value := hi.trans (if_pos rfl)
    refine ⟨s, .refl, ?_, hcache, user_stay h.user hf (hok _ (.inl rfl)), hsession⟩
    rw [hsame]
    exact h.row
  · by_cases hch : w'.db.configs key = c.shared.db.configs key
    · -- The row had the value already.
      have hv : s.row = some value := by rw [h.row, ← hch, hset]; rfl
      have hrow : s.row = (w'.db.configs key).join := by rw [hch]; exact h.row
      cases r with
      | error x => exact caches_drop h (herr x) hgiveUp hch (by rw [hredis]) hsession
      | ok u =>
          rcases hphase with hidle | hf
          · exact ⟨_, .single (.read hidle hv), hrow, hcache,
              user_update h.user (hok _ (.inl rfl)), hsession⟩
          · exact ⟨s, .refl, hrow, hcache, user_stay h.user hf (hok _ (.inl rfl)), hsession⟩
    · -- The row changes, and by the condition nobody else is to write the cache.
      obtain ⟨hans, hothers⟩ := hG.1 hch
      rw [he] at hans
      have hidle : ∀ j, j ≠ e.pid → s.phase j = .idle := fun j hj =>
        (h.user j).toCache (hothers j hj)
      cases r with
      | error x => exact absurd hans Bool.false_ne_true
      | ok u =>
          exact ⟨_, .single (.change hidle), by rw [hset]; rfl, hcache,
            user_update h.user (hok _ (.inr rfl)), hsession⟩

/-- The cache write of a process. -/
theorem caches_store (h : Caches key ops c s) (hs : Step (system expires) c e c')
    (hG : Orderly key ops c e c') {v : String} {k : Except PyExc Unit → M Unit}
    (hp : c.procs e.pid = .op (.redisSet (sysconfigKey key) (.text v)) k)
    (hi : s.phase e.pid = .filling v ∨
      (s.phase e.pid = .flushing v ∧ (ops e.pid).isSet = true)) (hk : ∀ r, Ended (k r)) :
    ∃ s', Relation.ReflTransGen Move s s' ∧ Caches key ops c' s' := by
  obtain ⟨r, w', he, hx, rfl⟩ := hs.inv_at hp
  have hwrite : w'.redis (sysconfigKey key) = some (.text v) → w'.db = c.shared.db →
      w'.sessions = c.shared.sessions → ∃ s', Relation.ReflTransGen Move s s' ∧ Caches key ops
        ⟨w', Function.update c.procs e.pid (k r), ⟨e.pid, _, r⟩ :: c.trace⟩ s' := by
    intro hentry hdb hsession
    exact ⟨_, .single (.write (hi.imp_right And.left)), by rw [hdb]; exact h.row, hentry,
      user_update h.user (.ended (hk r)), by rw [hsession]; exact h.session⟩
  rcases exec_redisSet hx with ⟨rfl, x, rfl⟩ | rfl
  · rcases hi with hf | ⟨-, hset⟩
    · exact caches_drop h (hk _) (.inr ⟨v, hf⟩) rfl rfl h.session
    · -- A `set` that has changed the row: by the condition the entry holds its value.
      have htext := hG.2 hset v (by rw [he]; rfl)
      refine hwrite ?_ rfl rfl
      dsimp only at htext
      rw [h.cache] at htext ⊢
      cases hc : s.cache with
      | none =>
          rw [hc] at htext
          cases htext
      | some u =>
          rw [hc] at htext
          cases htext
          rfl
  · exact hwrite (Function.update_self _ _ _) rfl rfl

/-- The `GET` of the setting. -/
theorem caches_lookup (h : Caches key ops c s) (hs : Step (system expires) c e c')
    {k : Except PyExc (Option RedisValue) → M Unit}
    (hp : c.procs e.pid = .op (.redisGet (sysconfigKey key)) k) (hi : s.phase e.pid = .idle)
    (hk : ∀ r, CacheUser key (ops e.pid) .idle (k r)) : Caches key ops c' s := by
  obtain ⟨r, w', -, hx, rfl⟩ := hs.inv_at hp
  obtain ⟨rfl, -⟩ := exec_read hx id rfl
  exact ⟨h.row, h.cache, user_stay h.user hi (hk r), h.session⟩

/-- **One step** of the operations is a step beside the cache. -/
theorem Caches.step (h : Caches key ops c s) (hG : Orderly key ops c e c')
    (hs : Step (system expires) c e c') :
    ∃ s', Relation.ReflTransGen Move s s' ∧ Caches key ops c' s' := by
  have hi := h.user e.pid
  generalize hp : c.procs e.pid = p at hi
  generalize hφ : s.phase e.pid = φ at hi
  cases hi with
  | ended hend =>
      obtain ⟨hk, -⟩ := hs
      exact absurd (hp.symm.trans hk) (hend _ _)
  | lookup hk => exact ⟨s, .refl, caches_lookup h hs hp hφ hk⟩
  | select hok herr => exact caches_select h hs hp hφ hok herr
  | save hop hok herr => exact caches_save h hs hG hp (hop ▸ hφ) hok herr
  | store hstore hk =>
      refine caches_store h hs hG hp ?_ hk
      rw [hφ]
      exact hstore

/-- No operation on the setting is in progress: each has ended, or not begun. -/
def Quiet (key : String) (ops : ι → ConfigOp) (c : Config ι Op Ret PyExc Unit (World ι)) : Prop :=
  ∀ i, c.procs i = (ops i).program key ∨ Ended (c.procs i)

/-- An operation begins with a read. -/
theorem ConfigOp.program_begins {o : ConfigOp} {op : Op} {k : Except PyExc (Ret op) → M Unit}
    (h : o.program key = .op op k) :
    op = .redisGet (sysconfigKey key) ∨ op = .selectConfig key := by
  cases o with
  | get =>
      injection (show Prog.op (.redisGet (sysconfigKey key)) _ = Prog.op op k from h) with hop
      exact .inl hop.symm
  | set value =>
      injection (show Prog.op (.selectConfig key) _ = Prog.op op k from h) with hop
      exact .inr hop.symm

theorem CacheUser.idle_of_quiet {o : ConfigOp} {φ : Phase String} {p : M Unit}
    (h : CacheUser key o φ p) (hp : p = o.program key ∨ Ended p) : φ = .idle := by
  cases h with
  | ended _ | lookup _ | select _ _ => rfl
  | save _ _ _ =>
      rcases hp with hp | hp
      · rcases ConfigOp.program_begins hp.symm with h | h <;> cases h
      · exact absurd rfl (hp _ _)
  | store _ _ =>
      rcases hp with hp | hp
      · rcases ConfigOp.program_begins hp.symm with h | h <;> cases h
      · exact absurd rfl (hp _ _)

/-- The port is `8080`, and its cache entry has been evicted. -/
def evictedWorld : World Bool :=
  { db := { configs := fun key => if key = "rcs_port" then some (some "8080") else none } }

/-- A `get` of the port, and a `set` to `9090`. -/
def getAndSet : Bool → ConfigOp
  | false => .get
  | true => .set "9090"

/-- The `get` reads the row, the `set` runs to its end, and the `get` fills the cache. -/
def lateFill : List (Bool × Env) :=
  [(false, {}), (false, {}), (true, {}), (true, {}), (true, {}), (false, {})]

/-- The `get` misses the cache; the `set` commits; the `get` reads the row; and both write the
cache. -/
def getAlong : List (Bool × Env) :=
  [(false, {}), (true, {}), (true, {}), (false, {}), (true, {}), (false, {})]

theorem ended_of_returned {p : M Unit} (h : p.returned = true) : Ended p :=
  Prog.ended_of_returned h

end Rcs
