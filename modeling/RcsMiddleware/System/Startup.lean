import Mathlib.Data.List.Nodup
import RcsMiddleware.Source.Lifespan
import RcsMiddleware.Support.Typestate

/-!
# System — Startup

Any number of workers of the API server start, serve and stop beside each other, and each of them
seeds the table of robot types.

* `seeding`: what a worker knows of the table, as a typestate; `seeding_governs`.
* `holding`: which clients a worker has open, as a typestate; `holding_governs`.
* `workers_serve_ready`: **a worker that serves** has its clients and its engine, and finds the
  default robot types, which are added once.
-/

namespace Rcs

open Support

/-! ### The table of robot types -/

/-- The table with the default types it lacks. -/
def seeded (types : List RobotType) : List RobotType :=
  types ++ missingTypes (types.map RobotType.name)

theorem missing_name_not_mem {existing : List String} {spec : RobotType}
    (h : spec ∈ missingTypes existing) : spec.name ∉ existing := by
  have hs := (List.mem_filter.mp h).2
  simpa using hs

theorem missing_names_nodup (existing : List String) :
    ((missingTypes existing).map RobotType.name).Nodup := by
  have hdefault : (defaultRobotTypes.map RobotType.name).Nodup := by decide
  exact (List.filter_sublist.map _).nodup hdefault

/-- The seeded table has every default type. -/
theorem exists_mem_seeded (types : List RobotType) {spec : RobotType}
    (h : spec ∈ defaultRobotTypes) : ∃ t ∈ seeded types, t.name = spec.name := by
  by_cases hin : spec.name ∈ types.map RobotType.name
  · obtain ⟨t, ht, hname⟩ := List.mem_map.mp hin
    exact ⟨t, List.mem_append_left _ ht, hname⟩
  · refine ⟨spec, List.mem_append_right _ (List.mem_filter.mpr ⟨h, ?_⟩), rfl⟩
    simpa using hin

theorem missing_seeded (types : List RobotType) :
    missingTypes ((seeded types).map RobotType.name) = [] := by
  refine List.filter_eq_nil_iff.mpr fun spec hspec => ?_
  obtain ⟨t, ht, hname⟩ := exists_mem_seeded types hspec
  have hmem : spec.name ∈ (seeded types).map RobotType.name := hname ▸ List.mem_map_of_mem ht
  simpa using List.mem_map.mp hmem

theorem seeded_of_missing_nil {types : List RobotType}
    (h : missingTypes (types.map RobotType.name) = []) : seeded types = types := by
  rw [seeded, h, List.append_nil]

/-- Names that are not taken can be added. -/
theorem seeded_names_nodup {types : List RobotType} (h : (types.map RobotType.name).Nodup) :
    ((seeded types).map RobotType.name).Nodup := by
  rw [seeded, List.map_append, List.nodup_append]
  refine ⟨h, missing_names_nodup _, fun a ha b hb hab => ?_⟩
  obtain ⟨spec, hspec, rfl⟩ := List.mem_map.mp hb
  exact missing_name_not_mem hspec (hab ▸ ha)

variable {ι : Type}

/-- The table is the one of the beginning, or that with the default types it lacks. -/
def Server.TableOf (s : Server ι) (types : List RobotType) : Prop :=
  s.robotTypes = types ∨ s.robotTypes = seeded types

/-- What a commit of the missing types leaves. -/
theorem commit_missing {types : List RobotType} (hnames : (types.map RobotType.name).Nodup)
    (hmissing : missingTypes (types.map RobotType.name) ≠ []) {s : Server ι} (h : s.TableOf types) :
    (s.commit (missingTypes (types.map RobotType.name))).2 = { s with robotTypes := seeded types } := by
  rcases h with h | h
  · have hnodup : (s.names ++ (missingTypes (types.map RobotType.name)).map RobotType.name).Nodup := by
      rw [Server.names, h, ← List.map_append]
      exact seeded_names_nodup hnames
    rw [Server.commit, if_pos hnodup, h]
    rfl
  · obtain ⟨spec, hspec⟩ := List.exists_mem_of_ne_nil _ hmissing
    have htaken : ¬ (s.names ++ (missingTypes (types.map RobotType.name)).map RobotType.name).Nodup := by
      rw [Server.names, h]
      intro hnodup
      refine (List.nodup_append.mp hnodup).2.2 spec.name ?_ spec.name (List.mem_map_of_mem hspec) rfl
      exact List.mem_map_of_mem (List.mem_append_right _ hspec)
    rw [Server.commit, if_neg htaken, ← h]

/-! ### What a worker knows of the table -/

/-- Nothing; the names it has read, of which some are missing; or that the table is seeded. -/
inductive SeedNote where
  | start
  | read (existing : List String)
  | done

/-- The note after an answer.  A worker that is spared learns from a refused commit that another has
committed. -/
def seedAfter (spared : Bool) (note : SeedNote) : (o : BootOp) → Except PyExc (BootRet o) → SeedNote
  | .selectNames, .ok existing => if missingTypes existing = [] then .done else .read existing
  | .commitTypes _, .ok _ => .done
  | .commitTypes _, .error _ => if spared then .done else .start
  | _, _ => note

/-- A worker adds what is missing of the names it has read; and one that is spared serves once the
table is seeded. -/
def seeding : Typestate BootOp BootRet PyExc (Bool × SeedNote) where
  allows l o := (∀ added, o = .commitTypes added → ∃ existing, l.2 = .read existing ∧
      added = missingTypes existing) ∧ (o = .serve → l.1 = true → l.2 = .done)
  next l o r l' := l' = (l.1, seedAfter l.1 l.2 o r) ∧
    (l.1 = true → (∀ added, o ≠ .commitTypes added) → ∃ v, r = .ok v)

section Seeding

variable (types : List RobotType) (spared : ι → Bool)

/-- What the table shows of a note. -/
structure Server.ShowsSeed (s : Server ι) (i : ι) (l : Bool × SeedNote) : Prop where
  spared : l.1 = spared i
  table : s.TableOf types
  read : ∀ existing, l.2 = .read existing → existing = types.map RobotType.name ∧
    missingTypes existing ≠ []
  done : l.2 = .done → s.robotTypes = seeded types

end Seeding

variable {types : List RobotType} {spared : ι → Bool}

section Steps

variable [DecidableEq ι] {i : ι} {o : BootOp} {s s' : Server ι} {r : Except PyExc (BootRet o)}

/-- Only a commit changes the table. -/
theorem server_robotTypes (h : (server spared).exec i o s r s') (ho : ∀ added, o ≠ .commitTypes added) :
    s'.robotTypes = s.robotTypes := by
  obtain ⟨fault, -, hf⟩ := h
  cases o with
  | commitTypes added => exact absurd rfl (ho added)
  | getRedis | initRcsClient | shutdownRcsClient | closeRedis =>
      simp only [bootRespond] at hf
      split at hf <;> first | (cases hf; rfl) | (cases fault <;> cases hf <;> rfl)
  | selectOne | selectNames | closeSession | ping | serve | dispose =>
      cases fault <;> cases hf <;> rfl

/-- In a worker that is spared, only a commit is refused. -/
theorem server_ok (h : (server spared).exec i o s r s') (hi : spared i = true)
    (ho : ∀ added, o ≠ .commitTypes added) : ∃ v, r = .ok v := by
  obtain ⟨fault, hspared, hf⟩ := h
  obtain rfl := hspared hi
  cases o with
  | commitTypes added => exact absurd rfl (ho added)
  | getRedis | initRcsClient | shutdownRcsClient | closeRedis =>
      simp only [bootRespond] at hf
      split at hf <;> cases hf <;> exact ⟨_, rfl⟩
  | selectOne | selectNames | closeSession | ping | serve | dispose =>
      cases hf
      exact ⟨_, rfl⟩

theorem server_selectNames {r : Except PyExc (List String)}
    (h : (server spared).exec i .selectNames s r s') {existing : List String} (hr : r = .ok existing) :
    existing = s.names := by
  obtain ⟨fault, -, hf⟩ := h
  subst hr
  cases fault <;> cases hf
  rfl

/-- A commit of the missing types seeds the table, unless it fails without effect. -/
theorem server_commit (hnames : (types.map RobotType.name).Nodup)
    (hmissing : missingTypes (types.map RobotType.name) ≠ []) {r : Except PyExc Unit}
    (hs : s.TableOf types)
    (h : (server spared).exec i (.commitTypes (missingTypes (types.map RobotType.name))) s r s') :
    s'.robotTypes = seeded types ∨
      s'.robotTypes = s.robotTypes ∧ spared i = false ∧ ∃ e, r = .error e := by
  have hcommit := congrArg Server.robotTypes (commit_missing hnames hmissing hs)
  obtain ⟨fault, hspared, hf⟩ := h
  cases fault with
  | none | after e =>
      obtain ⟨-, rfl⟩ := Prod.mk.inj hf
      exact .inl hcommit
  | before e =>
      cases hf
      refine .inr ⟨rfl, ?_, e, rfl⟩
      by_contra hi
      cases hspared (by simpa using hi)

omit [DecidableEq ι] in
/-- A step that leaves the table, or seeds it, shows the same of the other workers. -/
theorem Server.ShowsSeed.other {l : Bool × SeedNote} (hl : s.ShowsSeed types spared i l)
    (h : s'.robotTypes = s.robotTypes ∨ s'.robotTypes = seeded types) :
    s'.ShowsSeed types spared i l := by
  rcases h with h | h
  · refine ⟨hl.spared, ?_, hl.read, fun hdone => h.trans (hl.done hdone)⟩
    rw [Server.TableOf, h]
    exact hl.table
  · exact ⟨hl.spared, .inr h, hl.read, fun _ => h⟩

/-- What a worker learns from reading the names. -/
theorem Server.ShowsSeed.selectNames {l : Bool × SeedNote} {r : Except PyExc (List String)}
    (hl : s.ShowsSeed types spared i l) (hx : (server spared).exec i .selectNames s r s') :
    s'.ShowsSeed types spared i (l.1, seedAfter l.1 l.2 .selectNames r) := by
  have hsame := hl.other (.inl (server_robotTypes hx fun _ => nofun))
  cases r with
  | error e => exact hsame
  | ok existing =>
      have hnames := server_selectNames hx rfl
      have htable := server_robotTypes hx fun _ => nofun
      by_cases hmissing : missingTypes existing = []
      · simp only [seedAfter, if_pos hmissing]
        refine ⟨hl.spared, hsame.table, fun _ h => (by cases h), fun _ => ?_⟩
        rcases hl.table with h | h
        · rw [hnames, Server.names, h] at hmissing
          rw [htable, h, seeded_of_missing_nil hmissing]
        · exact htable.trans h
      · simp only [seedAfter, if_neg hmissing]
        refine ⟨hl.spared, hsame.table, fun _ h => ?_, fun h => (by cases h)⟩
        cases h
        rcases hl.table with h | h
        · rw [Server.names, h] at hnames
          exact ⟨hnames, hmissing⟩
        -- In a seeded table nothing is missing.
        · rw [hnames, Server.names, h, missing_seeded] at hmissing
          exact absurd rfl hmissing

omit [DecidableEq ι] in
/-- What a worker learns from its commit. -/
theorem Server.ShowsSeed.commit {l : Bool × SeedNote} {added : List RobotType}
    {r : Except PyExc Unit} (hl : s.ShowsSeed types spared i l)
    (hleft : s'.robotTypes = seeded types ∨
      s'.robotTypes = s.robotTypes ∧ spared i = false ∧ ∃ e, r = .error e) :
    s'.ShowsSeed types spared i (l.1, seedAfter l.1 l.2 (.commitTypes added) r) := by
  refine ⟨hl.spared, (hl.other (hleft.symm.imp And.left id)).table, fun _ h => ?_, fun h => ?_⟩
  · cases r with
    | ok u => cases h
    | error e =>
        simp only [seedAfter] at h
        split at h <;> cases h
  · rcases hleft with hdone | ⟨-, hi, e, rfl⟩
    · exact hdone
    · simp only [seedAfter, hl.spared, hi] at h
      cases h

/-- The table shows the notes of the workers. -/
theorem seeding_governs (hnames : (types.map RobotType.name).Nodup) :
    seeding.Governs (server spared) (Server.ShowsSeed types spared) where
  step := by
    intro i o s r s' l hx hl hallows
    have hnext : l.1 = true → (∀ added, o ≠ .commitTypes added) → ∃ v, r = .ok v := fun hi ho =>
      server_ok hx (hl.spared ▸ hi) ho
    by_cases ho : ∀ added, o ≠ .commitTypes added
    · have htable := server_robotTypes hx ho
      refine ⟨⟨(l.1, seedAfter l.1 l.2 o r), ?_, rfl, hnext⟩, fun j m _ hm => hm.other (.inl htable)⟩
      cases o with
      | commitTypes added => exact absurd rfl (ho added)
      | selectNames => exact hl.selectNames hx
      | _ => exact hl.other (.inl htable)
    · obtain ⟨added, rfl⟩ : ∃ added, o = .commitTypes added := by simpa using ho
      obtain ⟨existing, hread, rfl⟩ := hallows.1 added rfl
      obtain ⟨rfl, hmissing⟩ := hl.read existing hread
      have hleft := server_commit hnames hmissing hl.table hx
      exact ⟨⟨_, hl.commit hleft, rfl, hnext⟩, fun j m _ hm => hm.other (hleft.symm.imp And.left id)⟩
  env h := h.elim

end Steps

/-! ### What the programs know of the table -/

/-- If the worker is spared, it knows that the table is seeded. -/
def Knows (l : Bool × SeedNote) : Prop := l.1 = true → l.2 = .done

theorem seeding_quiet {o : BootOp} {l : Bool × SeedNote} (ho : ∀ added, o ≠ .commitTypes added)
    (hserve : o ≠ .serve) : seeding.allows l o :=
  ⟨fun added h => absurd h (ho added), fun h => absurd h hserve⟩

/-- An operation that neither reads nor writes the table. -/
theorem perform_seeding {o : BootOp} {l : Bool × SeedNote} {I : Bool × SeedNote → Prop}
    (hafter : ∀ spared note r, seedAfter spared note o r = note) (ho : seeding.allows l o) (hl : I l) :
    Adheres seeding I I l (bootPerform o) := by
  have hstay : ∀ {r m}, seeding.next l o r m → m = l := fun h => by
    rw [h.1, hafter]
  exact .perform ho (fun _ _ h => hstay h ▸ hl) fun _ _ h => hstay h ▸ hl

theorem closeSession_seeding {l : Bool × SeedNote} {I : Bool × SeedNote → Prop} (hl : I l) :
    Adheres seeding I I l (bootPerform .closeSession) :=
  perform_seeding (fun _ _ _ => rfl) (seeding_quiet (fun _ => nofun) nofun) hl

/-- A worker that is spared has the table seeded by `seed_robot_types`, whichever way that ends. -/
theorem seedRobotTypes_seeding (l : Bool × SeedNote) :
    Adheres seeding Knows Knows l seedRobotTypes := by
  refine .tryFinally (Q := Knows) (E := Knows) ?_ (fun m hm => closeSession_seeding (hm.elim id id))
    fun _ h => h
  refine .op (seeding_quiet (fun _ => nofun) nofun) fun r m hnext => ?_
  obtain ⟨rfl, hok⟩ := hnext
  cases r with
  | error e =>
      refine .raise fun hi => ?_
      obtain ⟨v, hv⟩ := hok hi fun _ => nofun
      cases hv
  | ok existing =>
      show Adheres seeding Knows Knows _ (if missingTypes existing ≠ [] then _ else _)
      by_cases hmissing : missingTypes existing = []
      · rw [if_neg (not_not.mpr hmissing)]
        exact .ret fun _ => if_pos hmissing
      · rw [if_pos hmissing]
        refine .perform ⟨fun added h => ?_, nofun⟩ (fun _ m h => ?_) fun e m h => ?_
        · cases h
          exact ⟨existing, if_neg hmissing, rfl⟩
        · rw [h.1]
          exact fun _ => rfl
        · rw [h.1]
          exact fun hi => if_pos hi

/-- A worker that is spared serves once the table is seeded. -/
theorem lifespan_seeding (l : Bool × SeedNote) :
    Adheres seeding (fun _ => True) (fun _ => True) l lifespan := by
  have hquiet : ∀ {o : BootOp} {m : Bool × SeedNote}, (∀ spared note r, seedAfter spared note o r = note) →
      (∀ added, o ≠ .commitTypes added) → o ≠ .serve →
      Adheres seeding (fun _ => True) (fun _ => True) m (bootPerform o) := fun hafter ho hserve =>
    perform_seeding hafter (seeding_quiet ho hserve) trivial
  refine .bind (.tryFinally (hquiet (fun _ _ _ => rfl) (fun _ => nofun) nofun) (fun _ _ =>
    hquiet (fun _ _ _ => rfl) (fun _ => nofun) nofun) fun _ h => h) fun _ _ _ => ?_
  refine .bind (hquiet (fun _ _ _ => rfl) (fun _ => nofun) nofun) fun _ _ _ => ?_
  refine .bind (hquiet (fun _ _ _ => rfl) (fun _ => nofun) nofun) fun _ _ _ => ?_
  refine .bind (hquiet (fun _ _ _ => rfl) (fun _ => nofun) nofun) fun _ m _ => ?_
  refine .bind (.tryCatch (seedRobotTypes_seeding m) fun _ _ h => .ret h) fun _ m hm => ?_
  refine .tryFinally (Q := fun _ => True) (E := fun _ => True)
    (perform_seeding (fun _ _ _ => rfl) ⟨nofun, fun _ => hm⟩ trivial) (fun _ _ => ?_) fun _ h => h
  refine .bind (hquiet (fun _ _ _ => rfl) (fun _ => nofun) nofun) fun _ _ _ => ?_
  refine .bind (hquiet (fun _ _ _ => rfl) (fun _ => nofun) nofun) fun _ _ _ => ?_
  exact hquiet (fun _ _ _ => rfl) (fun _ => nofun) nofun

/-! ### The clients of a worker -/

/-- The clients a worker may have open after an answer. -/
def HeldAfter (l : Worker) : (o : BootOp) → Except PyExc (BootRet o) → Worker → Prop
  | .getRedis, .ok _, l' => l' = { l with redisClient := true }
  | .initRcsClient, .ok _, l' => l' = { l with rcsClient := true }
  | .shutdownRcsClient, .ok _, l' => l' = { l with rcsClient := false }
  | .closeRedis, .ok _, l' => l' = { l with redisClient := false }
  | .dispose, .ok _, l' => l' = { l with engineDisposed := true }
  | .dispose, .error _, l' => l' = l ∨ l' = { l with engineDisposed := true }
  | _, _, l' => l' = l

/-- The clients of a worker that serves. -/
def Worker.Ready (l : Worker) : Prop :=
  l.rcsClient = true ∧ l.redisClient = true ∧ l.engineDisposed = false

/-- The clients of a worker that has ended as it should. -/
def Worker.Closed (l : Worker) : Prop :=
  l.rcsClient = false ∧ l.redisClient = false ∧ l.engineDisposed = true

/-- The clients are opened in one order and closed in the reverse one. -/
def Worker.Ordered (l : Worker) : Prop :=
  (l.rcsClient = true → l.redisClient = true) ∧ (l.engineDisposed = true → l.redisClient = false)

/-- A worker serves with its clients open. -/
def holding : Typestate BootOp BootRet PyExc Worker where
  allows l o := o = .serve → l.Ready
  next l o r l' := HeldAfter l o r l'

section Clients

variable [DecidableEq ι] {i : ι} {o : BootOp} {s s' : Server ι} {r : Except PyExc (BootRet o)}

/-- A worker changes its own clients only. -/
theorem server_workers_other (h : (server spared).exec i o s r s') {j : ι} (hj : j ≠ i) :
    s'.workers j = s.workers j := by
  have hset : ∀ worker, (s.setWorker i worker).workers j = s.workers j := fun _ =>
    Function.update_of_ne hj _ _
  obtain ⟨fault, -, hf⟩ := h
  cases o with
  | getRedis | initRcsClient | shutdownRcsClient | closeRedis =>
      simp only [bootRespond] at hf
      split at hf <;> first
        | (cases hf; rfl)
        | (cases fault <;> cases hf <;> first | rfl | exact hset _)
  | commitTypes added =>
      have hcommit : (s.commit added).2.workers = s.workers := by
        rw [Server.commit]
        split <;> rfl
      cases fault <;> obtain ⟨-, rfl⟩ := Prod.mk.inj hf <;> first | rfl | exact congrFun hcommit j
  | selectOne | selectNames | closeSession | ping | serve => cases fault <;> cases hf <;> rfl
  | dispose => cases fault <;> cases hf <;> first | rfl | exact hset _

/-- What a worker does to its clients. -/
theorem server_held (h : (server spared).exec i o s r s') :
    HeldAfter (s.workers i) o r (s'.workers i) := by
  have hset : ∀ worker, (s.setWorker i worker).workers i = worker := fun _ =>
    Function.update_self _ _ _
  obtain ⟨fault, -, hf⟩ := h
  cases o with
  | commitTypes added =>
      have hcommit : (s.commit added).2.workers = s.workers := by
        rw [Server.commit]
        split <;> rfl
      have hsame : s'.workers = s.workers := by
        cases fault <;> obtain ⟨-, rfl⟩ := Prod.mk.inj hf <;> first | rfl | exact hcommit
      cases r <;> exact congrFun hsame i
  | selectOne | selectNames | closeSession | ping | serve => cases fault <;> cases hf <;> rfl
  | getRedis | initRcsClient =>
      simp only [bootRespond] at hf
      split at hf
      · next hopen =>
        cases hf
        show s.workers i = _
        rw [← hopen]
      · cases fault <;> cases hf <;> first | rfl | exact hset _
  | shutdownRcsClient | closeRedis =>
      simp only [bootRespond] at hf
      split at hf
      · cases fault <;> cases hf <;> first | rfl | exact hset _
      · next hopen =>
        cases hf
        show s.workers i = _
        rw [← Bool.eq_false_of_not_eq_true hopen]
  | dispose =>
      -- A dispose that fails may have closed the engine or not.
      cases fault with
      | none =>
          cases hf
          exact hset _
      | before e =>
          cases hf
          exact .inl rfl
      | after e =>
          cases hf
          exact .inr (hset _)

theorem holding_governs : holding.Governs (server spared) fun s (i : ι) l => s.workers i = l where
  step hx hl _ := by
    subst hl
    exact ⟨⟨_, rfl, server_held hx⟩, fun j l hj hl => (server_workers_other hx hj).trans hl⟩
  env h := h.elim

end Clients

/-- An operation of a worker in a given state. -/
theorem perform_holding {o : BootOp} {l n : Worker} (ho : o = .serve → l.Ready)
    (hok : ∀ v m, HeldAfter l o (.ok v) m → m = n) (herr : ∀ e m, HeldAfter l o (.error e) m → m.Ordered) :
    Adheres holding (· = n) Worker.Ordered l (bootPerform o) :=
  .perform ho (fun v m h => hok v m h) fun e m h => herr e m h

/-- One that changes no client. -/
theorem perform_holding_quiet {o : BootOp} {l : Worker} (ho : o = .serve → l.Ready)
    (hsame : ∀ r m, HeldAfter l o r m → m = l) : Adheres holding (· = l) (· = l) l (bootPerform o) :=
  .perform ho (fun _ m h => hsame _ m h) fun _ m h => hsame _ m h

theorem closeSession_holding (l : Worker) :
    Adheres holding (· = l) (· = l) l (bootPerform .closeSession) :=
  perform_holding_quiet nofun fun r _ h => by cases r <;> exact h

/-- The seeding changes no client. -/
theorem seedRobotTypes_holding (l : Worker) : Adheres holding (· = l) (· = l) l seedRobotTypes := by
  refine .tryFinally (Q := (· = l)) (E := (· = l)) (.bind (perform_holding_quiet nofun
    fun r _ h => by cases r <;> exact h) fun existing m hm => ?_) (fun m hm => ?_) fun _ h => h
  · subst hm
    by_cases hmissing : missingTypes existing = []
    · rw [if_neg (not_not.mpr hmissing)]
      exact .ret rfl
    · rw [if_pos hmissing]
      exact perform_holding_quiet nofun fun r _ h => by cases r <;> exact h
  · obtain rfl : m = l := hm.elim id id
    exact closeSession_holding m

/-- The end of `lifespan`: the clients are closed one after the other. -/
theorem shutdown_holding {l : Worker} (hl : l = ⟨true, true, false⟩) :
    Adheres holding Worker.Closed Worker.Ordered l (do
      bootPerform .shutdownRcsClient
      bootPerform .closeRedis
      bootPerform .dispose) := by
  subst hl
  refine .bind (perform_holding (n := ⟨false, true, false⟩) nofun (fun _ _ h => h)
    fun e m h => ?_) fun _ m hm => ?_
  · obtain rfl : m = _ := h
    exact ⟨fun _ => rfl, nofun⟩
  subst hm
  refine .bind (perform_holding (n := ⟨false, false, false⟩) nofun (fun _ _ h => h)
    fun e m h => ?_) fun _ m hm => ?_
  · obtain rfl : m = _ := h
    exact ⟨nofun, nofun⟩
  subst hm
  refine .perform nofun (fun _ m h => ?_) fun e m h => ?_
  · obtain rfl : m = _ := h
    exact ⟨rfl, rfl, rfl⟩
  · rcases (h : m = _ ∨ m = _) with rfl | rfl
    · exact ⟨nofun, nofun⟩
    · exact ⟨nofun, fun _ => rfl⟩

/-- A worker has its clients while it serves, and closes them in order. -/
theorem lifespan_holding : Adheres holding Worker.Closed Worker.Ordered {} lifespan := by
  have hfresh : Worker.Ordered {} := ⟨nofun, nofun⟩
  have hredis : Worker.Ordered ⟨false, true, false⟩ := ⟨nofun, nofun⟩
  have hselect : Adheres holding (· = {}) (· = {}) ({} : Worker) (bootPerform .selectOne) :=
    perform_holding_quiet nofun fun r _ h => by cases r <;> exact h
  have hcheck : Adheres holding (· = {}) (· = {}) ({} : Worker)
      (Prog.tryFinally (bootPerform .selectOne) (bootPerform .closeSession)) := by
    refine .tryFinally hselect (fun m hm => ?_) fun _ h => h
    obtain rfl : m = {} := hm.elim id id
    exact closeSession_holding {}
  -- The database is checked first, when nothing is open.
  refine .bind (hcheck.mono (fun _ h => h) fun _ h => h ▸ hfresh) fun _ m hm => ?_
  subst hm
  refine .bind (perform_holding (n := ⟨false, true, false⟩) nofun (fun _ _ h => h)
    fun e m h => ?_) fun _ m hm => ?_
  · obtain rfl : m = _ := h
    exact hfresh
  subst hm
  refine .bind (perform_holding (n := ⟨false, true, false⟩) nofun (fun _ _ h => h)
    fun e m h => ?_) fun _ m hm => ?_
  · obtain rfl : m = _ := h
    exact hredis
  subst hm
  refine .bind (perform_holding (n := ⟨true, true, false⟩) nofun (fun _ _ h => h)
    fun e m h => ?_) fun _ m hm => ?_
  · obtain rfl : m = _ := h
    exact hredis
  subst hm
  -- A seed that fails is logged, and the worker serves all the same.
  refine .bind (Q := (· = ⟨true, true, false⟩)) (.tryCatch (seedRobotTypes_holding _)
    fun _ _ h => .ret h) fun _ m hm => ?_
  subst hm
  refine .tryFinally (perform_holding_quiet (fun _ => ⟨rfl, rfl, rfl⟩) fun r _ h => by
    cases r <;> exact h) (fun m hm => shutdown_holding (hm.elim id id)) fun m hm => ?_
  exact ⟨fun h => absurd (h.symm.trans hm.1) nofun, fun _ => hm.2.1⟩

/-! ### The workers beside each other -/

/-- Workers that have not started yet, and the table they find. -/
def launched (types : List RobotType) : Config ι BootOp BootRet PyExc Unit (Server ι) :=
  .start { robotTypes := types } fun _ => lifespan

section Workers

variable [DecidableEq ι] {G : Guard ι BootOp BootRet PyExc Unit (Server ι)}
  {c : Config ι BootOp BootRet PyExc Unit (Server ι)}

/-- The table and the notes of the workers. -/
theorem run_seeding (hnames : (types.map RobotType.name).Nodup)
    (h : Run (server spared) G (launched types) c) :
    ∀ i, ∃ l, c.shared.ShowsSeed types spared i l ∧
      Adheres seeding (fun _ => True) (fun _ => True) l (c.procs i) :=
  Run.adheres (seeding_governs hnames) h fun i =>
    ⟨(spared i, .start), ⟨rfl, .inl rfl, nofun, nofun⟩, lifespan_seeding _⟩

/-- The table of robot types in a run. -/
theorem run_tableOf (hnames : (types.map RobotType.name).Nodup)
    (h : Run (server spared) G (launched types) c) : c.shared.TableOf types := by
  rcases isEmpty_or_nonempty ι with hι | ⟨⟨i⟩⟩
  · exact Run.invariant (I := fun d => d.shared.TableOf types) h (fun _ _ e => isEmptyElim e.pid)
      (fun _ _ _ henv => henv.elim) (.inl rfl)
  · obtain ⟨l, hl, -⟩ := run_seeding hnames h i
    exact hl.table

/-- **Workers serve ready.**  Any number of workers start and stop beside each other.  The table of
robot types keeps what it had, and no name is in it twice.  A worker that serves has its clients and
its engine; and if nothing has failed in it but a commit that another has overtaken, the table has
each of the default types.  A worker that returns has closed its clients and its engine, and one that
raises has closed them in the order of the shutdown, as far as it came. -/
theorem workers_serve_ready (hnames : (types.map RobotType.name).Nodup)
    (h : Run (server spared) G (launched types) c) :
    types <+: c.shared.robotTypes ∧ c.shared.names.Nodup ∧ ∀ i,
      (∀ k, c.procs i = .op .serve k → (c.shared.workers i).Ready ∧
        (spared i = true → ∀ spec ∈ defaultRobotTypes, spec.name ∈ c.shared.names)) ∧
      (∀ u, c.procs i = .ret u → (c.shared.workers i).Closed) ∧
      ∀ e, c.procs i = .raise e → (c.shared.workers i).Ordered := by
  have hheld : ∀ i, ∃ l, c.shared.workers i = l ∧
      Adheres holding Worker.Closed Worker.Ordered l (c.procs i) :=
    Run.adheres holding_governs h fun _ => ⟨{}, rfl, lifespan_holding⟩
  refine ⟨?_, ?_, fun i => ?_⟩
  · rcases run_tableOf hnames h with htable | htable <;> rw [htable]
    exact List.prefix_append _ _
  · rw [Server.names]
    rcases run_tableOf hnames h with htable | htable <;> rw [htable]
    · exact hnames
    · exact seeded_names_nodup hnames
  · obtain ⟨l, hl, hp⟩ := hheld i
    obtain ⟨m, hm, hq⟩ := run_seeding hnames h i
    rw [hl]
    refine ⟨fun k hk => ?_, fun u hu => ?_, fun e he => ?_⟩
    · rw [hk] at hp hq
      -- A worker at `serve` has passed what `serve` asks for.
      cases hp with
      | op hready _ =>
        refine ⟨hready rfl, fun hi spec hspec => ?_⟩
        cases hq with
        | op hdone _ =>
          have hseeded := hm.done (hdone.2 rfl (hm.spared.trans hi))
          obtain ⟨t, ht, hname⟩ := exists_mem_seeded types hspec
          rw [Server.names, hseeded, ← hname]
          exact List.mem_map_of_mem ht
    · rw [hu] at hp
      cases hp with
      | ret hclosed => exact hclosed
    · rw [he] at hp
      cases hp with
      | raise hordered => exact hordered

/-- The answer of an operation of worker `i` where nothing fails. -/
def bootExec? (i : ι) (_ : Unit) (o : BootOp) (s : Server ι) :
    Option (Except PyExc (BootRet o) × Server ι) :=
  some (bootRespond i .none o s)

theorem server_of_bootExec? {i : ι} {x : Unit} {o : BootOp} {s s' : Server ι}
    {r : Except PyExc (BootRet o)} (h : bootExec? i x o s = some (r, s')) :
    (server spared).exec i o s r s' :=
  ⟨.none, fun _ => rfl, Option.some.inj h⟩

/-- The worker serves. -/
def serves : Boot Unit → Bool
  | .op .serve _ => true
  | _ => false

theorem exists_of_serves {p : Boot Unit} (h : serves p = true) : ∃ k, p = .op .serve k := by
  cases p with
  | op o k => cases o <;> first | exact ⟨k, rfl⟩ | cases h
  | ret u => cases h
  | raise e => cases h

/-- Two workers read the table before either writes, and the second commit is refused. -/
def bootRace : List (Bool × Unit) :=
  (List.replicate 6 [(false, ()), (true, ())]).flatten ++
    [(false, ()), (true, ()), (true, ()), (false, ())]

theorem workers_serve_ready_race :
    ∃ c, Run (server fun _ => true) unguarded (launched [⟨"LMR", "PF-LMR-CUSTOM"⟩]) c ∧
      ∀ i : Bool, (c.shared.workers i).Ready ∧
        ∀ spec ∈ defaultRobotTypes, spec.name ∈ c.shared.names := by
  have hrace : (replay bootExec? unguarded bootRace (launched [⟨"LMR", "PF-LMR-CUSTOM"⟩])).any
      (fun d => ∀ i : Bool, serves (d.procs i) = true) = true := by decide
  obtain ⟨c, hc, hserve⟩ := Run.of_replay_any server_of_bootExec? hrace
  obtain ⟨-, -, hall⟩ := workers_serve_ready (by simp) hc
  refine ⟨c, hc, fun i => ?_⟩
  obtain ⟨k, hk⟩ := exists_of_serves (hserve i)
  obtain ⟨hready, hseeded⟩ := (hall i).1 k hk
  exact ⟨hready, hseeded rfl⟩

end Workers

end Rcs
