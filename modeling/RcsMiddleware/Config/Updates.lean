import RcsMiddleware.Source.SystemConfig
import RcsMiddleware.Support.PairStore

/-!
# Config — Updates

Requests that update the connection settings beside requests that resolve the address of RCS.  An
update writes the address to Redis and then the port, each after a commit of its own; a request
reads the address and then the port.  So a request can go to the address of one update with the
port of another (`mixed_settings`).

* `updateSystemConfig_updating`: the shape of an update.
* `Pairs`: the processes stand for a pair of cells with its writers and readers.

**What a request resolves** (`resolved_settings_supplied`).  In every run, each of the two settings
was supplied by some update or was there before.  They were supplied together when an update writes
the port only while the address is its own, and a request reads the port only when it has been
written since the address was, and the address is still the one it has read.
-/

namespace Rcs

open Support Support.PairStore

/-! ### The requests -/

abbrev ipKey : String := sysconfigKey "rcs_ip"

abbrev portKey : String := sysconfigKey "rcs_port"

/-- A request: an update of the settings, or one that goes to RCS. -/
inductive ConfigRequest where
  | update (payload : ConnectionSettingsUpdate)
  | send (path : String)

def ConfigRequest.isSend : ConfigRequest → Bool
  | .update _ => false
  | .send _ => true

/-- The address and the port an update supplies. -/
def ConfigRequest.pair : ConfigRequest → Option (String × String)
  | .update payload => some (payload.rcsIp, toString payload.rcsPort)
  | .send _ => none

/-- What a request does, and the URL it resolves if it goes to RCS. -/
def ConfigRequest.program (rcsBaseUrl : String) : ConfigRequest → M (Option String)
  | .update payload => (updateSystemConfig rcsBaseUrl payload).bind fun _ => .ret none
  | .send path => (resolveFullUrl (clientBaseUrl rcsBaseUrl) path).bind fun url => .ret (some url)

/-- The URL a request has resolved. -/
def sentTo : M (Option String) → Option String
  | .ret url => url
  | _ => none

/-! ### The shape of an update -/

/-- Where an update stands: before its write of the address, before that of the port, or after
both. -/
inductive Part where
  | first
  | second
  | rest

/-- What is left of an update once it has ended its reads and writes, or one has failed: the end of
its session. -/
inductive Closing : M (Option String) → Prop where
  | ret : Closing (.ret none)
  | raise (e : PyExc) : Closing (.raise e)
  | sql {o : Op} {k : Except PyExc (Ret o) → M (Option String)} (ho : o.Sql)
      (hk : ∀ r, Closing (k r)) : Closing (.op o k)

/-- What is left of an update.  After both writes it reads the entries back. -/
inductive Updating (ip port : String) : Part → M (Option String) → Prop where
  | sql {part : Part} {o : Op} {k : Except PyExc (Ret o) → M (Option String)} (ho : o.Sql)
      (hok : ∀ v, Updating ip port part (k (.ok v)))
      (herr : ∀ e, Closing (k (.error e))) : Updating ip port part (.op o k)
  | first {k : Except PyExc Unit → M (Option String)}
      (hok : Updating ip port .second (k (.ok ())))
      (herr : ∀ e, Closing (k (.error e))) :
      Updating ip port .first (.op (.redisSet ipKey (.text ip)) k)
  | second {k : Except PyExc Unit → M (Option String)}
      (hok : Updating ip port .rest (k (.ok ())))
      (herr : ∀ e, Closing (k (.error e))) :
      Updating ip port .second (.op (.redisSet portKey (.text port)) k)
  | get {key : String} {k : Except PyExc (Option RedisValue) → M (Option String)}
      (hkey : key = ipKey ∨ key = portKey)
      (hhit : ∀ t, Updating ip port .rest (k (.ok (some (.text t)))))
      (herr : ∀ e, Closing (k (.error e))) :
      Updating ip port .rest (.op (.redisGet key) k)
  | closing {part : Part} {p : M (Option String)} (hp : Closing p) : Updating ip port part p

/-- An exception inside a session closes it and goes on. -/
theorem close_closing (e : PyExc) :
    Closing ((((perform .close).bind fun _ => .raise e : M ConnectionSettings).bind fun a =>
      (perform .close).bind fun _ => .ret a).bind fun _ => .ret none) := by
  refine .sql trivial fun r => ?_
  cases r with
  | ok _ => exact .raise e
  | error e' => exact .raise e'

theorem answer_closing (settings : Except PyExc ConnectionSettings) :
    Closing (((Prog.ofExcept settings : M ConnectionSettings).tryFinally (perform .close)).bind
      fun _ => .ret none) := by
  cases settings with
  | error e => exact close_closing e
  | ok _ =>
      refine .sql trivial fun r => ?_
      cases r with
      | ok _ => exact .ret
      | error e => exact .raise e

theorem updateSystemConfig_updating (rcsBaseUrl : String) (payload : ConnectionSettingsUpdate) :
    Updating payload.rcsIp (toString payload.rcsPort) .first
      ((ConfigRequest.update payload).program rcsBaseUrl) := by
  refine .sql trivial (fun row => ?_) close_closing
  refine .sql trivial (fun _ => ?_) close_closing
  refine .first ?_ close_closing
  refine .sql trivial (fun row => ?_) close_closing
  refine .sql trivial (fun _ => ?_) close_closing
  refine .second ?_ close_closing
  refine .get (.inl rfl) (fun ip => ?_) close_closing
  refine .get (.inr rfl) (fun port => ?_) close_closing
  exact .closing (answer_closing (connectionSettings rcsBaseUrl (some ip) (some port)))

/-- An update resolves no URL. -/
theorem Updating.sentTo {ip port : String} {part : Part} {p : M (Option String)}
    (h : Updating ip port part p) : sentTo p = none := by
  cases h with
  | sql _ _ _ | first _ _ | second _ _ | get _ _ _ => rfl
  | closing hp => cases hp <;> rfl

/-! ### Where a request stands -/

variable {ι : Type}

/-- The entry holds a text. -/
def Holds (w : World ι) (key : String) : Prop := ∃ t, w.redis key = some (.text t)

/-- The entries an update has written. -/
def Part.Written (w : World ι) : Part → Prop
  | .first => True
  | .second => Holds w ipKey
  | .rest => Holds w ipKey ∧ Holds w portKey

/-- A request, what it has read, and what it has still to run. -/
inductive RequestAt (rcsBaseUrl : String) (w : World ι) (address : Option String) :
    ConfigRequest → Phase String String → M (Option String) → Prop where
  | updating {payload : ConnectionSettingsUpdate} {part : Part} {p : M (Option String)}
      (hp : Updating payload.rcsIp (toString payload.rcsPort) part p) (hw : part.Written w) :
      RequestAt rcsBaseUrl w address (.update payload) .idle p
  | begin {path : String} {k : Except PyExc (Option RedisValue) → M (Option String)}
      (hok : ∀ cached, k (.ok cached) =
        (resolveWithIp (clientBaseUrl rcsBaseUrl) path cached).bind fun url => .ret (some url))
      (herr : ∀ e, k (.error e) = .raise e) :
      RequestAt rcsBaseUrl w address (.send path) .idle (.op (.redisGet ipKey) k)
  | half {path : String} {ip : Option String}
      {k : Except PyExc (Option RedisValue) → M (Option String)} (ha : address = ip)
      (hok : ∀ cached, k (.ok cached) =
        .ret (some (fullUrl (clientBaseUrl rcsBaseUrl) path ip (cachedText cached))))
      (herr : ∀ e, k (.error e) = .raise e) :
      RequestAt rcsBaseUrl w address (.send path) (.half ip) (.op (.redisGet portKey) k)
  | sent {path : String} {ip port : Option String} :
      RequestAt rcsBaseUrl w address (.send path) (.got ip port)
        (.ret (some (fullUrl (clientBaseUrl rcsBaseUrl) path ip port)))
  | failed {path : String} {φ : Phase String String} {e : PyExc} :
      RequestAt rcsBaseUrl w address (.send path) φ (.raise e)

variable {rcsBaseUrl : String} {w w' : World ι}

theorem portKey_ne : portKey ≠ ipKey := by decide

theorem Holds.of_redis {key : String} (h : Holds w key) (hr : w'.redis key = w.redis key) :
    Holds w' key := by
  obtain ⟨t, ht⟩ := h
  exact ⟨t, hr.trans ht⟩

theorem holds_setRedis (w : World ι) (key t : String) : Holds (w.setRedis key (.text t)) key :=
  ⟨t, Function.update_self _ _ _⟩

theorem Holds.setRedis {key : String} (h : Holds w key) (key' t : String) :
    Holds (w.setRedis key' (.text t)) key := by
  by_cases hk : key = key'
  · subst hk
    exact holds_setRedis w key t
  · exact h.of_redis (Function.update_of_ne hk _ _)

/-- An update that is about to end. -/
theorem requestAt_closing {request : ConfigRequest} {payload : ConnectionSettingsUpdate}
    {address : Option String} {φ : Phase String String} {p : M (Option String)}
    (hreq : request = .update payload) (hidle : φ = .idle) (hp : Closing p) :
    RequestAt rcsBaseUrl w address request φ p := by
  subst hreq hidle
  have hu : Updating payload.rcsIp (toString payload.rcsPort) .first p := .closing hp
  exact .updating hu trivial

/-- Where a request stands, while both entries hold a text if they did. -/
theorem RequestAt.mono {address : Option String} {request : ConfigRequest}
    {φ : Phase String String} {p : M (Option String)}
    (h : RequestAt rcsBaseUrl w address request φ p) (hip : Holds w ipKey → Holds w' ipKey)
    (hport : Holds w portKey → Holds w' portKey) :
    RequestAt rcsBaseUrl w' address request φ p := by
  cases h with
  | @updating payload part p hp hw =>
      refine .updating hp ?_
      cases part with
      | first => trivial
      | second => exact hip hw
      | rest => exact ⟨hip hw.1, hport hw.2⟩
  | begin hok herr => exact .begin hok herr
  | half ha hok herr => exact .half ha hok herr
  | sent => exact .sent
  | failed => exact .failed

theorem ConfigRequest.program_at (rcsBaseUrl : String) (w : World ι) (address : Option String)
    (request : ConfigRequest) :
    RequestAt rcsBaseUrl w address request .idle (request.program rcsBaseUrl) := by
  cases request with
  | update payload => exact .updating (updateSystemConfig_updating rcsBaseUrl payload) trivial
  | send path => exact .begin (fun _ => rfl) fun _ => rfl

/-! ### The condition -/

variable [DecidableEq ι]

/-- What an observer knows of the two entries: the update that wrote the address last, if the port
has not been written since, and the address each request has read. -/
structure PairNotes (ι : Type) where
  writing : Option ι := none
  address : ι → Option String := fun _ => none

/-- The write of the address is answered, or has changed it. -/
def addressWritten (w : World ι) (r : Except PyExc Unit) (w' : World ι) : Prop :=
  r.isOk = true ∨ cachedText (w'.redis ipKey) ≠ cachedText (w.redis ipKey)

instance (w : World ι) (r : Except PyExc Unit) (w' : World ι) : Decidable (addressWritten w r w') :=
  inferInstanceAs (Decidable (_ ∨ _))

/-- The notes after a step of process `i`. -/
def PairNotes.after (γ : PairNotes ι) (i : ι) (w w' : World ι) :
    (o : Op) → Except PyExc (Ret o) → PairNotes ι
  | .redisSet key value, r =>
      if key = ipKey then
        if addressWritten w r w' then { γ with writing := some i } else γ
      else if key = portKey ∧ cachedText (w'.redis portKey) = value.asText then
        { γ with writing := none }
      else γ
  | .redisGet key, .ok cached =>
      if key = ipKey then { γ with address := Function.update γ.address i (cachedText cached) }
      else γ
  | _, _ => γ

/-- An observer of the two entries. -/
def pairObserver : Observer ι Op Ret PyExc (World ι) (PairNotes ι) where
  step γ i o w r w' := γ.after i w w' o r
  env γ _ _ := γ

/-- The key an operation sets in Redis. -/
def Op.redisSetKey? : Op → Option String
  | .redisSet key _ => some key
  | _ => none

/-- The key an operation gets from Redis. -/
def Op.redisGetKey? : Op → Option String
  | .redisGet key => some key
  | _ => none

/-- An update writes the port only while the address is its own; a request reads the port only when
it has been written since the address was, and the address is still the one it has read. -/
def PairsKept (requests : ι → ConfigRequest) :
    Guard ι Op Ret PyExc (Option String) (World ι × PairNotes ι) := fun c e _ =>
  (e.op.redisSetKey? = some portKey → c.shared.2.writing = some e.pid) ∧
    ((requests e.pid).isSend = true ∧ e.op.redisGetKey? = some portKey →
      c.shared.2.writing = none ∧
        c.shared.2.address e.pid = cachedText (c.shared.1.redis ipKey))

instance (requests : ι → ConfigRequest)
    (c : Config ι Op Ret PyExc (Option String) (World ι × PairNotes ι))
    (e : Event ι Op Ret PyExc)
    (c' : Config ι Op Ret PyExc (Option String) (World ι × PairNotes ι)) :
    Decidable (PairsKept requests c e c') :=
  inferInstanceAs (Decidable ((_ → _) ∧ (_ ∧ _ → _ ∧ _)))

/-- An entry that may disappear: any but the two settings, which have no time to live. -/
def OtherEntry (key : String) : Prop := key ≠ ipKey ∧ key ≠ portKey

/-! ### The simulation -/

/-- The configurations of requests under the observer. -/
abbrev WatchedRequests (ι : Type) := Config ι Op Ret PyExc (Option String) (World ι × PairNotes ι)

/-- The processes in `c` stand for the abstract state `s`. -/
structure Pairs (rcsBaseUrl : String) (requests : ι → ConfigRequest) (c : WatchedRequests ι)
    (s : State ι String String) : Prop where
  first : s.first = cachedText (c.shared.1.redis ipKey)
  second : s.second = cachedText (c.shared.1.redis portKey)
  writing : s.writing = c.shared.2.writing
  request : ∀ i, RequestAt rcsBaseUrl c.shared.1 (c.shared.2.address i) (requests i) (s.phase i)
    (c.procs i)

variable {requests : ι → ConfigRequest} {c c' : WatchedRequests ι} {e : Event ι Op Ret PyExc}
  {s : State ι String String} {strict : Prop} {expires : String → Prop} {γ γ' : PairNotes ι} {i : ι}

/-- One process moves on, the others stand where they stood. -/
theorem Pairs.next {s' : State ι String String} {p : M (Option String)}
    {t : List (Event ι Op Ret PyExc)} (h : Pairs rcsBaseUrl requests c s)
    (hfirst : s'.first = cachedText (w'.redis ipKey))
    (hsecond : s'.second = cachedText (w'.redis portKey)) (hwriting : s'.writing = γ'.writing)
    (hip : Holds c.shared.1 ipKey → Holds w' ipKey)
    (hport : Holds c.shared.1 portKey → Holds w' portKey)
    (hother : ∀ j, j ≠ i → s'.phase j = s.phase j ∧ γ'.address j = c.shared.2.address j)
    (hi : RequestAt rcsBaseUrl w' (γ'.address i) (requests i) (s'.phase i) p) :
    Pairs rcsBaseUrl requests ⟨(w', γ'), Function.update c.procs i p, t⟩ s' := by
  refine ⟨hfirst, hsecond, hwriting, (Function.forall_update_iff c.procs fun j p =>
    RequestAt rcsBaseUrl w' (γ'.address j) (requests j) (s'.phase j) p).mpr ⟨hi, fun j hj => ?_⟩⟩
  obtain ⟨hphase, haddress⟩ := hother j hj
  rw [hphase, haddress]
  exact (h.request j).mono hip hport

/-! ### One step of an update -/

theorem pairObserver_sql {o : Op} (r : Except PyExc (Ret o)) (ho : o.Sql) :
    pairObserver.step γ i o w r w' = γ := by
  cases o with
  | redisSet _ _ | redisGet _ => exact ho.elim
  | _ => rfl

theorem pairObserver_setIp (value : RedisValue) (r : Except PyExc Unit) :
    pairObserver.step γ i (.redisSet ipKey value) w r w' =
      if addressWritten w r w' then { γ with writing := some i } else γ := by
  simp only [pairObserver, PairNotes.after, if_pos]

theorem pairObserver_setPort (value : RedisValue) (r : Except PyExc Unit) :
    pairObserver.step γ i (.redisSet portKey value) w r w' =
      if cachedText (w'.redis portKey) = value.asText then { γ with writing := none } else γ := by
  simp only [pairObserver, PairNotes.after, if_neg portKey_ne, true_and]

theorem pairObserver_getIp (cached : Option RedisValue) :
    pairObserver.step γ i (.redisGet ipKey) w (.ok cached) w' =
      { γ with address := Function.update γ.address i (cachedText cached) } := by
  simp only [pairObserver, PairNotes.after, if_pos]

theorem pairObserver_getPort (r : Except PyExc (Option RedisValue)) :
    pairObserver.step γ i (.redisGet portKey) w r w' = γ := by
  cases r with
  | error x => rfl
  | ok cached => simp only [pairObserver, PairNotes.after, if_neg portKey_ne]

/-- A read changes no notes but those of its own process. -/
theorem pairObserver_get (γ : PairNotes ι) (i : ι) (w w' : World ι) (key : String)
    (r : Except PyExc (Option RedisValue)) :
    (pairObserver.step γ i (.redisGet key) w r w').writing = γ.writing ∧
      ∀ j, j ≠ i → (pairObserver.step γ i (.redisGet key) w r w').address j = γ.address j := by
  cases r with
  | error x => exact ⟨rfl, fun _ _ => rfl⟩
  | ok cached =>
      simp only [pairObserver, PairNotes.after]
      split
      · exact ⟨rfl, fun j hj => Function.update_of_ne hj _ _⟩
      · exact ⟨rfl, fun _ _ => rfl⟩

/-- An operation on the database. -/
theorem Pairs.sql (h : Pairs rcsBaseUrl requests c s)
    (hs : Step ((system expires).watch pairObserver) c e c') {o : Op}
    {k : Except PyExc (Ret o) → M (Option String)} (ho : o.Sql) (hp : c.procs e.pid = .op o k)
    (hk : ∀ r, RequestAt rcsBaseUrl c.shared.1 (c.shared.2.address e.pid) (requests e.pid)
      (s.phase e.pid) (k r)) : Pairs rcsBaseUrl requests c' s := by
  obtain ⟨r, w', -, hx, rfl⟩ := hs.watch_at hp
  obtain ⟨hredis, -, -⟩ := exec_sql hx ho
  have hkept : ∀ key, Holds c.shared.1 key → Holds w' key := fun key hh =>
    hh.of_redis (congrFun hredis key)
  rw [pairObserver_sql r ho]
  refine h.next ?_ ?_ h.writing (hkept _) (hkept _) (fun _ _ => ⟨rfl, rfl⟩)
    ((hk r).mono (hkept _) (hkept _))
  · rw [hredis]
    exact h.first
  · rw [hredis]
    exact h.second

/-- The write of the address. -/
theorem Pairs.writeFirst (h : Pairs rcsBaseUrl requests c s)
    (hs : Step ((system expires).watch pairObserver) c e c') {payload : ConnectionSettingsUpdate}
    {k : Except PyExc Unit → M (Option String)} (hreq : requests e.pid = .update payload)
    (hidle : s.phase e.pid = .idle)
    (hp : c.procs e.pid = .op (.redisSet ipKey (.text payload.rcsIp)) k)
    (hok : Updating payload.rcsIp (toString payload.rcsPort) .second (k (.ok ())))
    (herr : ∀ e, Closing (k (.error e))) :
    ∃ s', Relation.ReflTransGen (Move strict fun i => (requests i).pair) s s' ∧
      Pairs rcsBaseUrl requests c' s' := by
  obtain ⟨r, w', -, hx, rfl⟩ := hs.watch_at hp
  have hfailed : ∀ x address, RequestAt rcsBaseUrl w' address (requests e.pid) (s.phase e.pid)
      (k (.error x)) := fun x address => requestAt_closing hreq hidle (herr x)
  rw [pairObserver_setIp]
  rcases exec_redisSet hx with ⟨rfl, x, rfl⟩ | rfl
  · have hsame : ¬ addressWritten c.shared.1 (.error x) c.shared.1 := by
      rintro (hx | hx)
      · cases hx
      · exact hx rfl
    rw [if_neg hsame]
    exact ⟨s, .refl, h.next h.first h.second h.writing id id (fun _ _ => ⟨rfl, rfl⟩)
      (hfailed x _)⟩
  · have hport : s.second = cachedText
        ((c.shared.1.setRedis ipKey (.text payload.rcsIp)).redis portKey) := by
      rw [h.second, World.setRedis_redis, Function.update_of_ne portKey_ne]
    have hip : cachedText ((c.shared.1.setRedis ipKey (.text payload.rcsIp)).redis ipKey) =
        some payload.rcsIp := by
      rw [World.setRedis_redis, Function.update_self]
      rfl
    by_cases hw : addressWritten c.shared.1 r (c.shared.1.setRedis ipKey (.text payload.rcsIp))
    · rw [if_pos hw]
      refine ⟨_, .single (.writeFirst (i := e.pid) (a := payload.rcsIp)
        (b := toString payload.rcsPort) ?_), ?_⟩
      · rw [hreq]
        rfl
      · refine h.next hip.symm hport rfl (fun hh => hh.setRedis _ _) (fun hh => hh.setRedis _ _)
          (fun _ _ => ⟨rfl, rfl⟩) ?_
        cases r with
        | error x => exact hfailed x _
        | ok u =>
            rw [hreq]
            dsimp only
            rw [hidle]
            exact .updating hok (holds_setRedis _ _ _)
    · -- The write has failed, and left the text that was there.
      rw [if_neg hw]
      rw [addressWritten, not_or, not_not] at hw
      obtain ⟨hans, hsame⟩ := hw
      cases r with
      | ok u => exact absurd rfl hans
      | error x =>
          exact ⟨s, .refl, h.next (h.first.trans hsame.symm) hport h.writing
            (fun hh => hh.setRedis _ _) (fun hh => hh.setRedis _ _) (fun _ _ => ⟨rfl, rfl⟩)
            (hfailed x _)⟩

/-- The write of the port. -/
theorem Pairs.writeSecond (h : Pairs rcsBaseUrl requests c s)
    (hs : Step ((system expires).watch pairObserver) c e c')
    (hG : strict → PairsKept requests c e c') {payload : ConnectionSettingsUpdate}
    {k : Except PyExc Unit → M (Option String)} (hreq : requests e.pid = .update payload)
    (hidle : s.phase e.pid = .idle) (hwritten : Holds c.shared.1 ipKey)
    (hp : c.procs e.pid = .op (.redisSet portKey (.text (toString payload.rcsPort))) k)
    (hok : Updating payload.rcsIp (toString payload.rcsPort) .rest (k (.ok ())))
    (herr : ∀ e, Closing (k (.error e))) :
    ∃ s', Relation.ReflTransGen (Move strict fun i => (requests i).pair) s s' ∧
      Pairs rcsBaseUrl requests c' s' := by
  obtain ⟨r, w', he, hx, rfl⟩ := hs.watch_at hp
  rw [pairObserver_setPort]
  have hw : w' = c.shared.1 ∧ (∃ x, r = .error x) ∨
      w' = c.shared.1.setRedis portKey (.text (toString payload.rcsPort)) := exec_redisSet hx
  have hip : s.first = cachedText (w'.redis ipKey) := by
    rcases hw with ⟨rfl, -⟩ | rfl
    · exact h.first
    · rw [h.first, World.setRedis_redis, Function.update_of_ne portKey_ne.symm]
  have hkept : ∀ key, Holds c.shared.1 key → Holds w' key := by
    rcases hw with ⟨rfl, -⟩ | rfl
    · exact fun _ => id
    · exact fun key hh => hh.setRedis _ _
  have hfailed : ∀ x address, RequestAt rcsBaseUrl w' address (requests e.pid) (s.phase e.pid)
      (k (.error x)) := fun x address => requestAt_closing hreq hidle (herr x)
  by_cases hset : cachedText (w'.redis portKey) =
      (RedisValue.text (toString payload.rcsPort)).asText
  · rw [if_pos hset]
    refine ⟨_, .single (.writeSecond (i := e.pid) (a := payload.rcsIp)
      (b := toString payload.rcsPort) ?_ fun hstrict => ?_), ?_⟩
    · rw [hreq]
      rfl
    · rw [h.writing]
      refine (hG hstrict).1 ?_
      rw [show e.op = .redisSet portKey _ from congrArg Event.op he]
      rfl
    · refine h.next hip hset.symm rfl (hkept _) (hkept _) (fun _ _ => ⟨rfl, rfl⟩) ?_
      cases r with
      | error x => exact hfailed x _
      | ok u =>
          rw [hreq]
          dsimp only
          rw [hidle]
          refine .updating hok ⟨hkept _ hwritten, ?_⟩
          rcases hw with ⟨-, x, hr⟩ | rfl
          · cases hr
          · exact holds_setRedis _ _ _
  · rcases hw with ⟨rfl, x, rfl⟩ | rfl
    · rw [if_neg hset]
      exact ⟨s, .refl, h.next h.first h.second h.writing id id (fun _ _ => ⟨rfl, rfl⟩)
        (hfailed x _)⟩
    · refine absurd ?_ hset
      rw [World.setRedis_redis, Function.update_self]
      rfl

/-- The reads of an update's answer find the entries. -/
theorem Pairs.readBack (h : Pairs rcsBaseUrl requests c s)
    (hs : Step ((system expires).watch pairObserver) c e c') {payload : ConnectionSettingsUpdate}
    {key : String} {k : Except PyExc (Option RedisValue) → M (Option String)}
    (hreq : requests e.pid = .update payload) (hidle : s.phase e.pid = .idle)
    (hwritten : Part.rest.Written c.shared.1) (hkey : key = ipKey ∨ key = portKey)
    (hp : c.procs e.pid = .op (.redisGet key) k)
    (hhit : ∀ t, Updating payload.rcsIp (toString payload.rcsPort) .rest
      (k (.ok (some (.text t)))))
    (herr : ∀ e, Closing (k (.error e))) : Pairs rcsBaseUrl requests c' s := by
  obtain ⟨r, w', -, hx, rfl⟩ := hs.watch_at hp
  obtain ⟨rfl, hr⟩ := exec_read hx id rfl
  have hnotes := pairObserver_get c.shared.2 e.pid c.shared.1 c.shared.1 key r
  obtain ⟨t, ht⟩ : Holds c.shared.1 key := by
    rcases hkey with rfl | rfl
    · exact hwritten.1
    · exact hwritten.2
  refine h.next h.first h.second (h.writing.trans hnotes.1.symm) id id
    (fun j hj => ⟨rfl, hnotes.2 j hj⟩) ?_
  rw [hreq, hidle]
  rcases hr with rfl | ⟨x, rfl⟩
  · rw [ht]
    exact .updating (hhit t) hwritten
  · exact .updating (.closing (herr x)) hwritten

/-- **One step** of an update. -/
theorem Pairs.update_step (h : Pairs rcsBaseUrl requests c s)
    (hG : strict → PairsKept requests c e c')
    (hs : Step ((system expires).watch pairObserver) c e c') {payload : ConnectionSettingsUpdate}
    {part : Part} {p : M (Option String)} (hreq : requests e.pid = .update payload)
    (hidle : s.phase e.pid = .idle) (hp : c.procs e.pid = p)
    (hu : Updating payload.rcsIp (toString payload.rcsPort) part p)
    (hw : part.Written c.shared.1) :
    ∃ s', Relation.ReflTransGen (Move strict fun i => (requests i).pair) s s' ∧
      Pairs rcsBaseUrl requests c' s' := by
  have hat : ∀ {part : Part} {p : M (Option String)} {address : Option String},
      Updating payload.rcsIp (toString payload.rcsPort) part p → part.Written c.shared.1 →
        RequestAt rcsBaseUrl c.shared.1 address (requests e.pid) (s.phase e.pid) p :=
    fun hu hw => by
      rw [hreq, hidle]
      exact .updating hu hw
  cases hu with
  | sql ho hok herr =>
      refine ⟨s, .refl, h.sql hs ho hp fun r => ?_⟩
      cases r with
      | ok v => exact hat (hok v) hw
      | error x => exact requestAt_closing hreq hidle (herr x)
  | first hok herr => exact h.writeFirst hs hreq hidle hp hok herr
  | second hok herr => exact h.writeSecond hs hG hreq hidle hw hp hok herr
  | get hkey hhit herr => exact ⟨s, .refl, h.readBack hs hreq hidle hw hkey hp hhit herr⟩
  | closing hclose =>
      cases hclose with
      | ret => exact absurd hp hs.not_ret
      | raise _ => exact absurd hp hs.not_raise
      | sql ho hk =>
          exact ⟨s, .refl, h.sql hs ho hp fun r => requestAt_closing hreq hidle (hk r)⟩

/-! ### One step of a request to RCS -/

/-- The read of the address. -/
theorem Pairs.readFirst (h : Pairs rcsBaseUrl requests c s)
    (hs : Step ((system expires).watch pairObserver) c e c') {path : String}
    {k : Except PyExc (Option RedisValue) → M (Option String)} (hreq : requests e.pid = .send path)
    (hp : c.procs e.pid = .op (.redisGet ipKey) k)
    (hok : ∀ cached, k (.ok cached) =
      (resolveWithIp (clientBaseUrl rcsBaseUrl) path cached).bind fun url => .ret (some url))
    (herr : ∀ e, k (.error e) = .raise e) :
    ∃ s', Relation.ReflTransGen (Move strict fun i => (requests i).pair) s s' ∧
      Pairs rcsBaseUrl requests c' s' := by
  obtain ⟨r, w', -, hx, rfl⟩ := hs.watch_at hp
  obtain ⟨rfl, rfl | ⟨x, rfl⟩⟩ := exec_read hx id rfl
  · refine ⟨_, .single (.readFirst (i := e.pid)), ?_⟩
    rw [pairObserver_getIp, hok]
    refine h.next h.first h.second h.writing id id
      (fun j hj => ⟨Function.update_of_ne hj _ _, Function.update_of_ne hj _ _⟩) ?_
    dsimp only
    rw [hreq, Function.update_self, Function.update_self, h.first]
    exact .half rfl (fun _ => rfl) fun _ => rfl
  · refine ⟨s, .refl, ?_⟩
    rw [herr]
    refine h.next h.first h.second h.writing id id (fun _ _ => ⟨rfl, rfl⟩) ?_
    rw [hreq]
    exact .failed

/-- The read of the port. -/
theorem Pairs.readSecond (h : Pairs rcsBaseUrl requests c s)
    (hs : Step ((system expires).watch pairObserver) c e c')
    (hG : strict → PairsKept requests c e c') {path : String} {ip : Option String}
    {k : Except PyExc (Option RedisValue) → M (Option String)} (hreq : requests e.pid = .send path)
    (hhalf : s.phase e.pid = .half ip) (ha : c.shared.2.address e.pid = ip)
    (hp : c.procs e.pid = .op (.redisGet portKey) k)
    (hok : ∀ cached, k (.ok cached) =
      .ret (some (fullUrl (clientBaseUrl rcsBaseUrl) path ip (cachedText cached))))
    (herr : ∀ e, k (.error e) = .raise e) :
    ∃ s', Relation.ReflTransGen (Move strict fun i => (requests i).pair) s s' ∧
      Pairs rcsBaseUrl requests c' s' := by
  obtain ⟨r, w', he, hx, rfl⟩ := hs.watch_at hp
  rw [pairObserver_getPort] at hG ⊢
  obtain ⟨rfl, rfl | ⟨x, rfl⟩⟩ := exec_read hx id rfl
  · refine ⟨_, .single (.readSecond (i := e.pid) hhalf fun hstrict => ?_), ?_⟩
    · have hkept := (hG hstrict).2
      rw [show e.op = .redisGet portKey from congrArg Event.op he, hreq] at hkept
      obtain ⟨hnone, hsame⟩ := hkept ⟨rfl, rfl⟩
      exact ⟨h.writing.trans hnone, ha.symm.trans (hsame.trans h.first.symm)⟩
    · rw [hok]
      refine h.next h.first h.second h.writing id id
        (fun j hj => ⟨Function.update_of_ne hj _ _, rfl⟩) ?_
      dsimp only
      rw [hreq, Function.update_self, h.second]
      exact .sent
  · refine ⟨s, .refl, ?_⟩
    rw [herr]
    refine h.next h.first h.second h.writing id id (fun _ _ => ⟨rfl, rfl⟩) ?_
    rw [hreq]
    exact .failed

/-- **One step** of the requests is a step of the pair. -/
theorem Pairs.step (h : Pairs rcsBaseUrl requests c s) (hG : strict → PairsKept requests c e c')
    (hs : Step ((system expires).watch pairObserver) c e c') :
    ∃ s', Relation.ReflTransGen (Move strict fun i => (requests i).pair) s s' ∧
      Pairs rcsBaseUrl requests c' s' := by
  have hi := h.request e.pid
  generalize hp : c.procs e.pid = p at hi
  generalize hφ : s.phase e.pid = φ at hi
  generalize hreq : requests e.pid = request at hi
  cases hi with
  | updating hu hw => exact h.update_step hG hs hreq hφ hp hu hw
  | begin hok herr => exact h.readFirst hs hreq hp hok herr
  | half ha hok herr => exact h.readSecond hs hG hreq hφ ha hp hok herr
  | sent => exact absurd hp hs.not_ret
  | failed => exact absurd hp hs.not_raise

/-! ### What a request resolves -/

/-- A run of the requests is a run of the pair. -/
theorem Pairs.run (strict : Prop) {G : Guard ι Op Ret PyExc (Option String) (World ι × PairNotes ι)}
    (hG : strict → ∀ c e c', G c e c' → PairsKept requests c e c')
    (h : Run ((system OtherEntry).watch pairObserver) G
      (.start (w, {}) fun i => (requests i).program rcsBaseUrl) c) :
    ∃ s, Relation.ReflTransGen (Move strict fun i => (requests i).pair)
        ⟨cachedText (w.redis ipKey), cachedText (w.redis portKey), none, fun _ => .idle⟩ s ∧
      Pairs rcsBaseUrl requests c s := by
  have hstart : Pairs rcsBaseUrl requests
      (.start (w, {}) fun i => (requests i).program rcsBaseUrl)
      ⟨cachedText (w.redis ipKey), cachedText (w.redis portKey), none, fun _ => .idle⟩ :=
    ⟨rfl, rfl, rfl, fun i => (requests i).program_at rcsBaseUrl w none⟩
  refine Run.simulate h (fun d d' e a hr hg hst =>
    hr.step (fun hstrict => hG hstrict d e d' hg) hst) ?_ hstart
  rintro d ⟨w', γ⟩ a hr ⟨⟨key, hkey, hw⟩, hγ⟩
  dsimp only at hw hγ
  subst hw hγ
  have hip : (d.shared.1.dropRedis key).redis ipKey = d.shared.1.redis ipKey :=
    Function.update_of_ne hkey.1.symm _ _
  have hport : (d.shared.1.dropRedis key).redis portKey = d.shared.1.redis portKey :=
    Function.update_of_ne hkey.2.symm _ _
  refine ⟨a, .refl, ?_, ?_, hr.writing, fun i => (hr.request i).mono ?_ ?_⟩
  · exact hr.first.trans (congrArg cachedText hip.symm)
  · exact hr.second.trans (congrArg cachedText hport.symm)
  · exact fun hh => hh.of_redis hip
  · exact fun hh => hh.of_redis hport

omit [DecidableEq ι] in
/-- A request that has resolved a URL has read the two entries. -/
theorem Pairs.sentTo (h : Pairs rcsBaseUrl requests c s) {url : String}
    (hurl : sentTo (c.procs i) = some url) :
    ∃ path ip port, requests i = .send path ∧ s.phase i = .got ip port ∧
      url = fullUrl (clientBaseUrl rcsBaseUrl) path ip port := by
  have hi := h.request i
  generalize hp : c.procs i = p at hi hurl
  generalize hφ : s.phase i = φ at hi ⊢
  generalize hreq : requests i = request at hi ⊢
  cases hi with
  | updating hu _ => cases hu.sentTo.symm.trans hurl
  | begin _ _ | half _ _ _ | failed => cases hurl
  | sent =>
      cases hurl
      exact ⟨_, _, _, rfl, rfl, rfl⟩

/-- **What a request resolves**: each setting was supplied, and the two were supplied together in a
run whose steps all keep the pairs. -/
theorem resolved_settings_supplied (rcsBaseUrl : String) (requests : ι → ConfigRequest)
    (w : World ι) (i : ι) (url : String) :
    (∀ c : Config ι Op Ret PyExc (Option String) (World ι),
      Run (system OtherEntry) unguarded (.start w fun i => (requests i).program rcsBaseUrl) c →
      sentTo (c.procs i) = some url →
      ∃ path ip port, requests i = .send path ∧
        url = fullUrl (clientBaseUrl rcsBaseUrl) path ip port ∧
        FirstSupplied (fun i => (requests i).pair) (cachedText (w.redis ipKey)) ip ∧
        SecondSupplied (fun i => (requests i).pair) (cachedText (w.redis portKey)) port) ∧
    ∀ c : WatchedRequests ι,
      Run ((system OtherEntry).watch pairObserver) (PairsKept requests)
        (.start (w, {}) fun i => (requests i).program rcsBaseUrl) c →
      sentTo (c.procs i) = some url →
      ∃ path ip port, requests i = .send path ∧
        url = fullUrl (clientBaseUrl rcsBaseUrl) path ip port ∧
        Whole (fun i => (requests i).pair) (cachedText (w.redis ipKey))
          (cachedText (w.redis portKey)) ip port := by
  refine ⟨fun c h hurl => ?_, fun c h hurl => ?_⟩
  · obtain ⟨γ, hwatched⟩ := h.watch (O := pairObserver) {}
    obtain ⟨s, hs, hpairs⟩ := Pairs.run False False.elim hwatched
    obtain ⟨path, ip, port, hreq, hgot, hfull⟩ := hpairs.sentTo hurl
    exact ⟨path, ip, port, hreq, hfull, supplied (fun _ => rfl) hs hgot⟩
  · obtain ⟨s, hs, hpairs⟩ := Pairs.run True (fun _ _ _ _ => id) h
    obtain ⟨path, ip, port, hreq, hgot, hfull⟩ := hpairs.sentTo hurl
    exact ⟨path, ip, port, hreq, hfull, whole rfl (fun _ => rfl) hs hgot⟩

/-! ### An update and a request -/

/-- The settings are `10.0.0.1` and `8080`. -/
def settledWorld : World Bool :=
  (({} : World Bool).setRedis ipKey (.text "10.0.0.1")).setRedis portKey (.text "8080")

/-- A request to RCS, and an update to `10.0.0.2` and `9090`. -/
def sendAndUpdate : Bool → ConfigRequest
  | false => .send "/rcs/rtas"
  | true => .update ⟨"10.0.0.2", 9090⟩

/-- The update writes the address, and the request reads both settings. -/
def readBetween : List (Bool × Env) :=
  [(true, {}), (true, {}), (true, {}), (false, {}), (false, {})]

/-- The update writes the address, the request reads it, the update writes the port, and the request
reads the port. -/
def readAlong : List (Bool × Env) :=
  [(true, {}), (true, {}), (true, {}), (true, {}), (true, {}), (false, {}), (true, {}),
    (false, {})]

/-- A request that reads beside an update, each setting after its write. -/
theorem resolved_settings_supplied_afterwards :
    ∃ c, Run ((system OtherEntry).watch pairObserver) (PairsKept sendAndUpdate)
        (.start (settledWorld, {}) fun i => (sendAndUpdate i).program "http://localhost:8080") c ∧
      sentTo (c.procs false) = some "http://10.0.0.2:9090/rcs/rtas" ∧
      ∃ path ip port, sendAndUpdate false = .send path ∧
        "http://10.0.0.2:9090/rcs/rtas" =
          fullUrl (clientBaseUrl "http://localhost:8080") path ip port ∧
        Whole (fun i => (sendAndUpdate i).pair) (cachedText (settledWorld.redis ipKey))
          (cachedText (settledWorld.redis portKey)) ip port := by
  obtain ⟨c, hc, hurl⟩ : ∃ c, Run ((system OtherEntry).watch pairObserver)
      (PairsKept sendAndUpdate)
      (.start (settledWorld, {}) fun i => (sendAndUpdate i).program "http://localhost:8080") c ∧
      sentTo (c.procs false) = some "http://10.0.0.2:9090/rcs/rtas" :=
    watched_run_of_schedule readAlong (by decide)
  exact ⟨c, hc, hurl, (resolved_settings_supplied "http://localhost:8080" sendAndUpdate
    settledWorld false _).2 c hc hurl⟩

/-- **Mixed settings.**  Every step succeeds, and the request goes to the address of the update with
the port that was there before. -/
theorem mixed_settings :
    ∃ c, Run (system OtherEntry) Succeeds
        (.start settledWorld fun i => (sendAndUpdate i).program "http://localhost:8080") c ∧
      sentTo (c.procs false) = some "http://10.0.0.2:8080/rcs/rtas" ∧
      ¬ ∃ path ip port, sendAndUpdate false = .send path ∧
        "http://10.0.0.2:8080/rcs/rtas" =
          fullUrl (clientBaseUrl "http://localhost:8080") path ip port ∧
        Whole (fun i => (sendAndUpdate i).pair) (cachedText (settledWorld.redis ipKey))
          (cachedText (settledWorld.redis portKey)) ip port := by
  obtain ⟨c, hc, hurl⟩ : ∃ c, Run (system OtherEntry) Succeeds
      (.start settledWorld fun i => (sendAndUpdate i).program "http://localhost:8080") c ∧
      sentTo (c.procs false) = some "http://10.0.0.2:8080/rcs/rtas" :=
    run_of_schedule readBetween (by decide)
  refine ⟨c, hc, hurl, ?_⟩
  rintro ⟨path, ip, port, hpath, hfull, hwhole⟩
  cases hpath
  rcases hwhole with ⟨rfl, rfl⟩ | ⟨j, u, v, hj, rfl, rfl⟩
  · exact absurd hfull (by decide)
  · cases j with
    | false => cases hj
    | true =>
        cases hj
        exact absurd hfull (by decide)

end Rcs
