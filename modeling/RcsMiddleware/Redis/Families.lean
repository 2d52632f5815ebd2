import RcsMiddleware.Source.SystemConfig
import RcsMiddleware.Source.WebhookService
import RcsMiddleware.Source.Worker
import RcsMiddleware.Submit.Concurrent

/-!
# Redis — Families

The middleware keeps five families of entries in one Redis: the idempotency entries of the two
submit operations, the robot states, the dedupe markers of the webhook and the settings.  Each
family builds its keys from strings its clients choose.

* `RedisKey.text_eq_iff`: keys of different families are the same text only where an
  `Idempotency-Key` of `create_task` goes on with the rest of the other family's prefix.
* `families_isolated_iff`: apart from that, no operation of one family reads or writes an entry of
  another.
-/

namespace Rcs

open Support Support.Text

inductive KeyFamily where
  | createIdempotency
  | rawIdempotency
  | robotState
  | webhookDedupe
  | sysconfig
  deriving DecidableEq, Repr

/-- A key of Redis, by the strings it is built from. -/
inductive RedisKey where
  | createIdempotency (key : String)
  | rawIdempotency (clientKey : String)
  | robotState (amrCode : String)
  | webhookDedupe (robotTaskCode method : String)
  | sysconfig (key : String)

namespace RedisKey

def family : RedisKey → KeyFamily
  | .createIdempotency _ => .createIdempotency
  | .rawIdempotency _ => .rawIdempotency
  | .robotState _ => .robotState
  | .webhookDedupe _ _ => .webhookDedupe
  | .sysconfig _ => .sysconfig

/-- The key as Redis sees it. -/
def text : RedisKey → String
  | .createIdempotency key => idempotencyKey key
  | .rawIdempotency clientKey => idemKey clientKey
  | .robotState amrCode => robotStateKey amrCode
  | .webhookDedupe robotTaskCode method => webhookDedupeKey robotTaskCode method
  | .sysconfig key => sysconfigKey key

/-- The first key is one of `create_task` whose string begins with what the prefix of a raw submit
has more than its own, and goes on with the second key's string. -/
def Shadows : RedisKey → RedisKey → Prop
  | .createIdempotency key, .rawIdempotency clientKey => key = "rcs_raw:" ++ clientKey
  | _, _ => False

end RedisKey

/-- The first letter of a family's keys. -/
def KeyFamily.initial : KeyFamily → Char
  | .createIdempotency | .rawIdempotency => 'i'
  | .robotState => 'r'
  | .webhookDedupe => 'w'
  | .sysconfig => 's'

namespace RedisKey

variable {a b : RedisKey}

theorem text_head (k : RedisKey) : k.text.toList.head? = some k.family.initial := by
  cases k with
  | createIdempotency key => exact head?_append rfl key
  | rawIdempotency clientKey => exact head?_append rfl clientKey
  | robotState amrCode => exact head?_append (head?_append rfl amrCode) ":state"
  | webhookDedupe robotTaskCode method =>
      exact head?_append (head?_append (head?_append rfl robotTaskCode) ":") method
  | sysconfig key => exact head?_append rfl key

/-- Two families that share their first letter are those of the submit operations. -/
theorem submit_families {f g : KeyFamily} (h : f ≠ g) (hi : f.initial = g.initial) :
    (f = .createIdempotency ∧ g = .rawIdempotency) ∨
      (f = .rawIdempotency ∧ g = .createIdempotency) := by
  cases f <;> cases g <;>
    first
    | exact absurd rfl h
    | exact absurd hi (by decide)
    | exact .inl ⟨rfl, rfl⟩
    | exact .inr ⟨rfl, rfl⟩

theorem eq_create (h : a.family = .createIdempotency) : ∃ key, a = .createIdempotency key := by
  cases a with
  | createIdempotency key => exact ⟨key, rfl⟩
  | _ => cases h

theorem eq_raw (h : a.family = .rawIdempotency) : ∃ clientKey, a = .rawIdempotency clientKey := by
  cases a with
  | rawIdempotency clientKey => exact ⟨clientKey, rfl⟩
  | _ => cases h

theorem Shadows.initial (h : a.Shadows b) : a.family.initial = b.family.initial := by
  cases a <;> cases b <;> first | rfl | exact h.elim

/-- The prefix of a raw submit goes on from the other one. -/
theorem idemKey_eq (clientKey : String) :
    idemKey clientKey = idempotencyKey ("rcs_raw:" ++ clientKey) := by
  have hprefix : "idempotency:rcs_raw:" = "idempotency:" ++ "rcs_raw:" := by rfl
  calc idemKey clientKey
      = "idempotency:" ++ "rcs_raw:" ++ clientKey := congrArg (· ++ clientKey) hprefix
    _ = idempotencyKey ("rcs_raw:" ++ clientKey) := String.append_assoc

theorem idempotencyKey_eq_idemKey {key clientKey : String} :
    idempotencyKey key = idemKey clientKey ↔ key = "rcs_raw:" ++ clientKey := by
  rw [idemKey_eq]
  exact String.append_right_inj _

/-- **Keys of different families** are the same only where one shadows the other. -/
theorem text_eq_iff (h : a.family ≠ b.family) : a.text = b.text ↔ a.Shadows b ∨ b.Shadows a := by
  by_cases hi : a.family.initial = b.family.initial
  · rcases submit_families h hi with ⟨ha, hb⟩ | ⟨ha, hb⟩
    · obtain ⟨key, rfl⟩ := eq_create ha
      obtain ⟨clientKey, rfl⟩ := eq_raw hb
      exact idempotencyKey_eq_idemKey.trans ⟨.inl, fun h => h.resolve_right id⟩
    · obtain ⟨clientKey, rfl⟩ := eq_raw ha
      obtain ⟨key, rfl⟩ := eq_create hb
      exact (eq_comm.trans idempotencyKey_eq_idemKey).trans ⟨.inr, fun h => h.resolve_left id⟩
  · refine iff_of_false (fun ht => hi ?_) (not_or.mpr ⟨fun hs => hi hs.initial, fun hs =>
      hi hs.initial.symm⟩)
    have hhead := text_head a
    rw [ht, text_head b] at hhead
    exact (Option.some.inj hhead).symm

end RedisKey

/-! ### The operations on an entry -/

/-- The key of an operation on Redis. -/
def Op.redisKey? : Op → Option String
  | .redisGet key | .redisSet key _ | .redisSetNx key _ _ | .redisSetex key _ _ => some key
  | _ => none

/-- The world with another entry under a key, or none. -/
def World.withEntry {ι : Type} (w : World ι) (key : String) (entry : Option RedisValue) : World ι :=
  { w with redis := Function.update w.redis key entry }

/-- No operation on `key` writes the entry `other`, or is answered by what it holds. -/
def Spares (key other : String) : Prop :=
  ∀ (ι : Type) [DecidableEq ι] (i : ι) (env : Env) (o : Op) (w : World ι)
    (entry : Option RedisValue), o.redisKey? = some key →
      (respond i env o w).2.redis other = w.redis other ∧
        (respond i env o (w.withEntry other entry)).1 = (respond i env o w).1

theorem Fault.strike_redis {ι α : Type} (f : Fault) {w w' : World ι} {r : Except PyExc α}
    {key : String} (h : w'.redis key = w.redis key) :
    (f.strike w (r, w')).2.redis key = w.redis key := by
  cases f with
  | none | after _ => exact h
  | before _ => rfl

theorem Fault.strike_answer {σ α : Type} (f : Fault) {s s' : σ} {x x' : Except PyExc α × σ}
    (h : x.1 = x'.1) : (f.strike s x).1 = (f.strike s' x').1 := by
  cases f with
  | none => exact h
  | before _ | after _ => rfl

/-- An operation on one entry spares the others. -/
theorem spares_of_ne {key other : String} (h : key ≠ other) : Spares key other := by
  intro ι _ i env o w entry ho
  have hset : ∀ value, (w.setRedis key value).redis other = w.redis other := fun value =>
    Function.update_of_ne (Ne.symm h) _ _
  have hentry : (w.withEntry other entry).redis key = w.redis key := Function.update_of_ne h _ _
  cases o with
  | redisGet _ =>
      cases ho
      exact ⟨env.fault.strike_redis rfl, env.fault.strike_answer (congrArg Except.ok hentry)⟩
  | redisSet _ value | redisSetex _ _ value =>
      cases ho
      exact ⟨env.fault.strike_redis (hset value), env.fault.strike_answer rfl⟩
  | redisSetNx _ value _ =>
      cases ho
      refine ⟨?_, env.fault.strike_answer ?_⟩
      · rw [respond]
        split
        · exact env.fault.strike_redis (hset value)
        · exact env.fault.strike_redis rfl
      · rw [hentry]
        cases w.redis key <;> rfl
  | _ => cases ho

/-- **The families are isolated** from each other, except for a key of `create_task` that shadows
one of a raw submit. -/
theorem families_isolated_iff {a b : RedisKey} (h : a.family ≠ b.family) :
    (a.text ≠ b.text ∧ Spares a.text b.text ∧ Spares b.text a.text) ↔
      ¬ (a.Shadows b ∨ b.Shadows a) := by
  rw [← RedisKey.text_eq_iff h]
  exact ⟨And.left, fun hne => ⟨hne, spares_of_ne hne, spares_of_ne (Ne.symm hne)⟩⟩

/-- One string used as key on both endpoints names two entries. -/
theorem families_isolated_sameKey :
    RedisKey.text (.createIdempotency "K1") ≠ RedisKey.text (.rawIdempotency "K1") := by
  have hnot : ¬ (RedisKey.Shadows (.createIdempotency "K1") (.rawIdempotency "K1") ∨
      RedisKey.Shadows (.rawIdempotency "K1") (.createIdempotency "K1")) := by
    rintro (h | h)
    · have hkey : "K1" = "rcs_raw:" ++ "K1" := h
      exact absurd hkey (by decide)
    · exact h
  exact ((families_isolated_iff (a := .createIdempotency "K1") (b := .rawIdempotency "K1")
    (by decide)).mpr hnot).1

/-- The answer to a raw submit. -/
def answeredRaw : RcsRawSubmitResult := ⟨none, none, false, false, []⟩

/-- **A key of `create_task` names the entry of a raw submit.**  After a raw submit with the key
`K1` has been cached, `create_task` with the key `rcs_raw:K1` finds its entry and refuses the
request as a duplicate. -/
theorem create_key_shadows_raw :
    RedisKey.text (.createIdempotency "rcs_raw:K1") = RedisKey.text (.rawIdempotency "K1") ∧
      ∃ e, ((createTask sampleRequest (some "rcs_raw:K1")).run (respond () {})
        ((saveRaw "K1" sampleRawRequest sampleRawRequest.path answeredRaw).run
          (respond () {}) {}).2).1 = .error (.app e) ∧
        e.cls = .duplicateTaskError :=
  ⟨by decide, _, rfl, rfl⟩

end Rcs
