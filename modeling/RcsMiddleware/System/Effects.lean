import RcsMiddleware.System.Jobs

/-!
# System — Effects

What one operation can change, whatever fails: the entries of Redis, the session of its process, the
tables, the queue and the calls RCS has received, each said once.

* `exec_entry`, `exec_sessions`, `exec_db`, `exec_queue`, `exec_rcsLog`: what each component holds
  after an operation, it held before, or the operation names it.
-/

namespace Rcs

open Support

/-- The entry an operation stores in Redis. -/
def Op.entry? : Op → Option (String × RedisValue)
  | .redisSet key value | .redisSetNx key value _ | .redisSetex key _ value => some (key, value)
  | _ => none

/-- The changes an operation adds to its session. -/
def Op.writes : Op → List Write
  | .insertTask row => [.insertTask row]
  | .updateTask code u => [.updateTask code u]
  | .commit pending => pending
  | _ => []

variable {ι : Type} [DecidableEq ι] {i : ι} {o : Op} {w w' : World ι} {r : Except PyExc (Ret o)}

/-- What an operation can leave, its documented effect or none can. -/
theorem exec_left (h : Exec i o w r w') :
    w' = w ∨ w' = (respond i {} o w).2 ∨ ∃ call r, o = .rcs call ∧ w' = w.logRcs i call r := by
  by_cases hout : o.Outside
  · obtain ⟨-, env, henv⟩ := h
    cases o with
    | rcs call =>
        cases henv
        exact .inr (.inr ⟨call, _, rfl, rfl⟩)
    | sign _ _ _ | http _ | now =>
        cases henv
        exact .inl rfl
    | _ => exact hout.elim
  · rcases exec_store h hout with hok | ⟨e, -, hw | hw⟩
    · exact .inr (.inl (congrArg Prod.snd hok))
    · exact .inl hw
    · exact .inr (.inl hw)

omit [DecidableEq ι] in
theorem setRedis_entry {key key' : String} {value value' : RedisValue}
    (h : (w.setRedis key value).redis key' = some value') :
    w.redis key' = some value' ∨ some (key, value) = some (key', value') := by
  rw [World.setRedis_redis, Function.update_apply] at h
  split at h
  · next heq =>
    rw [heq, Option.some.inj h]
    exact .inr rfl
  · exact .inl h

/-- An entry was there before, or the operation has stored it. -/
theorem exec_entry (h : Exec i o w r w') {key : String} {value : RedisValue}
    (hkey : w'.redis key = some value) : w.redis key = some value ∨ o.entry? = some (key, value) := by
  rcases exec_left h with rfl | rfl | ⟨call, r', rfl, rfl⟩
  · exact .inl hkey
  · cases o with
    | redisSet key' value' | redisSetex key' _ value' => exact setRedis_entry hkey
    | redisSetNx key' value' ttl =>
        simp only [respond, Fault.strike] at hkey
        split at hkey
        · exact setRedis_entry hkey
        · exact .inl hkey
    | insertTask row =>
        rw [(respond_sql i {} w (o := .insertTask row) trivial).1] at hkey
        exact .inl hkey
    | commit pending =>
        rw [(respond_sql i {} w (o := .commit pending) trivial).1] at hkey
        exact .inl hkey
    | _ => exact .inl hkey
  · exact .inl hkey

/-- A change of a session was there before, or the operation has added it. -/
theorem exec_sessions (h : Exec i o w r w') {j : ι} {write : Write} (hmem : write ∈ w'.sessions j) :
    write ∈ w.sessions j ∨ j = i ∧ write ∈ o.writes := by
  by_cases hj : j = i
  · subst hj
    have hset : ∀ {ws}, write ∈ (w.setSession j ws).sessions j → write ∈ ws := fun hm => by
      rwa [World.setSession_self] at hm
    rcases exec_left h with rfl | rfl | ⟨call, r', rfl, rfl⟩
    · exact .inl hmem
    · cases o with
      | insertTask row =>
          simp only [respond, Fault.strike] at hmem
          split at hmem
          · exact .inl hmem
          · exact (List.mem_append.mp (hset hmem)).imp_right fun hm => ⟨rfl, hm⟩
      | updateTask code u => exact (List.mem_append.mp (hset hmem)).imp_right fun hm => ⟨rfl, hm⟩
      | redisSetNx key value ttl =>
          simp only [respond, Fault.strike] at hmem
          split at hmem <;> exact .inl hmem
      -- A commit empties the session, whether it succeeds or not.
      | commit pending =>
          simp only [respond, Fault.strike, World.commit] at hmem
          split at hmem
          · simp at hmem
          · simp at hmem
      | rollback | close => exact absurd (hset hmem) List.not_mem_nil
      | _ => exact .inl hmem
    · exact .inl hmem
  · rw [h.sessions_other hj] at hmem
    exact .inl hmem

/-- The tables are as before, or the operation has committed the changes of its session. -/
theorem exec_db (h : Exec i o w r w') :
    w'.db = w.db ∨ ∃ pending, o = .commit pending ∧
      (w.sessions i ++ pending).foldlM Write.run w.db = .ok w'.db := by
  by_cases ho : ∀ pending, o ≠ .commit pending
  · exact .inl (h.db ho)
  obtain ⟨pending, rfl⟩ : ∃ pending, o = .commit pending := by simpa using ho
  rcases exec_left h with rfl | rfl | ⟨call, r', hcall, -⟩
  · exact .inl rfl
  · cases hdb : (w.sessions i ++ pending).foldlM Write.run w.db with
    | error column => exact .inl (by simp only [respond, Fault.strike, World.commit, hdb]; rfl)
    | ok db =>
        refine .inr ⟨pending, rfl, ?_⟩
        rw [hdb]
        simp only [respond, Fault.strike, World.commit, hdb]
  · cases hcall

/-- The queue is as before, or the operation has enqueued a payload. -/
theorem exec_queue (h : Exec i o w r w') :
    w'.queue = w.queue ∨ ∃ payload, o = .delay payload ∧ w'.queue = w.queue ++ [(i, payload)] := by
  rcases exec_left h with rfl | rfl | ⟨call, r', rfl, rfl⟩
  · exact .inl rfl
  · cases o with
    | delay payload => exact .inr ⟨payload, rfl, rfl⟩
    | insertTask row => exact .inl (respond_sql i {} w (o := .insertTask row) trivial).2.2
    | commit pending => exact .inl (respond_sql i {} w (o := .commit pending) trivial).2.2
    | redisSetNx key value ttl =>
        simp only [respond, Fault.strike]
        split <;> exact .inl rfl
    | _ => exact .inl rfl
  · exact .inl rfl

/-- RCS has received the calls it had received before, and this one. -/
theorem exec_rcsLog (h : Exec i o w r w') :
    w'.rcsLog = w.rcsLog ∨ ∃ call r', o = .rcs call ∧ w'.rcsLog = (i, call, r') :: w.rcsLog := by
  rcases exec_left h with rfl | rfl | ⟨call, r', rfl, rfl⟩
  · exact .inl rfl
  · cases o with
    | rcs call => exact .inr ⟨call, _, rfl, rfl⟩
    | insertTask row => exact .inl (respond_sql i {} w (o := .insertTask row) trivial).2.1
    | commit pending => exact .inl (respond_sql i {} w (o := .commit pending) trivial).2.1
    | redisSetNx key value ttl =>
        simp only [respond, Fault.strike]
        split <;> exact .inl rfl
    | _ => exact .inl rfl
  · exact .inr ⟨call, r', rfl, rfl⟩

end Rcs
