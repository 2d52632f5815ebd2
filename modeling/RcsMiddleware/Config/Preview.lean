import RcsMiddleware.Source.SystemConfig

/-!
# Config — Preview

Where a request to RCS goes, and where the settings say it goes.  `get_connection_settings` falls
back from Redis to the database, one setting at a time; `_resolve_full_url` reads Redis alone, and
falls back to `RCS_BASE_URL` when either entry is missing.  So once an entry is evicted the two
part (`evicted_preview_differs`).

**When they agree** (`preview_agrees_iff`).  The port, when there is one, has to be a number; and
both entries are in Redis, or a setting is missing, or `RCS_BASE_URL` is the configured address.
-/

namespace Rcs

open Support Support.Text Support.Prog

/-- An operation that succeeds. -/
def answered (o : Op) (w : World Unit) : Except PyExc (Ret o) × World Unit := respond () {} o w

/-- The Redis entry of a setting. -/
def cachedSetting (key : String) (w : World Unit) : Option String :=
  cachedText (w.redis (sysconfigKey key))

/-- A setting: its Redis entry, or its row. -/
def setting (key : String) (w : World Unit) : Option String :=
  (cachedSetting key w).or (w.db.configs key).join

variable {w : World Unit} {key : String}

/-! ### The two readers -/

theorem configGet_of_cached {text : String} (h : cachedSetting key w = some text) :
    (configGet key).run answered w = (.ok (some text), w) := by
  have hget : answered (.redisGet (sysconfigKey key)) w = (.ok (w.redis (sysconfigKey key)), w) :=
    rfl
  rw [configGet, Prog.bind_eq, run_bind, run_perform, hget, onOk_ok]
  rw [cachedSetting] at h
  rw [h]
  rfl

/-- `get` answers the setting, and fills the cache from the row when it has to. -/
theorem configGet_run (key : String) (w : World Unit) :
    ∃ w', (configGet key).run answered w = (.ok (setting key w), w') ∧ w'.db = w.db ∧
      ∀ key', key' ≠ sysconfigKey key → w'.redis key' = w.redis key' := by
  cases hc : cachedSetting key w with
  | some text =>
      refine ⟨w, ?_, rfl, fun _ _ => rfl⟩
      rw [configGet_of_cached hc, setting, hc]
      rfl
  | none =>
      have hget : answered (.redisGet (sysconfigKey key)) w =
          (.ok (w.redis (sysconfigKey key)), w) := rfl
      have hselect : answered (.selectConfig key) w = (.ok (w.db.configs key), w) := rfl
      rw [configGet, Prog.bind_eq, run_bind, run_perform, hget, onOk_ok]
      rw [setting, hc]
      rw [cachedSetting] at hc
      rw [hc, configFrom, configFetch, Prog.bind_eq, run_bind, run_perform, hselect, onOk_ok]
      rcases w.db.configs key with _ | _ | value
      · exact ⟨w, rfl, rfl, fun _ _ => rfl⟩
      · exact ⟨w, rfl, rfl, fun _ _ => rfl⟩
      · exact ⟨w.setRedis (sysconfigKey key) (.text value), rfl, rfl, fun key' hk =>
          Function.update_of_ne hk _ _⟩

/-- What `get_connection_settings` answers. -/
theorem getConnectionSettings_run (rcsBaseUrl : String) (w : World Unit) :
    ((getConnectionSettings rcsBaseUrl).run answered w).1 =
      connectionSettings rcsBaseUrl (setting "rcs_ip" w) (setting "rcs_port" w) := by
  obtain ⟨w₁, h₁, hdb, hredis⟩ := configGet_run "rcs_ip" w
  obtain ⟨w₂, h₂, -, -⟩ := configGet_run "rcs_port" w₁
  have hport : setting "rcs_port" w₁ = setting "rcs_port" w := by
    rw [setting, setting, cachedSetting, cachedSetting, hdb, hredis _ (by decide)]
  rw [getConnectionSettings, Prog.bind_eq, run_bind, h₁, onOk_ok, Prog.bind_eq, run_bind, h₂,
    onOk_ok, run_ofExcept, hport]

/-- What `_resolve_full_url` answers. -/
theorem resolveFullUrl_run (baseUrl path : String) (w : World Unit) :
    ((resolveFullUrl baseUrl path).run answered w).1 =
      .ok (fullUrl baseUrl path (cachedSetting "rcs_ip" w) (cachedSetting "rcs_port" w)) := by
  have hget : ∀ key, answered (.redisGet key) w = (.ok (w.redis key), w) := fun _ => rfl
  rw [resolveFullUrl, Prog.bind_eq, run_bind, run_perform, hget, onOk_ok, resolveWithIp,
    Prog.bind_eq, run_bind, run_perform, hget, onOk_ok]
  rfl

/-! ### When they agree -/

/-- The preview shows the address a request for `path` goes to. -/
def PreviewAgrees (rcsBaseUrl path : String) (w : World Unit) : Prop :=
  ∃ settings, ((getConnectionSettings rcsBaseUrl).run answered w).1 = .ok settings ∧
    ((resolveFullUrl (clientBaseUrl rcsBaseUrl) path).run answered w).1 =
      .ok (resolvedBaseUrl settings ++ path)

/-- The port, when there is one, is a number; and Redis has both settings, or one is missing, or
`RCS_BASE_URL` is the configured address. -/
def SettingsSettled (rcsBaseUrl : String) (w : World Unit) : Prop :=
  (∀ port, truthy (setting "rcs_port" w) = some port → (int? port).isSome = true) ∧
  (((truthy (cachedSetting "rcs_ip" w)).isSome = true ∧
      (truthy (cachedSetting "rcs_port" w)).isSome = true) ∨
    ∀ ip port, truthy (setting "rcs_ip" w) = some ip → truthy (setting "rcs_port" w) = some port →
      clientBaseUrl rcsBaseUrl = httpAddress ip port)

theorem truthy_setting {text : String} (h : truthy (cachedSetting key w) = some text) :
    truthy (setting key w) = some text := by
  obtain ⟨hc, hne⟩ := truthy_eq_some.mp h
  rw [setting, hc]
  exact truthy_some hne

/-- A setting that is missing is missing from Redis. -/
theorem truthy_cachedSetting_of_none (h : truthy (setting key w) = none) :
    truthy (cachedSetting key w) = none := by
  cases hc : truthy (cachedSetting key w) with
  | none => rfl
  | some text => cases h.symm.trans (truthy_setting hc)

/-- An address with a numeric port has no trailing slash. -/
theorem rstrip_httpAddress {ip port : String} {n : Int} (h : int? port = some n) :
    rstrip '/' (httpAddress ip port) = httpAddress ip port := by
  refine rstrip_of_last fun hlast => ?_
  have hport : port.toList ≠ [] := by
    intro hnil
    obtain rfl : port = "" := String.toList_eq_nil_iff.mp hnil
    cases h
  have hsuffix : port.toList <:+ (httpAddress ip port).toList := by
    rw [httpAddress, String.toList_append]
    exact List.suffix_append _ _
  rw [← getLast?_of_suffix hsuffix hport] at hlast
  exact absurd (int?_last h hlast (by decide)) (by decide)

theorem connectionSettings_of_number {rcsBaseUrl port : String} {ip p : Option String} {n : Int}
    (hp : truthy p = some port) (hn : int? port = some n) :
    connectionSettings rcsBaseUrl ip p = .ok ⟨ip, some n,
      match truthy ip with
      | some ip => httpAddress ip port
      | none => rcsBaseUrl⟩ := by
  rw [connectionSettings, hp]
  cases hi : truthy ip <;> simp [hn, pure, Except.pure]

theorem connectionSettings_of_missing {rcsBaseUrl : String} {ip p : Option String}
    (hp : truthy p = none) : connectionSettings rcsBaseUrl ip p = .ok ⟨ip, none, rcsBaseUrl⟩ := by
  rw [connectionSettings, hp]
  cases truthy ip <;> rfl

theorem connectionSettings_of_no_number {rcsBaseUrl port : String} {ip p : Option String}
    (hp : truthy p = some port) (hn : int? port = none) (settings : ConnectionSettings) :
    connectionSettings rcsBaseUrl ip p ≠ .ok settings := by
  rw [connectionSettings, hp]
  cases truthy ip <;> simp [hn, throw, throwThe, MonadExceptOf.throw]

/-- With the port missing, both fall back to `RCS_BASE_URL`. -/
theorem previewAgrees_of_no_port {rcsBaseUrl path : String}
    (hp : truthy (setting "rcs_port" w) = none) : PreviewAgrees rcsBaseUrl path w := by
  refine ⟨_, (getConnectionSettings_run _ _).trans (connectionSettings_of_missing hp), ?_⟩
  rw [resolveFullUrl_run, fullUrl, truthy_cachedSetting_of_none hp]
  cases truthy (cachedSetting "rcs_ip" w) <;> rfl

/-- With a numeric port, the preview shows one address; the request goes there when Redis has
both settings, and to `RCS_BASE_URL` otherwise. -/
theorem previewAgrees_of_port {rcsBaseUrl path port : String} {n : Int}
    (hp : truthy (setting "rcs_port" w) = some port) (hn : int? port = some n) :
    PreviewAgrees rcsBaseUrl path w ↔
      ((truthy (cachedSetting "rcs_ip" w)).isSome = true ∧
        (truthy (cachedSetting "rcs_port" w)).isSome = true) ∨
      ∀ ip, truthy (setting "rcs_ip" w) = some ip →
        clientBaseUrl rcsBaseUrl = httpAddress ip port := by
  have hsettings := (getConnectionSettings_run rcsBaseUrl w).trans
    (connectionSettings_of_number hp hn)
  rw [PreviewAgrees, hsettings, resolveFullUrl_run, fullUrl]
  cases hip : truthy (setting "rcs_ip" w) with
  | none =>
      rw [truthy_cachedSetting_of_none hip]
      refine ⟨fun _ => .inr fun ip h => (by cases h), fun _ => ⟨_, rfl, rfl⟩⟩
  | some ip =>
      have hurl : ∀ url, (∃ settings, (Except.ok ⟨setting "rcs_ip" w, some n, httpAddress ip port⟩ :
          Except PyExc ConnectionSettings) = .ok settings ∧
            (Except.ok url : Except PyExc String) = .ok (resolvedBaseUrl settings ++ path)) ↔
          url = httpAddress ip port ++ path := by
        intro url
        have hstrip : resolvedBaseUrl ⟨setting "rcs_ip" w, some n, httpAddress ip port⟩ =
            httpAddress ip port := rstrip_httpAddress hn
        constructor
        · rintro ⟨settings, hs, h⟩
          cases hs
          rw [← hstrip]
          exact Except.ok.inj h
        · rintro rfl
          exact ⟨_, rfl, by rw [hstrip]⟩
      rw [hurl]
      cases hci : truthy (cachedSetting "rcs_ip" w) with
      | none => simp [String.append_left_inj]
      | some ip' =>
          cases hcp : truthy (cachedSetting "rcs_port" w) with
          | none => simp [String.append_left_inj]
          | some port' =>
              obtain rfl : ip' = ip := by
                simpa [hip] using (truthy_setting hci).symm
              obtain rfl : port' = port := by
                simpa [hp] using (truthy_setting hcp).symm
              simp

/-- **When they agree**: in every state of Redis and the database, for every path. -/
theorem preview_agrees_iff (rcsBaseUrl path : String) (w : World Unit) :
    PreviewAgrees rcsBaseUrl path w ↔ SettingsSettled rcsBaseUrl w := by
  cases hp : truthy (setting "rcs_port" w) with
  | none =>
      refine iff_of_true (previewAgrees_of_no_port hp)
        ⟨fun port h => ?_, .inr fun ip port _ h => ?_⟩
      · cases hp.symm.trans h
      · cases hp.symm.trans h
  | some port =>
      cases hn : int? port with
      | none =>
          refine iff_of_false ?_ ?_
          · rintro ⟨settings, hs, -⟩
            rw [getConnectionSettings_run] at hs
            exact connectionSettings_of_no_number hp hn settings hs
          · rintro ⟨hint, -⟩
            have hsome := hint port hp
            rw [hn] at hsome
            cases hsome
      | some n =>
          rw [previewAgrees_of_port hp hn, SettingsSettled, hp]
          constructor
          · intro h
            refine ⟨fun p hp' => ?_, h.imp_right fun h ip p hip hp' => ?_⟩
            · cases hp'
              rw [hn]
              rfl
            · cases hp'
              exact h ip hip
          · rintro ⟨-, h⟩
            exact h.imp_right fun h ip hip => h ip port hip rfl

/-! ### An evicted entry -/

/-- The world after both settings were set, and the cache flushed since. -/
def flushedWorld : World Unit :=
  let set : M Unit := do configSet "rcs_ip" "10.0.0.1"; configSet "rcs_port" "8080"
  ((set.run answered {}).2.dropRedis (sysconfigKey "rcs_ip")).dropRedis (sysconfigKey "rcs_port")

/-- **An evicted preview differs.**  Both settings are in the database and Redis is empty: the
preview shows the configured address, and a request goes to `RCS_BASE_URL`. -/
theorem evicted_preview_differs :
    ¬ PreviewAgrees "http://localhost:8080" "/rcs/rtas" flushedWorld := by
  have hip : truthy (setting "rcs_ip" flushedWorld) = some "10.0.0.1" := by decide
  have hport : truthy (setting "rcs_port" flushedWorld) = some "8080" := by decide
  have hnumber : int? "8080" = some 8080 := by decide
  rw [previewAgrees_of_port hport hnumber]
  rintro (⟨h, -⟩ | h)
  · exact absurd h (by decide)
  · exact absurd (h "10.0.0.1" hip) (by decide)

end Rcs
