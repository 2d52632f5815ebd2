import RcsMiddleware.Source.World

/-!
# Source — SystemConfig

`repositories/system_config_repository.py`, the request that updates the connection settings
(`api/v1/routers/system.py`), the preview of `RcsSubmitService`, and the address the client of RCS
makes of the settings (`RCS2000Client._resolve_full_url`).  `RCS_BASE_URL` is a parameter.
-/

namespace Rcs

open Support Support.Text

/-- The Redis key of a setting. -/
def sysconfigKey (key : String) : String := "sysconfig:" ++ key

/-- The text an entry of the cache holds. -/
def cachedText (cached : Option RedisValue) : Option String := cached.bind RedisValue.asText

/-- The part of `SystemConfigRepository.get` after the cache has missed. -/
def configFetch (key : String) : M (Option String) := do
  match ← perform (.selectConfig key) with
  | some (some value) => do
      perform (.redisSet (sysconfigKey key) (.text value))
      return some value
  | _ => return none

/-- The part of `SystemConfigRepository.get` after it has read the cache. -/
def configFrom (key : String) : Option String → M (Option String)
  | some cached => return some cached
  | none => configFetch key

/-- `SystemConfigRepository.get`. -/
def configGet (key : String) : M (Option String) := do
  let cached ← perform (.redisGet (sysconfigKey key))
  configFrom key (cachedText cached)

/-- What `set` leaves the session to flush. -/
def configWrite (key value : String) : Option (Option String) → Write
  | some old => .updateConfig key old value
  | none => .insertConfig key value

/-- `SystemConfigRepository.set`. -/
def configSet (key value : String) : M Unit := do
  let row ← perform (.selectConfig key)
  perform (.commit [configWrite key value row])
  perform (.redisSet (sysconfigKey key) (.text value))

/-- `http://{ip}:{port}`. -/
def httpAddress (ip port : String) : String := "http://" ++ ip ++ ":" ++ port

/-- The dictionary `get_connection_settings` makes of the two settings. -/
def connectionSettings (rcsBaseUrl : String) (ip port : Option String) :
    Except PyExc ConnectionSettings := do
  let url := match truthy ip, truthy port with
    | some ip, some port => httpAddress ip port
    | _, _ => rcsBaseUrl
  match truthy port with
  | none => return { rcsIp := ip, rcsPort := none, rcsBaseUrl := url }
  | some text =>
      match int? text with
      | some n => return { rcsIp := ip, rcsPort := some n, rcsBaseUrl := url }
      | none => throw (.valueError ("invalid literal for int() with base 10: " ++ Json.reprStr text))

/-- `SystemConfigRepository.get_connection_settings`. -/
def getConnectionSettings (rcsBaseUrl : String) : M ConnectionSettings := do
  let ip ← configGet "rcs_ip"
  let port ← configGet "rcs_port"
  Prog.ofExcept (connectionSettings rcsBaseUrl ip port)

/-- `update_system_config`. -/
def updateSystemConfig (rcsBaseUrl : String) (payload : ConnectionSettingsUpdate) :
    M ConnectionSettings :=
  withSession do
    configSet "rcs_ip" payload.rcsIp
    configSet "rcs_port" (toString payload.rcsPort)
    getConnectionSettings rcsBaseUrl

/-- The URL `_resolve_full_url` makes of the two entries. -/
def fullUrl (baseUrl path : String) (rcsIp rcsPort : Option String) : String :=
  match truthy rcsIp, truthy rcsPort with
  | some ip, some port => httpAddress ip port ++ path
  | _, _ => baseUrl ++ path

/-- The part of `_resolve_full_url` after it has read the address. -/
def resolveWithIp (baseUrl path : String) (rcsIp : Option RedisValue) : M String := do
  let rcsPort ← perform (.redisGet (sysconfigKey "rcs_port"))
  return fullUrl baseUrl path (cachedText rcsIp) (cachedText rcsPort)

/-- `_resolve_full_url`, of a client whose `_base_url` is `baseUrl`. -/
def resolveFullUrl (baseUrl path : String) : M String := do
  let rcsIp ← perform (.redisGet (sysconfigKey "rcs_ip"))
  resolveWithIp baseUrl path rcsIp

/-- The `_base_url` of the application's client. -/
def clientBaseUrl (rcsBaseUrl : String) : String := rstrip '/' rcsBaseUrl

/-- The base URL `RcsSubmitService.preview` shows. -/
def resolvedBaseUrl (settings : ConnectionSettings) : String := rstrip '/' settings.rcsBaseUrl

end Rcs
