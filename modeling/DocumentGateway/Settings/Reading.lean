import DocumentGateway.Settings.Basic
import DocumentGateway.Settings.Outline

/-!
# Reading settings

Each section and each entry may be missing, apart from a user's name and password and a permission's
role. Entries that no setting has are ignored, and every value has to be of the kind of its setting.
-/

namespace DocumentGateway.Settings

open Outline (text? flag? natural? list? word? entries?)

/-- Read a policy for version tokens. -/
def etagPolicy? (conv : Convention) (outline : Outline) : Option EtagPolicy :=
  match word? conv outline with
  | some "required" => some .required
  | some "required_for_delete" => some .requiredForDelete
  | some "optional" => some .optional
  | _ => none

/-- Read a user. -/
def user? (conv : Convention) (outline : Outline) : Option Access.User := do
  let entries ← entries? conv ["userid", "password", "roles"] outline
  let userid ← requiredEntry entries "userid" text?
  let password ← requiredEntry entries "password" text?
  let roles ← entry entries "roles" (list? text?) []
  return ⟨userid, password, roles⟩

/-- Read a permission. -/
def permission? (conv : Convention) (outline : Outline) : Option Access.Permission := do
  let entries ← entries? conv ["role", "path_prefix", "methods"] outline
  let role ← requiredEntry entries "role" text?
  let pathPrefix ← entry entries "path_prefix" text? "/"
  let methods ← entry entries "methods" (list? text?) []
  return ⟨role, pathPrefix, methods⟩

/-- Read the listener's section. -/
def listener? (conv : Convention) (outline : Outline) : Option Listener := do
  let entries ← entries? conv ["bind_address"] outline
  let bindAddress ← entry entries "bind_address" text? (default : Listener).bindAddress
  return ⟨bindAddress⟩

/-- Read the section of timeouts. -/
def timeouts? (conv : Convention) (outline : Outline) : Option Timeouts := do
  let entries ← entries? conv ["request_secs"] outline
  let requestSecs ← entry entries "request_secs" natural? (default : Timeouts).requestSecs
  return ⟨requestSecs⟩

/-- Read the section on security. -/
def security? (conv : Convention) (outline : Outline) : Option Security := do
  let entries ← entries? conv ["realm", "users", "permissions", "max_body_size"] outline
  let realm ← entry entries "realm" text? (default : Security).rules.realm
  let users ← entry entries "users" (list? (user? conv)) []
  let permissions ← entry entries "permissions" (list? (permission? conv)) []
  let maxBodySize ← entry entries "max_body_size" natural? (default : Security).maxBodySize
  return ⟨⟨realm, users, permissions⟩, maxBodySize⟩

/-- Read the cache's section. -/
def caching? (conv : Convention) (outline : Outline) : Option Caching := do
  let entries ← entries? conv ["enabled", "ttl_secs"] outline
  let enabled ← entry entries "enabled" flag? (default : Caching).enabled
  let ttlSecs ← entry entries "ttl_secs" natural? (default : Caching).ttlSecs
  return ⟨enabled, ttlSecs⟩

/-- Read the section on version tokens. -/
def etagCheck? (conv : Convention) (outline : Outline) : Option EtagCheck := do
  let entries ← entries? conv ["db"] outline
  let db ← entry entries "db" (etagPolicy? conv) (default : EtagCheck).db
  return ⟨db⟩

/-- Read the section on observability. -/
def observability? (conv : Convention) (outline : Outline) : Option Observability := do
  let entries ← entries? conv ["log_level", "metrics_enabled", "metrics_address"] outline
  let logLevel ← entry entries "log_level" text? (default : Observability).logLevel
  let metricsEnabled ←
    entry entries "metrics_enabled" flag? (default : Observability).metricsEnabled
  let metricsAddress ←
    entry entries "metrics_address" text? (default : Observability).metricsAddress
  return ⟨logLevel, metricsEnabled, metricsAddress⟩

/-- Read all settings. -/
def ofOutline? (conv : Convention) (outline : Outline) : Option Settings := do
  let entries ← entries? conv
    ["listener", "timeouts", "security", "cache", "etag_check", "observability"] outline
  let listener ← entry entries "listener" (listener? conv) default
  let timeouts ← entry entries "timeouts" (timeouts? conv) default
  let security ← entry entries "security" (security? conv) default
  let cache ← entry entries "cache" (caching? conv) default
  let etagCheck ← entry entries "etag_check" (etagCheck? conv) default
  let observability ← entry entries "observability" (observability? conv) default
  return ⟨listener, timeouts, security, cache, etagCheck, observability⟩

end DocumentGateway.Settings
