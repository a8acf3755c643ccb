import ForwardProxy.Startup

/-!
# The command

Checks the configuration that the environment gives.
-/

namespace ForwardProxy.Startup

/-- The variables that configure the proxy. -/
def settingNames : List String :=
  ["SERVER_HOST", "SERVER_PORT", "CACHE_CAPACITY", "DEFAULT_TTL", "PROXY_TIMEOUT",
    "ALLOWED_DOMAINS", "MAX_CONNECTIONS", "STRICT_DOMAIN_MATCHING", "RATE_LIMIT_PER_MINUTE",
    "MAX_BODY_SIZE"]

/-- The variables of this process that configure the proxy. -/
def environment : IO Environment := do
  let settings ← settingNames.filterMapM fun name => do
    return (← IO.getEnv name).map fun value => (name, value.toUTF8.toList)
  return fun name => settings.lookup name

end ForwardProxy.Startup

/-- Ends with a message if the configuration is refused. -/
def main : IO UInt32 := do
  match ForwardProxy.Startup.refusal? (← ForwardProxy.Startup.environment) with
  | some message =>
    (← IO.getStderr).putStr message
    return ForwardProxy.Startup.failureCode
  | none => return 0
