import ForwardProxy.Text.Blank
import ForwardProxy.Text.Integer
import ForwardProxy.Text.Utf8
import ForwardProxy.Time.Instant

/-!
# Configuration

The settings of the proxy, and how they are read from the environment. Each variable decides one
setting. A variable that is not set, that is not text, or that does not hold a value of its setting
leaves the default.
-/

namespace ForwardProxy

/-- The settings of the proxy. -/
structure Config where
  /-- The interface to listen on. -/
  host : String := "127.0.0.1"
  /-- The port to listen on. -/
  port : UInt16 := 8080
  /-- The greatest number of responses that are kept. -/
  cacheCapacity : UInt64 := 1024
  /-- Seconds for which a response is kept whose server does not say how long, zero for ever. -/
  defaultTtl : UInt64 := 3600
  /-- Seconds after which a fetch is given up. -/
  timeout : UInt64 := 30
  /-- The domains that may be fetched from, all if there are none. -/
  allowedDomains : List String := []
  /-- The number of workers. -/
  maxConnections : UInt64 := 100
  /-- An allowed domain must make up whole labels of a host. -/
  strictDomainMatching : Bool := false
  /-- The requests that a client may make in a minute, zero for sixty for each worker. -/
  rateLimitPerMinute : UInt64 := 0
  /-- The greatest number of octets in the body of a request. -/
  maxBodySize : UInt64 := 10485760
  deriving DecidableEq

/-- The variables of a process: the octets of each that is set. -/
abbrev Environment := String → Option Bytes

/-- The text of a variable that is set to text. -/
def Environment.text? (env : Environment) (name : String) : Option (List Char) :=
  (env name).bind Utf8.decode?

/-- Reads `true` or `false`. -/
def readBool? (text : List Char) : Option Bool :=
  if text = "true".toList then some true
  else if text = "false".toList then some false
  else none

/-- Reads a number of sixteen bits. -/
def readUInt16? (text : List Char) : Option UInt16 :=
  (Text.unsigned? 65535 text).map Nat.toUInt16

/-- Reads a number of sixty-four bits. -/
def readUInt64? (text : List Char) : Option UInt64 :=
  (Text.unsigned? 18446744073709551615 text).map Nat.toUInt64

/-- The value of a variable, read without the blanks around it, or a default. -/
def Environment.valueOr {α : Type} (env : Environment) (name : String)
    (read? : List Char → Option α) (default : α) : α :=
  ((env.text? name).bind fun text => read? (Text.trim text)).getD default

/-- The domains in a list with commas between them, without the blanks around each. Empty places
count for nothing. -/
def parseDomainList (text : List Char) : List String :=
  (((text.splitOn ',').map Text.trim).filter (!·.isEmpty)).map String.ofList

namespace Config

/-- The settings that an environment gives. -/
def ofEnvironment (env : Environment) : Config :=
  let default : Config := {}
  { host := ((env.text? "SERVER_HOST").map String.ofList).getD default.host
    port := env.valueOr "SERVER_PORT" readUInt16? default.port
    cacheCapacity := env.valueOr "CACHE_CAPACITY" readUInt64? default.cacheCapacity
    defaultTtl := env.valueOr "DEFAULT_TTL" readUInt64? default.defaultTtl
    timeout := env.valueOr "PROXY_TIMEOUT" readUInt64? default.timeout
    allowedDomains :=
      ((env.text? "ALLOWED_DOMAINS").map parseDomainList).getD default.allowedDomains
    maxConnections := env.valueOr "MAX_CONNECTIONS" readUInt64? default.maxConnections
    strictDomainMatching :=
      env.valueOr "STRICT_DOMAIN_MATCHING" readBool? default.strictDomainMatching
    rateLimitPerMinute := env.valueOr "RATE_LIMIT_PER_MINUTE" readUInt64? default.rateLimitPerMinute
    maxBodySize := env.valueOr "MAX_BODY_SIZE" readUInt64? default.maxBodySize }

/-- Why settings are refused. -/
inductive Problem where
  /-- There is no port to listen on. -/
  | zeroPort
  /-- Every fetch would be given up at once. -/
  | zeroTimeout
  /-- There are no workers. -/
  | zeroConnections
  deriving DecidableEq

/-- The wording of a refusal. -/
def Problem.message : Problem → String
  | zeroPort => "invalid port number: 0"
  | zeroTimeout => "invalid proxy timeout: 0"
  | zeroConnections => "invalid max connections: 0"

/-- The first reason to refuse settings. -/
def problem? (config : Config) : Option Problem :=
  if config.port = 0 then some .zeroPort
  else if config.timeout = 0 then some .zeroTimeout
  else if config.maxConnections = 0 then some .zeroConnections
  else none

/-- The greatest number of sixty-four bits. -/
def maxCount : Nat := 18446744073709551615

/-- The requests that a client may make in a minute. -/
def requestsPerMinute (config : Config) : Nat :=
  if config.rateLimitPerMinute = 0 then min (config.maxConnections.toNat * 60) maxCount
  else config.rateLimitPerMinute.toNat

/-- The time to live of a response whose server does not give it one, `none` if it does not end or
no span is that long. -/
def defaultLifetime? (config : Config) : Option Time.Span :=
  if config.defaultTtl = 0 then none else Time.Span.ofSeconds? config.defaultTtl.toNat

end Config

end ForwardProxy
