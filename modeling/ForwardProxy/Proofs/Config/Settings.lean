import ForwardProxy.Proofs.Config.DomainList
import ForwardProxy.Proofs.Text.Numerals
import ForwardProxy.Proofs.Text.Utf8
import Mathlib.Logic.Function.Basic

/-!
# Settings and their variables

A configuration has ten settings, and each is decided by a variable of its own and by nothing else.
`Setting.Reads` says of which values a text is the written form; a variable that is not the written
form of a value leaves the default. So a configuration that is written into the variables is read
back, whatever blanks stand around the written values.
-/

namespace ForwardProxy

open Text

/-- The settings of a configuration. -/
inductive Setting where
  | host
  | port
  | cacheCapacity
  | defaultTtl
  | timeout
  | allowedDomains
  | maxConnections
  | strictDomainMatching
  | rateLimitPerMinute
  | maxBodySize
  deriving DecidableEq

/-- What a setting may be set to. -/
inductive SettingValue where
  /-- A text. -/
  | text (text : String)
  /-- A number. -/
  | number (n : Nat)
  /-- One of two ways. -/
  | switch (on : Bool)
  /-- Domains. -/
  | domains (domains : List String)

/-- How a value is written. -/
def SettingValue.written : SettingValue → List Char
  | .text value => value.toList
  | .number n => Nat.toDigits 10 n
  | .switch on => if on then "true".toList else "false".toList
  | .domains list => joined list

/-- A text is the written form of a value. Blanks may stand around it, but for a value that is itself
a text. -/
def SettingValue.IsWritten (text : List Char) : SettingValue → Prop
  | .text value => text = value.toList
  | value => IsPadded text value.written

namespace Setting

/-- The variable that decides a setting. -/
def variableName : Setting → String
  | host => "SERVER_HOST"
  | port => "SERVER_PORT"
  | cacheCapacity => "CACHE_CAPACITY"
  | defaultTtl => "DEFAULT_TTL"
  | timeout => "PROXY_TIMEOUT"
  | allowedDomains => "ALLOWED_DOMAINS"
  | maxConnections => "MAX_CONNECTIONS"
  | strictDomainMatching => "STRICT_DOMAIN_MATCHING"
  | rateLimitPerMinute => "RATE_LIMIT_PER_MINUTE"
  | maxBodySize => "MAX_BODY_SIZE"

/-- The greatest number that a setting may be set to, if it is a number. -/
def limit? : Setting → Option Nat
  | port => some 65535
  | cacheCapacity | defaultTtl | timeout | maxConnections | rateLimitPerMinute | maxBodySize =>
    some 18446744073709551615
  | host | allowedDomains | strictDomainMatching => none

/-- What a setting is in a configuration. -/
def valueIn (config : Config) : Setting → SettingValue
  | host => .text config.host
  | port => .number config.port.toNat
  | cacheCapacity => .number config.cacheCapacity.toNat
  | defaultTtl => .number config.defaultTtl.toNat
  | timeout => .number config.timeout.toNat
  | allowedDomains => .domains config.allowedDomains
  | maxConnections => .number config.maxConnections.toNat
  | strictDomainMatching => .switch config.strictDomainMatching
  | rateLimitPerMinute => .number config.rateLimitPerMinute.toNat
  | maxBodySize => .number config.maxBodySize.toNat

/-- A text stands for a value of a setting. -/
inductive Reads : Setting → List Char → SettingValue → Prop
  /-- The host is any text. -/
  | host (text : List Char) : Reads host text (.text (String.ofList text))
  /-- A number may have zeros and a plus sign in front, and blanks around it, but it is not beyond
  the limit. -/
  | number {setting : Setting} {limit n : Nat} {text middle : List Char}
    (hlimit : setting.limit? = some limit) (hpadded : IsPadded text middle)
    (hnumber : IsUnsigned middle n) (hle : n ≤ limit) : Reads setting text (.number n)
  /-- There are two words for the two ways, in small letters. -/
  | switch {on : Bool} {text : List Char}
    (hpadded : IsPadded text (SettingValue.written (.switch on))) :
    Reads strictDomainMatching text (.switch on)
  /-- Any text is a list of domains. -/
  | domains (text : List Char) : Reads allowedDomains text (.domains (parseDomainList text))

/-- The value of a setting that a text stands for. -/
def read? (text : List Char) : Setting → Option SettingValue
  | host => some (.text (String.ofList text))
  | allowedDomains => some (.domains (parseDomainList text))
  | strictDomainMatching => (readBool? (trim text)).map .switch
  | setting => setting.limit?.bind fun limit => (unsigned? limit (trim text)).map .number

end Setting

/-- Configurations with the same settings are the same. -/
theorem Config.eq_of_valueIn_eq {config other : Config}
    (h : ∀ setting, Setting.valueIn config setting = Setting.valueIn other setting) :
    config = other := by
  have hhost := h .host
  have hport := h .port
  have hcacheCapacity := h .cacheCapacity
  have hdefaultTtl := h .defaultTtl
  have htimeout := h .timeout
  have hallowedDomains := h .allowedDomains
  have hmaxConnections := h .maxConnections
  have hstrict := h .strictDomainMatching
  have hrate := h .rateLimitPerMinute
  have hbody := h .maxBodySize
  cases config
  cases other
  simp_all [Setting.valueIn, UInt64.toNat_inj, UInt16.toNat_inj]

namespace Setting

/-- No two settings have the same variable. -/
theorem variableName_injective : Function.Injective variableName := by
  intro setting other h
  cases setting <;> cases other <;> first | rfl | exact absurd h (by decide)

/-- A number that is kept in so many bits as its limit needs is read as it is. -/
theorem map_number {α : Type} {ofNat : Nat → α} {toNat : α → Nat} {limit : Nat}
    (hsame : ∀ n ≤ limit, toNat (ofNat n) = n) (text : List Char) :
    ((unsigned? limit text).map ofNat).map (fun n => SettingValue.number (toNat n)) =
      (unsigned? limit text).map .number := by
  cases hread : unsigned? limit text with
  | none => rfl
  | some n =>
    have hle := (unsigned?_eq_some_iff.mp hread).2
    simp [hsame n hle]

/-- What a variable gives is the value that it is read as, or else the default. -/
theorem map_valueOr {α : Type} (f : α → SettingValue) (env : Environment) (name : String)
    (read? : List Char → Option α) (default : α) :
    f (env.valueOr name read? default) =
      ((env.text? name).bind fun text => (read? (trim text)).map f).getD (f default) := by
  rw [Environment.valueOr]
  cases env.text? name with
  | none => rfl
  | some text => exact (Option.getD_map f default (read? (trim text))).symm

/-- Each setting is what the text of its variable stands for, or else the default. -/
theorem valueIn_ofEnvironment (env : Environment) (setting : Setting) :
    setting.valueIn (Config.ofEnvironment env) =
      ((env.text? setting.variableName).bind fun text => setting.read? text).getD
        (setting.valueIn {}) := by
  have hsmall : ∀ n ≤ 65535, n.toUInt16.toNat = n := fun n hle =>
    UInt16.toNat_ofNat_of_lt' (by simp [UInt16.size]; omega)
  have hlarge : ∀ n ≤ 18446744073709551615, n.toUInt64.toNat = n := fun n hle =>
    UInt64.toNat_ofNat_of_lt' (by simp [UInt64.size]; omega)
  have hport := map_number hsmall
  have hcount := map_number hlarge
  cases setting with
  | host =>
    simp only [valueIn, Config.ofEnvironment, variableName]
    cases env.text? "SERVER_HOST" <;> rfl
  | allowedDomains =>
    simp only [valueIn, Config.ofEnvironment, variableName]
    cases env.text? "ALLOWED_DOMAINS" <;> rfl
  | strictDomainMatching => exact map_valueOr _ env _ _ _
  | port =>
    refine (map_valueOr (fun n : UInt16 => .number n.toNat) env _ _ _).trans ?_
    simp only [readUInt16?, hport]
    rfl
  | _ =>
    refine (map_valueOr (fun n : UInt64 => .number n.toNat) env _ _ _).trans ?_
    simp only [readUInt64?, hcount]
    rfl

variable {setting : Setting} {text : List Char} {value : SettingValue}

/-- A switch is read from its word with blanks around it. -/
theorem readBool?_trim_eq_some_iff {on : Bool} :
    readBool? (trim text) = some on ↔ IsPadded text (SettingValue.written (.switch on)) := by
  have htrimmed : ∀ on, IsTrimmed (SettingValue.written (.switch on)) := fun on =>
    isTrimmed_of_trim_eq (by cases on <;> decide)
  constructor
  · intro h
    have hword : trim text = SettingValue.written (.switch on) := by
      unfold readBool? at h
      split at h
      · next heq => cases h; exact heq
      · split at h
        · next heq => cases h; exact heq
        · cases h
    exact hword ▸ isPadded_trim text
  · intro h
    rw [trim_eq_of_isPadded h (htrimmed on)]
    cases on <;> decide

/-- A setting that is a number is read as one. -/
theorem read?_of_limit {limit : Nat} (h : setting.limit? = some limit) (text : List Char) :
    setting.read? text = (unsigned? limit (trim text)).map .number := by
  cases setting <;> cases h <;> rfl

/-- Exactly the values are read that a text stands for. -/
theorem read?_eq_some_iff : setting.read? text = some value ↔ setting.Reads text value := by
  cases hlimit : setting.limit? with
  | some limit =>
    rw [read?_of_limit hlimit]
    simp only [Option.map_eq_some_iff, unsigned?_trim_eq_some_iff]
    constructor
    · rintro ⟨n, ⟨⟨middle, hpadded, hnumber⟩, hle⟩, rfl⟩
      exact .number hlimit hpadded hnumber hle
    · intro h
      cases h with
      | number hother hpadded hnumber hle =>
        obtain rfl : _ = limit := Option.some.inj (hother.symm.trans hlimit)
        exact ⟨_, ⟨⟨_, hpadded, hnumber⟩, hle⟩, rfl⟩
      | _ => cases hlimit
  | none =>
    -- Three settings are no numbers, and each is read in its own way.
    cases setting with
    | host =>
      refine ⟨fun h => Option.some.inj h ▸ .host text, fun h => ?_⟩
      cases h with
      | host => rfl
      | number hother => cases hother
    | allowedDomains =>
      refine ⟨fun h => Option.some.inj h ▸ .domains text, fun h => ?_⟩
      cases h with
      | domains => rfl
      | number hother => cases hother
    | strictDomainMatching =>
      simp only [read?, Option.map_eq_some_iff, readBool?_trim_eq_some_iff]
      constructor
      · rintro ⟨on, hpadded, rfl⟩
        exact .switch hpadded
      · intro h
        cases h with
        | switch hpadded => exact ⟨_, hpadded, rfl⟩
        | number hother => cases hother
    | _ => cases hlimit

/-- A variable is written if it is set to the written form of a text. -/
theorem text?_eq_some_iff {env : Environment} {name : String} :
    env.text? name = some text ↔ env name = some (Utf8.encode text) := by
  rw [Environment.text?, Option.bind_eq_some_iff]
  constructor
  · rintro ⟨octets, hset, hdecode⟩
    rw [hset, Utf8.decode?_eq_some_iff.mp hdecode]
  · intro hset
    exact ⟨_, hset, Utf8.decode?_eq_some_iff.mpr rfl⟩

/-- A variable that stands for a value of its setting decides it. -/
theorem valueIn_of_reads {env : Environment}
    (hset : env setting.variableName = some (Utf8.encode text)) (hreads : setting.Reads text value) :
    setting.valueIn (Config.ofEnvironment env) = value := by
  rw [valueIn_ofEnvironment, text?_eq_some_iff.mpr hset, Option.bind_some,
    read?_eq_some_iff.mpr hreads, Option.getD_some]

/-- A variable that stands for no value of its setting leaves the default. -/
theorem valueIn_of_not_reads {env : Environment}
    (hnone : ∀ text value, env setting.variableName = some (Utf8.encode text) →
      ¬setting.Reads text value) :
    setting.valueIn (Config.ofEnvironment env) = setting.valueIn {} := by
  have hunread : ((env.text? setting.variableName).bind fun text => setting.read? text) = none := by
    rw [Option.eq_none_iff_forall_ne_some]
    intro value hvalue
    obtain ⟨text, htext, hread⟩ := Option.bind_eq_some_iff.mp hvalue
    exact hnone text value (text?_eq_some_iff.mp htext) (read?_eq_some_iff.mp hread)
  rw [valueIn_ofEnvironment, hunread, Option.getD_none]

/-- A setting that is a number is never beyond its limit. -/
theorem exists_valueIn_eq_number {limit : Nat} (h : setting.limit? = some limit)
    (config : Config) : ∃ n ≤ limit, setting.valueIn config = .number n := by
  have hsmall (n : UInt16) : n.toNat ≤ 65535 := Nat.le_of_lt_succ n.toNat_lt
  have hlarge (n : UInt64) : n.toNat ≤ 18446744073709551615 := Nat.le_of_lt_succ n.toNat_lt
  cases setting <;> cases h
  case port => exact ⟨_, hsmall _, rfl⟩
  all_goals exact ⟨_, hlarge _, rfl⟩

/-- The written form of a setting of a configuration stands for it, if the domains are entries. -/
theorem reads_of_isWritten {config : Config}
    (hdomains : ∀ domain ∈ config.allowedDomains, IsEntry domain.toList)
    (hwritten : (setting.valueIn config).IsWritten text) :
    setting.Reads text (setting.valueIn config) := by
  cases hlimit : setting.limit? with
  | some limit =>
    obtain ⟨n, hle, hvalue⟩ := exists_valueIn_eq_number hlimit config
    rw [hvalue] at hwritten ⊢
    have hnumeral : IsNumeral (Nat.toDigits 10 n) n := by simpa [padded] using isNumeral_padded 0 n
    exact .number hlimit hwritten (.inl hnumeral) hle
  | none =>
    cases setting with
    | host =>
      obtain rfl : text = config.host.toList := hwritten
      have hread := Reads.host config.host.toList
      rwa [String.ofList_toList] at hread
    | allowedDomains =>
      have hread := Reads.domains text
      rwa [parseDomainList_of_isPadded hdomains hwritten] at hread
    | strictDomainMatching => exact .switch hwritten
    | _ => cases hlimit

end Setting

/-- All settings of a configuration are written into the variables of an environment. -/
def Environment.Writes (env : Environment) (config : Config) : Prop :=
  ∀ setting : Setting, ∃ text, env setting.variableName = some (Utf8.encode text) ∧
    (setting.valueIn config).IsWritten text

namespace Config

/-- A configuration is read back from an environment into which it is written. -/
theorem ofEnvironment_of_writes {config : Config} {env : Environment}
    (hdomains : ∀ domain ∈ config.allowedDomains, IsEntry domain.toList)
    (hwrites : env.Writes config) : ofEnvironment env = config := by
  apply eq_of_valueIn_eq
  intro setting
  obtain ⟨text, hset, hwritten⟩ := hwrites setting
  exact Setting.valueIn_of_reads hset (Setting.reads_of_isWritten hdomains hwritten)

/-- A setting is not changed when another variable than its own is. -/
theorem valueIn_update {env : Environment} {setting : Setting} {name : String}
    (hname : setting.variableName ≠ name) (octets : Option Bytes) :
    setting.valueIn (ofEnvironment (Function.update env name octets)) =
      setting.valueIn (ofEnvironment env) := by
  have hsame : Environment.text? (Function.update env name octets) setting.variableName =
      env.text? setting.variableName := by
    rw [Environment.text?, Environment.text?, Function.update_of_ne hname]
  rw [Setting.valueIn_ofEnvironment, Setting.valueIn_ofEnvironment, hsame]

/-- Every configuration whose domains are entries of a list is read back from any environment into
which its settings are written, with any blanks around what is written for all but the host. No two
settings have the same variable, a change of one variable does not change what another one decides,
and each variable gives its setting the value that its text stands for, or leaves the default if it
is not set to such a text. Whatever text is read as a list of domains, only entries are read from it,
and the same ones again from these with commas between them. -/
theorem settings_read_back :
    (∀ (config : Config) (env : Environment),
      (∀ domain ∈ config.allowedDomains, IsEntry domain.toList) → env.Writes config →
        ofEnvironment env = config) ∧
    Function.Injective Setting.variableName ∧
    (∀ (env : Environment) (setting : Setting),
      (∀ name, setting.variableName ≠ name → ∀ octets : Option Bytes,
        setting.valueIn (ofEnvironment (Function.update env name octets)) =
          setting.valueIn (ofEnvironment env)) ∧
      (∀ text value, env setting.variableName = some (Utf8.encode text) →
        setting.Reads text value → setting.valueIn (ofEnvironment env) = value) ∧
      ((∀ text value, env setting.variableName = some (Utf8.encode text) →
        ¬setting.Reads text value) →
          setting.valueIn (ofEnvironment env) = setting.valueIn {})) ∧
    ∀ text, (∀ domain ∈ parseDomainList text, IsEntry domain.toList) ∧
      parseDomainList (joined (parseDomainList text)) = parseDomainList text :=
  ⟨fun _ _ => ofEnvironment_of_writes, Setting.variableName_injective,
    fun _ _ => ⟨fun _ => valueIn_update, fun _ _ => Setting.valueIn_of_reads,
      Setting.valueIn_of_not_reads⟩,
    fun text => ⟨fun _ => isEntry_of_mem_parseDomainList, parseDomainList_joined text⟩⟩

/-- A configuration at the ends of its ranges, with blanks within a host and within a domain. -/
def wideConfig : Config where
  host := " localhost"
  port := 65535
  cacheCapacity := 18446744073709551615
  allowedDomains := ["a.test", "b c.test"]
  strictDomainMatching := true

/-- The texts that write the configuration at the ends of its ranges, with blanks around some. -/
def wideText : Setting → String
  | .host => " localhost"
  | .port => " 65535"
  | .cacheCapacity => "18446744073709551615\n"
  | .defaultTtl => "3600"
  | .timeout => "\t30\t"
  | .allowedDomains => "\u3000a.test,b c.test "
  | .maxConnections => "100"
  | .strictDomainMatching => "true "
  | .rateLimitPerMinute => "0"
  | .maxBodySize => "10485760"

/-- An environment in which each setting has a text. -/
def environmentOf (text : Setting → String) : Environment := fun name =>
  [Setting.host, .port, .cacheCapacity, .defaultTtl, .timeout, .allowedDomains, .maxConnections,
    .strictDomainMatching, .rateLimitPerMinute, .maxBodySize].findSome? fun setting =>
      if setting.variableName = name then some (Utf8.encode (text setting).toList) else none

/-- Each variable is set to the text of its setting. -/
theorem environmentOf_variableName (text : Setting → String) (setting : Setting) :
    environmentOf text setting.variableName = some (Utf8.encode (text setting).toList) := by
  cases setting <;> rfl

/-- The configuration at the ends of its ranges is read back, and a port beyond the range leaves the
default port and the same domains. -/
theorem settings_read_back_wideConfig :
    let env := environmentOf wideText
    let beyond := Function.update env "SERVER_PORT" (some (Utf8.encode "65536".toList))
    (∀ domain ∈ wideConfig.allowedDomains, IsEntry domain.toList) ∧ env.Writes wideConfig ∧
      ofEnvironment env = wideConfig ∧ (ofEnvironment beyond).port = 8080 ∧
      (ofEnvironment beyond).allowedDomains = ["a.test", "b c.test"] := by
  intro env beyond
  have hdomains : ∀ domain ∈ wideConfig.allowedDomains, IsEntry domain.toList := by
    intro domain hmem
    have htwo : domain = "a.test" ∨ domain = "b c.test" := by simpa [wideConfig] using hmem
    rcases htwo with rfl | rfl <;> exact ⟨by decide, isTrimmed_of_trim_eq (by decide), by decide⟩
  have hwrites : env.Writes wideConfig := by
    intro setting
    refine ⟨_, environmentOf_variableName wideText setting, ?_⟩
    cases setting with
    | host => rfl
    | _ => exact isPadded_of_trim_eq (by decide)
  obtain ⟨hback, -, hsettings, -⟩ := settings_read_back
  have hread : ofEnvironment env = wideConfig := hback wideConfig env hdomains hwrites
  have hset : beyond "SERVER_PORT" = some (Utf8.encode "65536".toList) := rfl
  have hport : Setting.port.valueIn (ofEnvironment beyond) = .number 8080 := by
    have hunread : Setting.read? "65536".toList .port = none := by rfl
    refine (hsettings beyond .port).2.2 fun text value htext hreads => ?_
    obtain rfl : "65536".toList = text :=
      Utf8.encode_injective (Option.some.inj (hset.symm.trans htext))
    rw [Setting.read?_eq_some_iff.mpr hreads] at hunread
    cases hunread
  have hothers : Setting.allowedDomains.valueIn (ofEnvironment beyond) =
      .domains wideConfig.allowedDomains :=
    hread ▸ (hsettings env .allowedDomains).1 "SERVER_PORT" (by decide) _
  refine ⟨hdomains, hwrites, hread, ?_, SettingValue.domains.inj hothers⟩
  exact UInt16.toNat_inj.mp (SettingValue.number.inj hport)

end Config

end ForwardProxy
