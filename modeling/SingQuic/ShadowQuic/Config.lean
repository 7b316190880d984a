import SingQuic.Lib.Transition
import SingQuic.ShadowQuic.Credentials

/-! Replacing the configuration of a bound server. What a connection is served with stands
in three places, the endpoint's server configuration and the values behind two locks, and
the build of a new server configuration can fail at several points. `updateSunnyConfig`
builds before it writes anything; `updateConfig` has replaced the congestion setting by
then. Key generation and the TLS library are parameters. -/
namespace SingQuic.ShadowQuic
open Wire Net

inductive CongestionConfig where
  | bbr
  | brutal (bytesPerSecond : UInt64) (disableLossCompensation : Bool)
  deriving DecidableEq, Repr

structure ServerOptions where
  listen : SocketAddr
  users : List User
  serverName : Option String
  jlsUpstreamAddr : Option String
  jlsRateLimit : UInt64
  congestion : CongestionConfig
  zeroRtt : Bool

structure SunnyServerOptions where
  listen : SocketAddr
  users : List User
  certificateChain : List Bytes
  privateKey : Bytes
  congestion : CongestionConfig
  zeroRtt : Bool

inductive PrivateKeyDer where
  | pkcs1 (key : Bytes)
  | sec1 (key : Bytes)
  | pkcs8 (key : Bytes)
  deriving DecidableEq, Repr

/-- A generated certificate and its key. -/
structure CertifiedKey where
  cert : Bytes
  signingKey : Bytes
  deriving DecidableEq, Repr

/-- What the JLS builder is told; `none` where the default is kept. Users are entered
by password and name. -/
structure JlsServerConfig where
  enabled : Bool
  rateLimit : UInt64
  upstreamAddr : Option String
  serverName : Option String
  users : List (String × String)
  deriving DecidableEq, Repr

structure TlsServerConfig where
  certificates : List Bytes
  privateKey : PrivateKeyDer
  alpnProtocols : List Bytes
  maxEarlyDataSize : UInt32
  jlsConfig : Option JlsServerConfig
  deriving DecidableEq, Repr

structure TransportConfig where
  streamReceiveWindow : Nat
  receiveWindow : Nat
  sendWindow : Nat
  datagramReceiveBufferSize : Option Nat
  datagramSendBufferSize : Nat
  maxIdleTimeoutSeconds : Nat
  keepAliveIntervalSeconds : Nat
  maxConcurrentBidiStreams : Nat
  maxConcurrentUniStreams : Nat
  minMtu : Nat
  initialMtu : Nat
  deriving DecidableEq, Repr

def shadowquicTransportConfig : TransportConfig where
  streamReceiveWindow := 8 * 1024 * 1024
  receiveWindow := 20 * 1024 * 1024
  sendWindow := 20 * 1024 * 1024
  datagramReceiveBufferSize := some 2500000
  datagramSendBufferSize := 2500000
  maxIdleTimeoutSeconds := 30
  keepAliveIntervalSeconds := 10
  maxConcurrentBidiStreams := 1000
  maxConcurrentUniStreams := 1000
  minMtu := 1290
  initialMtu := 1300

structure ServerConfig where
  crypto : TlsServerConfig
  transport : TransportConfig
  deriving DecidableEq, Repr

/-- What the TLS library answers: whether a chain and a key make a configuration, whether
a key is of a supported type, and whether the provider has the initial cipher suite. -/
structure Crypto where
  withSingleCert : List Bytes → PrivateKeyDer → Except String Unit
  anySupportedType : PrivateKeyDer → Except String Unit
  initialSuite : Bool

namespace Crypto
variable (crypto : Crypto)

/-- `RustlsServerConfig::builder()..with_single_cert(..)`. -/
def tlsConfig (certificates : List Bytes) (privateKey : PrivateKeyDer) : Result TlsServerConfig :=
  match crypto.withSingleCert certificates privateKey with
  | .error error => .error (.tls error)
  | .ok () => .ok ⟨certificates, privateKey, [], 0, none⟩

/-- `QuicServerConfig::try_from`. -/
def quicServerConfig (tls : TlsServerConfig) : Result TlsServerConfig :=
  if crypto.initialSuite then .ok tls else .error (.quicTls "no initial cipher suite found")

/-- The loop over the candidates, of which there is at least one: the last error is reported. -/
def firstSupported : PrivateKeyDer → List PrivateKeyDer → Result PrivateKeyDer
  | candidate, [] =>
    match crypto.anySupportedType candidate with
    | .ok () => .ok candidate
    | .error error => .error (.tls error)
  | candidate, next :: rest =>
    match crypto.anySupportedType candidate with
    | .ok () => .ok candidate
    | .error _ => firstSupported next rest

def detectPrivateKey (key : Bytes) : Result PrivateKeyDer :=
  crypto.firstSupported (.pkcs8 key) [.pkcs1 key, .sec1 key]

def maxEarlyDataSize (zeroRtt : Bool) : UInt32 := if zeroRtt then 0xffffffff else 0

/-- `generated` is the answer of `rcgen::generate_simple_self_signed`. -/
def buildServerConfig (generated : Except String CertifiedKey) (options : ServerOptions) :
    Result ServerConfig := do
  let certificate ← generated.mapError fun error =>
    Error.quicTls ("generate ephemeral certificate: " ++ error)
  let tls ← crypto.tlsConfig [certificate.cert] (.pkcs8 certificate.signingKey)
  let jls : JlsServerConfig := ⟨true, options.jlsRateLimit, options.jlsUpstreamAddr, options.serverName,
    options.users.map fun user => (user.password, user.name)⟩
  let tls := { tls with
    alpnProtocols := [asBytes "h3"]
    maxEarlyDataSize := maxEarlyDataSize options.zeroRtt
    jlsConfig := some jls }
  let quic ← crypto.quicServerConfig tls
  .ok ⟨quic, shadowquicTransportConfig⟩

def buildSunnyServerConfig (certificateChain : List Bytes) (privateKey : Bytes) (zeroRtt : Bool) :
    Result ServerConfig := do
  let privateKey ← crypto.detectPrivateKey privateKey
  let tls ← crypto.tlsConfig certificateChain privateKey
  let tls := { tls with
    alpnProtocols := [asBytes "h3"]
    maxEarlyDataSize := maxEarlyDataSize zeroRtt }
  let quic ← crypto.quicServerConfig tls
  .ok ⟨quic, shadowquicTransportConfig⟩

end Crypto

/-- The part of a bound server that the accept loop reads for every connection. -/
structure Listener where
  serverConfig : Option ServerConfig
  congestion : CongestionConfig
  authentication : ServerAuthentication

/-- A call on a bound server: what is written before an error stays written. -/
abbrev Update (α : Type) := ExceptT Error (StateM Listener) α

def Update.call {α : Type} (update : Update α) (self : Listener) : Result α × Listener :=
  (ExceptT.run update).run self

namespace Listener
variable (sha256 : Bytes → Digest) (crypto : Crypto)

/-- `bindEndpoint` is the answer of the system to binding a socket. -/
def bindInner (bindEndpoint : SocketAddr → Except String Unit) (listen : SocketAddr)
    (serverConfig : ServerConfig) (initialCongestion : CongestionConfig)
    (initialAuthentication : ServerAuthentication) : Result Listener :=
  match bindEndpoint listen with
  | .error error => .error (.io error)
  | .ok () => .ok ⟨some serverConfig, initialCongestion, initialAuthentication⟩

def bind (bindEndpoint : SocketAddr → Except String Unit) (generated : Except String CertifiedKey)
    (options : ServerOptions) : Result Listener := do
  let serverConfig ← crypto.buildServerConfig generated options
  bindInner bindEndpoint options.listen serverConfig options.congestion .jls

def bindSunny (bindEndpoint : SocketAddr → Except String Unit) (options : SunnyServerOptions) :
    Result Listener := do
  let serverConfig ← crypto.buildSunnyServerConfig options.certificateChain options.privateKey
    options.zeroRtt
  bindInner bindEndpoint options.listen serverConfig options.congestion
    (.sunny (sunnyUsers sha256 options.users))

def updateConfig (generated : Except String CertifiedKey) (options : ServerOptions) : Update Unit := do
  modify fun self => { self with congestion := options.congestion }
  let serverConfig ← ExceptT.mk (pure (crypto.buildServerConfig generated options))
  modify fun self => { self with serverConfig := some serverConfig }

def updateSunnyConfig (options : SunnyServerOptions) : Update Unit := do
  let serverConfig ← ExceptT.mk (pure (crypto.buildSunnyServerConfig options.certificateChain
    options.privateKey options.zeroRtt))
  modify fun self => { self with congestion := options.congestion }
  modify fun self => { self with authentication := .sunny (sunnyUsers sha256 options.users) }
  modify fun self => { self with serverConfig := some serverConfig }

/-- `update_certificate` of a SunnyQUIC server, which keeps the options it was bound with. -/
def updateCertificate (options : SunnyServerOptions) (certificateChain : List Bytes) (privateKey : Bytes) :
    Update Unit :=
  updateSunnyConfig sha256 crypto { options with certificateChain, privateKey }

end Listener

/-- The configuration built from a generated certificate. -/
def ServerOptions.config (options : ServerOptions) (certified : CertifiedKey) : ServerConfig where
  crypto := ⟨[certified.cert], .pkcs8 certified.signingKey, [asBytes "h3"],
    Crypto.maxEarlyDataSize options.zeroRtt, some ⟨true, options.jlsRateLimit, options.jlsUpstreamAddr,
      options.serverName, options.users.map fun user => (user.password, user.name)⟩⟩
  transport := shadowquicTransportConfig

/-- The configuration built from the certificate of the options. -/
def SunnyServerOptions.config (options : SunnyServerOptions) (privateKey : PrivateKeyDer) : ServerConfig where
  crypto := ⟨options.certificateChain, privateKey, [asBytes "h3"],
    Crypto.maxEarlyDataSize options.zeroRtt, none⟩
  transport := shadowquicTransportConfig

/-- A certificate was generated, and the TLS library takes it. -/
structure Crypto.Takes (crypto : Crypto) (generated : Except String CertifiedKey) (certified : CertifiedKey) :
    Prop where
  generated : generated = .ok certified
  accepted : crypto.withSingleCert [certified.cert] (.pkcs8 certified.signingKey) = .ok ()
  suite : crypto.initialSuite = true

section
variable {sha256 : Bytes → Digest} {crypto : Crypto} {generated : Except String CertifiedKey}
  {options : ServerOptions} {self : Listener}

/-- Every way the build can end. -/
theorem buildServerConfig_cases (crypto : Crypto) (generated : Except String CertifiedKey)
    (options : ServerOptions) :
    (∃ certified, crypto.Takes generated certified ∧
      crypto.buildServerConfig generated options = .ok (options.config certified)) ∨
    (¬ ∃ certified, crypto.Takes generated certified) ∧
      ∃ error, crypto.buildServerConfig generated options = .error error := by
  cases generated with
  | error error =>
    right
    constructor
    · rintro ⟨certified, takes⟩
      exact absurd takes.generated (by simp)
    · exact ⟨_, rfl⟩
  | ok certified =>
    cases accepted : crypto.withSingleCert [certified.cert] (.pkcs8 certified.signingKey) with
    | error error =>
      right
      constructor
      · rintro ⟨other, takes⟩
        obtain rfl := Except.ok.inj takes.generated
        exact absurd (accepted.symm.trans takes.accepted) (by simp)
      · exact ⟨.tls error, by
          simp [Crypto.buildServerConfig, Crypto.tlsConfig, accepted, Except.mapError, bind, Except.bind]⟩
    | ok done =>
      cases suite : crypto.initialSuite with
      | true =>
        left
        refine ⟨certified, ⟨rfl, accepted, suite⟩, ?_⟩
        simp [Crypto.buildServerConfig, Crypto.tlsConfig, Crypto.quicServerConfig, accepted, suite,
          Except.mapError, bind, Except.bind, ServerOptions.config]
      | false =>
        right
        constructor
        · rintro ⟨other, takes⟩
          exact absurd (suite.symm.trans takes.suite) (by simp)
        · exact ⟨.quicTls "no initial cipher suite found", by
            simp [Crypto.buildServerConfig, Crypto.tlsConfig, Crypto.quicServerConfig, accepted, suite,
              Except.mapError, bind, Except.bind]⟩

theorem firstSupported_mem {candidate found : PrivateKeyDer} {rest : List PrivateKeyDer}
    (detected : crypto.firstSupported candidate rest = .ok found) : found ∈ candidate :: rest := by
  induction rest generalizing candidate with
  | nil =>
    unfold Crypto.firstSupported at detected
    split at detected
    · obtain rfl := Except.ok.inj detected
      exact List.mem_cons_self
    · contradiction
  | cons next rest ih =>
    unfold Crypto.firstSupported at detected
    split at detected
    · obtain rfl := Except.ok.inj detected
      exact List.mem_cons_self
    · exact List.mem_cons_of_mem _ (ih detected)

/-- The key in the configuration is that of the options, in one of the three formats. -/
theorem buildSunnyServerConfig_eq_ok {options : SunnyServerOptions} {config : ServerConfig}
    (built : crypto.buildSunnyServerConfig options.certificateChain options.privateKey options.zeroRtt =
      .ok config) :
    ∃ privateKey ∈ [PrivateKeyDer.pkcs8 options.privateKey, .pkcs1 options.privateKey, .sec1 options.privateKey],
      config = options.config privateKey := by
  unfold Crypto.buildSunnyServerConfig at built
  cases detected : crypto.detectPrivateKey options.privateKey with
  | error error =>
    simp [detected, bind, Except.bind] at built
  | ok privateKey =>
    refine ⟨privateKey, firstSupported_mem detected, ?_⟩
    cases accepted : crypto.withSingleCert options.certificateChain privateKey with
    | error error =>
      simp [detected, Crypto.tlsConfig, accepted, bind, Except.bind] at built
    | ok done =>
      cases suite : crypto.initialSuite with
      | false =>
        simp [detected, Crypto.tlsConfig, Crypto.quicServerConfig, accepted, suite, bind, Except.bind] at built
      | true =>
        simp only [detected, Crypto.tlsConfig, Crypto.quicServerConfig, accepted, suite, bind, Except.bind,
          if_true, Except.ok.injEq] at built
        exact built.symm

/-- The congestion setting is written whether the build succeeds or not. -/
theorem call_updateConfig (crypto : Crypto) (generated : Except String CertifiedKey) (options : ServerOptions)
    (self : Listener) :
    (Listener.updateConfig crypto generated options).call self =
      match crypto.buildServerConfig generated options with
      | .ok config => (.ok (), { self with serverConfig := some config, congestion := options.congestion })
      | .error error => (.error error, { self with congestion := options.congestion }) := by
  cases built : crypto.buildServerConfig generated options with
  | ok config => simp only [Update.call, Listener.updateConfig, built]; rfl
  | error error => simp only [Update.call, Listener.updateConfig, built]; rfl

theorem call_updateSunnyConfig (sha256 : Bytes → Digest) (crypto : Crypto) (options : SunnyServerOptions)
    (self : Listener) :
    (Listener.updateSunnyConfig sha256 crypto options).call self =
      match crypto.buildSunnyServerConfig options.certificateChain options.privateKey options.zeroRtt with
      | .ok config => (.ok (), ⟨some config, options.congestion, .sunny (sunnyUsers sha256 options.users)⟩)
      | .error error => (.error error, self) := by
  cases built : crypto.buildSunnyServerConfig options.certificateChain options.privateKey options.zeroRtt with
  | ok config => simp only [Update.call, Listener.updateSunnyConfig, built]; rfl
  | error error => simp only [Update.call, Listener.updateSunnyConfig, built]; rfl

theorem updateConfig_atomic_iff (crypto : Crypto) (generated : Except String CertifiedKey)
    (options : ServerOptions) (self : Listener) :
    (∀ error, ((Listener.updateConfig crypto generated options).call self).1 = .error error →
        ((Listener.updateConfig crypto generated options).call self).2 = self) ↔
      (∃ certified, crypto.Takes generated certified) ∨ options.congestion = self.congestion := by
  rw [call_updateConfig]
  rcases buildServerConfig_cases crypto generated options with ⟨certified, takes, built⟩ | ⟨refused, error, built⟩
  · rw [built]
    exact iff_of_true (fun error failed => by simp at failed) (Or.inl ⟨certified, takes⟩)
  · rw [built]
    constructor
    · intro atomic
      have same := congrArg Listener.congestion (atomic error rfl)
      exact Or.inr same
    · rintro (taken | same) _ _
      · exact absurd taken refused
      · dsimp only
        rw [same]

theorem updateConfig_ok (updated : ((Listener.updateConfig crypto generated options).call self).1 = .ok ()) :
    ∃ certified, generated = .ok certified ∧
      ((Listener.updateConfig crypto generated options).call self).2 =
        ⟨some (options.config certified), options.congestion, self.authentication⟩ := by
  rw [call_updateConfig] at updated ⊢
  rcases buildServerConfig_cases crypto generated options with ⟨certified, takes, built⟩ | ⟨_, error, built⟩
  · rw [built]
    exact ⟨certified, takes.generated, rfl⟩
  · simp [built] at updated

end

/-- A failed `updateConfig` changes nothing exactly if it could not fail or gives the
congestion setting that is in force; a failed `updateSunnyConfig` never changes anything.
After success everything is as the options say, where a JLS server has its users in the
TLS configuration and no table. -/
theorem update_atomic_iff (sha256 : Bytes → Digest) (crypto : Crypto) (self : Listener) :
    (∀ (generated : Except String CertifiedKey) (options : ServerOptions),
      ((∀ error, ((Listener.updateConfig crypto generated options).call self).1 = .error error →
          ((Listener.updateConfig crypto generated options).call self).2 = self) ↔
        (∃ certified, crypto.Takes generated certified) ∨ options.congestion = self.congestion) ∧
      (((Listener.updateConfig crypto generated options).call self).1 = .ok () →
        ∃ certified, generated = .ok certified ∧
          ((Listener.updateConfig crypto generated options).call self).2 =
            ⟨some (options.config certified), options.congestion, self.authentication⟩)) ∧
    ∀ options : SunnyServerOptions,
      (∀ error, ((Listener.updateSunnyConfig sha256 crypto options).call self).1 = .error error →
        ((Listener.updateSunnyConfig sha256 crypto options).call self).2 = self) ∧
      (((Listener.updateSunnyConfig sha256 crypto options).call self).1 = .ok () →
        ∃ privateKey ∈ [PrivateKeyDer.pkcs8 options.privateKey, .pkcs1 options.privateKey,
            .sec1 options.privateKey],
          ((Listener.updateSunnyConfig sha256 crypto options).call self).2 =
            ⟨some (options.config privateKey), options.congestion, .sunny (sunnyUsers sha256 options.users)⟩) := by
  constructor
  · intro generated options
    exact ⟨updateConfig_atomic_iff crypto generated options self, updateConfig_ok⟩
  · intro options
    rw [call_updateSunnyConfig]
    cases built : crypto.buildSunnyServerConfig options.certificateChain options.privateKey
        options.zeroRtt with
    | error error =>
      constructor
      · intro _ _
        rfl
      · intro updated
        contradiction
    | ok config =>
      constructor
      · intro _ failed
        contradiction
      · intro _
        obtain ⟨privateKey, detected, rfl⟩ := buildSunnyServerConfig_eq_ok built
        exact ⟨privateKey, detected, rfl⟩

/-- A TLS library that takes every certificate and key. -/
def lenient : Crypto := ⟨fun _ _ => .ok (), fun _ => .ok (), true⟩

def quietOptions : ServerOptions := ⟨⟨.v4 ⟨[10, 0, 0, 4], rfl⟩, 443⟩, [], none, none, 0, .bbr, false⟩

/-- The random source fails while the ephemeral key of an update is generated: the update is
refused, but the next connection is given its congestion setting. -/
theorem failed_update_changes : ¬ ∀ (crypto : Crypto) (bindEndpoint : SocketAddr → Except String Unit)
    (first generated : Except String CertifiedKey) (initial options : ServerOptions) (self : Listener),
    Listener.bind crypto bindEndpoint first initial = .ok self →
    ∀ error, ((Listener.updateConfig crypto generated options).call self).1 = .error error →
      ((Listener.updateConfig crypto generated options).call self).2 = self := by
  intro every
  have same := every lenient (fun _ => .ok ()) (.ok ⟨[], []⟩) (.error "Unspecified ring error") quietOptions
    { quietOptions with congestion := .brutal 1000 false } _ rfl _ rfl
  have congestion : CongestionConfig.brutal 1000 false = .bbr := congrArg Listener.congestion same
  contradiction

/-- A bound server, and what each connection accepted so far is served with. -/
structure Listening where
  listener : Listener
  accepted : List Listener

inductive ListenAction (ρ : Type) where
  | update (request : ρ)
  | accept

/-- The accept loop beside calls that update the configuration. Accepting is one step here,
as is an update. The source reads the congestion setting and the authentication one after
the other, and the endpoint's configuration when the handshake begins; runs in which an
update falls between these reads, or is seen half done, are not among the runs of this
step. -/
def listenStep {ρ : Type} (update : ρ → Update Unit) (self : Listening) : ListenAction ρ → Option Listening
  | .update request => some { self with listener := ((update request).call self.listener).2 }
  | .accept => some { self with accepted := self.accepted ++ [self.listener] }

/-- A call of `updateConfig`. -/
structure JlsUpdate where
  generated : Except String CertifiedKey
  options : ServerOptions

def JlsUpdate.apply (crypto : Crypto) (request : JlsUpdate) : Update Unit :=
  Listener.updateConfig crypto request.generated request.options

/-- What a server is configured with, as one value. -/
structure Settings where
  options : ServerOptions
  certified : CertifiedKey

/-- What the updates are for: the settings in force are replaced as a whole or not at all, and a
connection gets those in force when it is accepted. -/
structure Published where
  active : Settings
  accepted : List Settings

open Classical in
noncomputable def publishStep (crypto : Crypto) (self : Published) :
    ListenAction JlsUpdate → Option Published
  | .update request =>
    some (if taken : ∃ certified, crypto.Takes request.generated certified then
      { self with active := ⟨request.options, taken.choose⟩ } else self)
  | .accept => some { self with accepted := self.accepted ++ [self.active] }

def Settings.listener (settings : Settings) : Listener :=
  ⟨some (settings.options.config settings.certified), settings.options.congestion, .jls⟩

def Published.listening (self : Published) : Listening :=
  ⟨self.active.listener, self.accepted.map Settings.listener⟩

/-- The condition under which an update is all or nothing. -/
def Whole (crypto : Crypto) (self : Listening) : ListenAction JlsUpdate → Prop
  | .update request =>
    (∃ certified, crypto.Takes request.generated certified) ∨
      request.options.congestion = self.listener.congestion
  | .accept => True

section
variable {sha256 : Bytes → Digest} {crypto : Crypto} {bindEndpoint : SocketAddr → Except String Unit}

theorem listenStep_refines {self : Published} {action : ListenAction JlsUpdate}
    (whole : Whole crypto self.listening action) :
    listenStep (JlsUpdate.apply crypto) self.listening action =
      (publishStep crypto self action).map Published.listening := by
  cases action with
  | accept => simp [listenStep, publishStep, Published.listening]
  | update request =>
    obtain ⟨generated, options⟩ := request
    rw [listenStep, JlsUpdate.apply, publishStep, Option.map_some, call_updateConfig]
    rcases buildServerConfig_cases crypto generated options with
      ⟨certified, takes, built⟩ | ⟨refused, error, built⟩
    · have taken : ∃ certified, crypto.Takes generated certified := ⟨certified, takes⟩
      have same := Except.ok.inj (taken.choose_spec.generated.symm.trans takes.generated)
      rw [built, dif_pos taken, same]
      rfl
    · have kept : options.congestion = self.listening.listener.congestion := whole.resolve_left refused
      rw [built, dif_neg refused, kept]

theorem bindInner_eq_ok {listen : SocketAddr} {config : ServerConfig} {congestion : CongestionConfig}
    {authentication : ServerAuthentication} {listener : Listener}
    (opened : Listener.bindInner bindEndpoint listen config congestion authentication = .ok listener) :
    listener = ⟨some config, congestion, authentication⟩ := by
  unfold Listener.bindInner at opened
  split at opened
  · contradiction
  · exact (Except.ok.inj opened).symm

/-- In every run of a bound server whose updates are all whole, every connection is served
with the options of one update, the last that was taken when it was accepted (no update
falling into the accept itself). -/
theorem listening_refines_published {generated : Except String CertifiedKey} {options : ServerOptions}
    {listener : Listener} {actions : List (ListenAction JlsUpdate)} {final : Listening}
    (opened : Listener.bind crypto bindEndpoint generated options = .ok listener)
    (execution : Transition.run (listenStep (JlsUpdate.apply crypto)) ⟨listener, []⟩ actions = some final)
    (whole : Transition.Meets (listenStep (JlsUpdate.apply crypto)) (Whole crypto) ⟨listener, []⟩ actions) :
    ∃ certified published, generated = .ok certified ∧
      Transition.run (publishStep crypto) ⟨⟨options, certified⟩, []⟩ actions = some published ∧
      final = published.listening := by
  have started : ∃ certified, generated = .ok certified ∧
      listener = Settings.listener ⟨options, certified⟩ := by
    rcases buildServerConfig_cases crypto generated options with ⟨certified, takes, built⟩ | ⟨_, error, built⟩
    · rw [Listener.bind, built] at opened
      exact ⟨certified, takes.generated, bindInner_eq_ok opened⟩
    · rw [Listener.bind, built] at opened
      contradiction
  obtain ⟨certified, generation, rfl⟩ := started
  have refined := Transition.run_refines Published.listening listenStep_refines
    ⟨⟨options, certified⟩, []⟩ whole
  obtain ⟨published, abstract, rfl⟩ := Option.map_eq_some_iff.mp (refined.symm.trans execution)
  exact ⟨certified, published, generation, abstract, rfl⟩

/-- Served as a SunnyQUIC server was bound, but for the certificate and its key. -/
def ServesSunny (sha256 : Bytes → Digest) (options : SunnyServerOptions) (listener : Listener) : Prop :=
  ∃ certificateChain privateKey key,
    listener = ⟨some (SunnyServerOptions.config { options with certificateChain, privateKey } key),
      options.congestion, .sunny (sunnyUsers sha256 options.users)⟩ ∧
    key ∈ [PrivateKeyDer.pkcs8 privateKey, .pkcs1 privateKey, .sec1 privateKey]

theorem ServesSunny.update {options : SunnyServerOptions} {listener : Listener}
    (serves : ServesSunny sha256 options listener) (certificate : List Bytes × Bytes) :
    ServesSunny sha256 options
      ((Listener.updateCertificate sha256 crypto options certificate.1 certificate.2).call listener).2 := by
  unfold Listener.updateCertificate
  rw [call_updateSunnyConfig]
  split
  · rename_i config built
    obtain ⟨key, detected, rfl⟩ := buildSunnyServerConfig_eq_ok built
    exact ⟨certificate.1, certificate.2, key, rfl, detected⟩
  · exact serves

/-- In every run of a SunnyQUIC server, whatever certificates it is given, every connection is
served with the users and the congestion setting it was bound with and with one chain and key. -/
theorem sunny_served_whole {options : SunnyServerOptions} {listener : Listener}
    {actions : List (ListenAction (List Bytes × Bytes))} {final : Listening}
    (opened : Listener.bindSunny sha256 crypto bindEndpoint options = .ok listener)
    (execution : Transition.run (listenStep fun certificate =>
      Listener.updateCertificate sha256 crypto options certificate.1 certificate.2) ⟨listener, []⟩ actions =
        some final) :
    ServesSunny sha256 options final.listener ∧ ∀ seen ∈ final.accepted, ServesSunny sha256 options seen := by
  have started : ServesSunny sha256 options listener := by
    unfold Listener.bindSunny at opened
    cases built : crypto.buildSunnyServerConfig options.certificateChain options.privateKey
        options.zeroRtt with
    | error error =>
      rw [built] at opened
      contradiction
    | ok config =>
      rw [built] at opened
      obtain ⟨key, detected, rfl⟩ := buildSunnyServerConfig_eq_ok built
      exact ⟨options.certificateChain, options.privateKey, key, bindInner_eq_ok opened, detected⟩
  refine Transition.run_invariant (P := fun state : Listening => ServesSunny sha256 options state.listener ∧
    ∀ seen ∈ state.accepted, ServesSunny sha256 options seen) ?_ execution ⟨started, by simp⟩
  intro before action after invariant stepped
  obtain ⟨serves, earlier⟩ := invariant
  cases action with
  | update certificate =>
    obtain rfl := Option.some.inj stepped
    exact ⟨serves.update certificate, earlier⟩
  | accept =>
    obtain rfl := Option.some.inj stepped
    constructor
    · exact serves
    · intro seen member
      rcases List.mem_append.mp member with old | new
      · exact earlier seen old
      · obtain rfl := List.mem_singleton.mp new
        exact serves

end

end SingQuic.ShadowQuic
