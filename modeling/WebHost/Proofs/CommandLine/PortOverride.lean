/-
Module: WebHost.Proofs.CommandLine.PortOverride
Purpose: A port given on the command line changes the port of the address and nothing else.
Main exports:
  Server.OpensAt, opensAt_of_parse?, parse?_addressWithPort, port_override_keeps_host
-/
import WebHost.CommandLine.ServerProgram
import WebHost.Proofs.Address.Host
import WebHost.Proofs.Server.ConfiguredProtocols

namespace WebHost

open Number Text

/-!
The program replaces the port of a configured address in its text: it keeps what stands
before the last colon.  An address of groups has colons of its own, but none of them comes
after the bracket, and the digits of a port are no colons.  So what is kept is the host,
and the new text is read as the same host with the new port.
-/

/-! ### Where a server listens -/

/-- The configuration names this address: the server listens there or not at all, and it
does if it has its identity and its router and the address can be taken. -/
structure Server.OpensAt {σ : Type} (server : Server σ) (address : SocketAddress) : Prop where
  parsed : SocketAddress.parse? server.config.listener.bindAddress = some address
  readable : ∀ files available text,
    server.start files available ≠ .error (.invalidAddress text)
  place : ∀ files available listening,
    server.start files available = .ok listening → listening.address = address
  opens : ∀ files available identity router, server.identity? files = .ok identity →
    server.router = .ok router → available address = true →
    server.start files available =
      .ok { address := address, identity := identity, router := router }

section Start

variable {σ : Type} {server : Server σ}

theorem router_cases (server : Server σ) :
    (∃ router, server.router = .ok router) ∨ server.router = .error .pollTimeTooLong := by
  unfold Server.router
  cases Router.ofServer? server with
  | none => exact Or.inr rfl
  | some router => exact Or.inl ⟨router, rfl⟩

theorem identity?_cases (server : Server σ) (files : FileSystem) :
    (∃ identity, server.identity? files = .ok identity) ∨
      ∃ reason, server.identity? files = .error (.identity reason) := by
  unfold Server.identity?
  split
  · exact Or.inl ⟨none, rfl⟩
  · rename_i names _
    cases loadIdentity files names.certificate names.key with
    | error reason => exact Or.inr ⟨reason, rfl⟩
    | ok identity => exact Or.inl ⟨some identity, rfl⟩

/-- What a server with a readable address does: it listens there, with the identity and
the router it has, or one of the three is missing. -/
inductive Opening (server : Server σ) (files : FileSystem) (available : SocketAddress → Bool)
    (address : SocketAddress) : Except StartError (Listening σ) → Prop where
  | listens {identity : Option Identity} {router : Router σ}
      (shown : server.identity? files = .ok identity) (routed : server.router = .ok router)
      (free : available address = true) :
      Opening server files available address
        (.ok { address := address, identity := identity, router := router })
  | unidentified {reason : IdentityError}
      (missing : server.identity? files = .error (.identity reason)) :
      Opening server files available address (.error (.identity reason))
  | unavailable (taken : available address = false) :
      Opening server files available address (.error .addressUnavailable)
  | unrouted (missing : server.router = .error .pollTimeTooLong) :
      Opening server files available address (.error .pollTimeTooLong)

theorem opening_start {address : SocketAddress}
    (parsed : SocketAddress.parse? server.config.listener.bindAddress = some address)
    (files : FileSystem) (available : SocketAddress → Bool) :
    Opening server files available address (server.start files available) := by
  unfold Server.start
  rw [parsed]
  rcases identity?_cases server files with ⟨identity, shown⟩ | ⟨reason, missing⟩
  · rw [shown]
    cases identity with
    | none =>
        by_cases free : available address = true
        · rcases router_cases server with ⟨router, routed⟩ | missing
          · simp only [free, if_true, routed]
            exact Opening.listens shown routed free
          · simp only [free, if_true, missing]
            exact Opening.unrouted missing
        · simp only [free]
          exact Opening.unavailable (eq_false_of_ne_true free)
    | some identity =>
        -- With an identity to show, the router is built before the address is taken.
        rcases router_cases server with ⟨router, routed⟩ | missing
        · by_cases free : available address = true
          · simp only [routed, free, if_true]
            exact Opening.listens shown routed free
          · simp only [routed, free]
            exact Opening.unavailable (eq_false_of_ne_true free)
        · simp only [missing]
          exact Opening.unrouted missing
  · rw [missing]
    exact Opening.unidentified missing

end Start

theorem opensAt_of_parse? {σ : Type} {server : Server σ} {address : SocketAddress}
    (parsed : SocketAddress.parse? server.config.listener.bindAddress = some address) :
    server.OpensAt address where
  parsed := parsed
  readable := by
    intro files available text failed
    have opening := opening_start parsed files available
    rw [failed] at opening
    cases opening
  place := by
    intro files available listening started
    have opening := opening_start parsed files available
    rw [started] at opening
    cases opening
    rfl
  opens := by
    intro files available identity router shown routed free
    have opening := opening_start parsed files available
    generalize server.start files available = outcome at opening
    cases opening with
    | listens known built _ =>
        rw [Except.ok.inj (known.symm.trans shown), Except.ok.inj (built.symm.trans routed)]
    | unidentified missing => cases missing.symm.trans shown
    | unavailable taken => cases taken.symm.trans free
    | unrouted missing => cases missing.symm.trans routed

/-! ### The new text -/

/-- The digits of a port hold no colon, so the last colon is the one before them. -/
theorem cutAtLast_colon {host digits : List Char} {port : Nat} (number : WritesNumber digits port) :
    cutAtLast ':' (host ++ ':' :: digits) = some (host, digits) := by
  apply cutAtLast_eq_some_iff.2
  refine ⟨rfl, fun member => ?_⟩
  exact absurd (number.isDigit ':' member) (by decide)

theorem parse?_addressWithPort {text : String} {address : SocketAddress}
    (parsed : SocketAddress.parse? text = some address) {port : Nat} (below : port < 65536) :
    SocketAddress.parse? (ServerArguments.addressWithPort text port) =
      some { address with port := port } := by
  obtain ⟨host, digits, whole, written, number, -⟩ := SocketAddress.parse?_eq_some_iff.1 parsed
  have kept : (ServerArguments.addressWithPort text port).toList =
      host ++ ':' :: Nat.toDigits 10 port := by
    unfold ServerArguments.addressWithPort
    rw [whole, cutAtLast_colon number]
    simp [naturalText]
  have fresh : WritesNumber (Nat.toDigits 10 port) port :=
    readDigits?_eq_some_iff.1 (readDigits?_toDigits port)
  exact SocketAddress.parse?_of_host kept written fresh below

/-! ### The program -/

theorem config_addDemo (server : Server Demo) : server.addDemo.config = server.config :=
  config_addProtocols _ echoHandler _

/-- The program listens where its configuration says, or it ends. -/
theorem address_eq_of_runServer {files : FileSystem} {available : SocketAddress → Bool}
    {arguments : List String} {given : ServerArguments} {config : Config}
    (read : ServerArguments.parse arguments = .ok given) (loaded : given.config files = .ok config)
    {address : SocketAddress}
    (parsed : SocketAddress.parse? config.listener.bindAddress = some address)
    {listening : Listening Demo}
    (serving : runServer files available arguments = .serving listening) :
    listening.address = address := by
  have opens : (Server.ofConfig config).addDemo.OpensAt address := by
    apply opensAt_of_parse?
    rw [config_addDemo]
    exact parsed
  unfold runServer at serving
  rw [read] at serving
  dsimp only at serving
  rw [loaded] at serving
  dsimp only at serving
  split at serving
  · rename_i started
    cases serving
    exact opens.place _ _ _ started
  · cases serving
  · cases serving

/-- A port given to the program keeps the host: the new text of an address that can be
read can be read, as the same host and scope with that port.  So every server with this
configuration can read its address, and where it listens, the program included, is the
configured host. -/
theorem port_override_keeps_host (config : Config) {address : SocketAddress}
    (parsed : SocketAddress.parse? config.listener.bindAddress = some address)
    (given : ServerArguments) {port : Nat} (asked : given.port = some port)
    (below : port < 65536) :
    SocketAddress.parse? (given.adjust config).listener.bindAddress =
        some { address with port := port } ∧
      (∀ (σ : Type) (server : Server σ), server.config = given.adjust config →
        server.OpensAt { address with port := port }) ∧
      ∀ files available arguments listening, ServerArguments.parse arguments = .ok given →
        given.config files = .ok (given.adjust config) →
        runServer files available arguments = .serving listening →
        listening.address = { address with port := port } := by
  have replaced : SocketAddress.parse? (given.adjust config).listener.bindAddress =
      some { address with port := port } := by
    unfold ServerArguments.adjust
    rw [asked]
    exact parse?_addressWithPort parsed below
  refine ⟨replaced, ?_, ?_⟩
  · intro σ server configured
    apply opensAt_of_parse?
    rw [configured]
    exact replaced
  · intro files available arguments listening read loaded serving
    exact address_eq_of_runServer read loaded replaced serving

/-- A scoped address with four octets at its end and a port with leading zeros. -/
theorem port_override_keeps_host_scoped :
    let config : Config := { Config.standard with
      listener := { Config.standard.listener with
        bindAddress := "[fe80::7:1.2.3.4%12]:00080" } }
    let given : ServerArguments := { configPath := none, port := some 8080, rootDirectory := none }
    let address : SocketAddress :=
      { ip := .six [0xfe80, 0, 0, 0, 0, 7, 0x102, 0x304], scope := 12, port := 80 }
    SocketAddress.parse? config.listener.bindAddress = some address ∧
      (given.adjust config).listener.bindAddress = "[fe80::7:1.2.3.4%12]:8080" ∧
      SocketAddress.parse? (given.adjust config).listener.bindAddress =
        some { address with port := 8080 } ∧
      (Server.ofConfig (given.adjust config)).addDemo.OpensAt { address with port := 8080 } := by
  intro config given address
  have parsed : SocketAddress.parse? config.listener.bindAddress = some address := by
    decide +kernel
  obtain ⟨replaced, opens, -⟩ :=
    port_override_keeps_host config parsed given rfl (by decide : 8080 < 65536)
  exact ⟨parsed, by decide +kernel, replaced, opens Demo _ (config_addDemo _)⟩

end WebHost
