/-
Module: WebHost.Proofs.Config.Accepted
Purpose: What holds of the configurations in which the check finds no fault.
Main exports:
  Config.Accepted, protocolFaults_eq_nil_iff, registered_of_no_faults, faults_eq_nil_iff,
  faults_standard
-/
import WebHost.Config.Check

namespace WebHost

open Number Text

/-!
Each setting is checked by itself, the protocol names one after the other.  So
nothing is wrong with a configuration just when every setting passes its own
check, and then the names that count as registered are all that it lists.
-/

/-- Every setting passes its check. -/
structure Config.Accepted (files : FileSystem) (config : Config) : Prop where
  bindAddress : (SocketAddress.parse? config.listener.bindAddress).isSome = true
  tls : ∀ names, config.listener.tls = some names →
    files.isFile names.certificate = true ∧ files.isFile names.key = true
  encoding : trimBlanks config.http.encoding.toList ≠ []
  serverName : (FieldValue.ofText? config.http.serverName).isSome = true
  rootDirectory : ∀ path, config.http.rootDirectory = some path → files.isDirectory path = true
  pollFrequency : pollFrequencyAllowed config.websocket.pollFrequency = true
  requestSeconds : config.timeouts.requestSeconds ≠ 0
  maxBodySize : config.limits.maxBodySize ≠ 0
  protocolNames : ∀ name ∈ config.websocket.protocols, isProtocolName name = true
  protocolsOnce : config.websocket.protocols.Nodup
  defaultProtocol : ∀ name, config.websocket.defaultProtocol = some name →
    name ∈ config.websocket.protocols

theorem faultUnless_eq_nil_iff (holds : Bool) (fault : ConfigFault) :
    faultUnless holds fault = [] ↔ holds = true := by
  cases holds with
  | true => simp [faultUnless]
  | false => simp [faultUnless]

theorem tlsFaults_eq_nil_iff (files : FileSystem) (tls : Option TlsFiles) :
    (tls.map (TlsFiles.faults files)).getD [] = [] ↔
      ∀ names, tls = some names →
        files.isFile names.certificate = true ∧ files.isFile names.key = true := by
  cases tls with
  | none => simp
  | some names => simp [TlsFiles.faults, faultUnless_eq_nil_iff]

/-- Names pass the check if each can be offered and none has come before. -/
theorem protocolFaults_eq_nil_iff (registered names : List String) :
    (protocolFaults registered names).1 = [] ↔
      (∀ name ∈ names, isProtocolName name = true) ∧ (∀ name ∈ names, name ∉ registered) ∧
        names.Nodup := by
  induction names generalizing registered with
  | nil => simp [protocolFaults]
  | cons name rest ih =>
      unfold protocolFaults
      by_cases legal : isProtocolName name = true
      · by_cases known : registered.contains name = true
        · have twice : name ∈ registered := List.contains_iff_mem.1 known
          simp [legal, twice]
        · have once : name ∉ registered := fun member => known (List.contains_iff_mem.2 member)
          simp only [legal, known, Bool.not_true, Bool.false_eq_true, if_false]
          rw [ih]
          constructor
          · rintro ⟨restLegal, restOnce, restNodup⟩
            refine ⟨?_, ?_, ?_⟩
            · exact List.forall_mem_cons.2 ⟨legal, restLegal⟩
            · intro other member before
              rcases List.mem_cons.1 member with same | later
              · exact once (same ▸ before)
              · exact restOnce other later (List.mem_append_left _ before)
            · apply List.nodup_cons.2
              refine ⟨?_, restNodup⟩
              intro again
              exact restOnce name again (List.mem_append_right _ (List.mem_singleton_self name))
          · rintro ⟨allLegal, allOnce, allNodup⟩
            obtain ⟨fresh, restNodup⟩ := List.nodup_cons.1 allNodup
            refine ⟨(List.forall_mem_cons.1 allLegal).2, ?_, restNodup⟩
            intro other member before
            rcases List.mem_append.1 before with earlier | same
            · exact (List.forall_mem_cons.1 allOnce).2 other member earlier
            · rw [List.mem_singleton.1 same] at member
              exact fresh member
      · simp [legal]

/-- Names that pass the check are all registered, in their order. -/
theorem registered_of_no_faults (registered names : List String)
    (passed : (protocolFaults registered names).1 = []) :
    (protocolFaults registered names).2 = registered ++ names := by
  induction names generalizing registered with
  | nil => simp [protocolFaults]
  | cons name rest ih =>
      obtain ⟨legal, once, -⟩ := (protocolFaults_eq_nil_iff registered (name :: rest)).1 passed
      have first : isProtocolName name = true := legal name List.mem_cons_self
      have fresh : name ∉ registered := once name List.mem_cons_self
      unfold protocolFaults at passed ⊢
      simp only [first, List.contains_iff_mem, fresh, Bool.not_true, Bool.false_eq_true,
        if_false] at passed ⊢
      rw [ih _ passed, List.append_assoc, List.singleton_append]

/-- The check finds no fault just when every setting passes. -/
theorem faults_eq_nil_iff (files : FileSystem) (config : Config) :
    config.faults files = [] ↔ config.Accepted files := by
  unfold Config.faults
  simp only [List.append_eq_nil_iff, faultUnless_eq_nil_iff, tlsFaults_eq_nil_iff,
    decide_eq_true_eq]
  constructor
  · rintro ⟨⟨⟨⟨⟨⟨⟨⟨⟨address, tls⟩, encoding⟩, serverName⟩, root⟩, frequency⟩, request⟩, body⟩,
      names⟩, chosen⟩
    obtain ⟨legal, -, once⟩ := (protocolFaults_eq_nil_iff _ _).1 names
    rw [registered_of_no_faults _ _ names] at chosen
    refine ⟨address, tls, encoding, serverName, ?_, frequency, request, body, legal, once, ?_⟩
    · intro path rooted
      rw [rooted] at root
      exact (faultUnless_eq_nil_iff _ _).1 root
    · intro name preferred
      rw [preferred] at chosen
      exact List.contains_iff_mem.1 ((faultUnless_eq_nil_iff _ _).1 chosen)
  · intro accepted
    have names : (protocolFaults [] config.websocket.protocols).1 = [] := by
      apply (protocolFaults_eq_nil_iff _ _).2
      exact ⟨accepted.protocolNames, fun _ _ => List.not_mem_nil, accepted.protocolsOnce⟩
    rw [registered_of_no_faults _ _ names]
    refine ⟨⟨⟨⟨⟨⟨⟨⟨⟨accepted.bindAddress, accepted.tls⟩, accepted.encoding⟩, accepted.serverName⟩,
      ?_⟩, accepted.pollFrequency⟩, accepted.requestSeconds⟩, accepted.maxBodySize⟩, names⟩, ?_⟩
    · cases rooted : config.http.rootDirectory with
      | none => rfl
      | some path => exact (faultUnless_eq_nil_iff _ _).2 (accepted.rootDirectory path rooted)
    · cases preferred : config.websocket.defaultProtocol with
      | none => rfl
      | some name =>
          apply (faultUnless_eq_nil_iff _ _).2
          exact List.contains_iff_mem.2 (accepted.defaultProtocol name preferred)

/-- The defaults pass their own checks, whatever files there are. -/
theorem faults_standard (files : FileSystem) : Config.standard.faults files = [] := by
  rfl

end WebHost
