/-
Module: WebHost.Proofs.Server.BodyGate
Purpose: What has to be true of a body before an entry point runs, and with
  which content it runs then.
Main exports:
  DeclaredLength, BodyGate, bodyGate_iff, BodyGate.length_le, body_gate_guards_entry
-/
import WebHost.Proofs.Server.Dispatch
import WebHost.Proofs.Text.Length

namespace WebHost

open Text

/-!
Entry points of GET and DELETE run on empty content.  Those of POST and PUT run
behind a gate that asks for a length first and for the body second.  The gate is
stated here case by case, each case with the status and the text that turn a
request away, or with the content that lets it pass.
-/

/-! ### The gate -/

/-- The first Content-Length of a request declares this length. -/
def DeclaredLength (fields : Fields) (length : Nat) : Prop :=
  ∃ value text, fields.get? .contentLength = some value ∧ value.text? = some text ∧
    DeclaresLength text length

/-- Methods whose entry points see a body. -/
def TakesBody (method : Method) : Prop := method = .post ∨ method = .put

/-- What the gate says about a request: the status and the text of a refusal, or
the content that the entry point sees. -/
inductive BodyGate (limit : Nat) (method : Method) (incoming : Incoming) :
    Except (Nat × String) Bytes → Prop where
  | noBody (bodiless : method = .get ∨ method = .delete) :
      BodyGate limit method incoming (.ok [])
  | lengthMissing (takes : TakesBody method)
      (missing : incoming.fields.get? .contentLength = none) :
      BodyGate limit method incoming (.error (411, "Content-Length header required"))
  | lengthMalformed (value : FieldValue) (takes : TakesBody method)
      (first : incoming.fields.get? .contentLength = some value)
      (noNumber : ∀ text length, value.text? = some text → ¬ DeclaresLength text length) :
      BodyGate limit method incoming (.error (400, "Content-Length header has no number"))
  | tooLarge (length : Nat) (takes : TakesBody method)
      (declared : DeclaredLength incoming.fields length) (above : limit < length) :
      BodyGate limit method incoming (.error (413, "Request body too large"))
  | empty (takes : TakesBody method) (declared : DeclaredLength incoming.fields 0) :
      BodyGate limit method incoming (.ok [])
  | whole (length : Nat) (content : Bytes) (takes : TakesBody method)
      (declared : DeclaredLength incoming.fields length) (positive : 0 < length)
      (within : length ≤ limit) (received : incoming.body = some content)
      (fits : content.length ≤ limit) :
      BodyGate limit method incoming (.ok content)
  | unreadable (length : Nat) (takes : TakesBody method)
      (declared : DeclaredLength incoming.fields length) (positive : 0 < length)
      (within : length ≤ limit)
      (unfit : ∀ content, incoming.body = some content → limit < content.length) :
      BodyGate limit method incoming (.error (400, "Failed to read request body"))

/-- What the checks decide, as the client or the entry point sees it. -/
def gateOutcome : Except BodyFault Bytes → Except (Nat × String) Bytes
  | .ok content => .ok content
  | .error fault => .error (fault.status.code, fault.message)

section Gate

variable {limit : Nat} {method : Method} {incoming : Incoming} {fields : Fields}

theorem takesBody_iff : TakesBody method ↔ method.acceptsBody = true := by
  cases method <;> simp [TakesBody, Method.acceptsBody]

theorem declaredLength_missing (missing : fields.get? .contentLength = none) :
    WebHost.declaredLength fields = .error .lengthMissing := by
  simp [declaredLength, missing]

theorem declaredLength_eq_ok_iff {length : Nat} :
    WebHost.declaredLength fields = .ok length ↔ DeclaredLength fields length := by
  unfold declaredLength DeclaredLength
  cases fields.get? .contentLength with
  | none => simp
  | some value =>
      have number : value.text?.bind Fields.readLength? = some length ↔
          ∃ text, value.text? = some text ∧ DeclaresLength text length := by
        simp only [Option.bind_eq_some_iff, readLength?_eq_some_iff]
      simp only [Option.some.injEq, exists_and_left, exists_eq_left', ← number]
      cases value.text?.bind Fields.readLength? <;> simp

theorem declaredLength_malformed {value : FieldValue}
    (first : fields.get? .contentLength = some value)
    (noNumber : ∀ text length, value.text? = some text → ¬ DeclaresLength text length) :
    WebHost.declaredLength fields = .error .lengthMalformed := by
  have unread : value.text?.bind Fields.readLength? = none := by
    rw [Option.eq_none_iff_forall_ne_some]
    intro length number
    obtain ⟨text, shown, read⟩ := Option.bind_eq_some_iff.1 number
    exact noNumber text length shown (readLength?_eq_some_iff.1 read)
  simp [declaredLength, first, unread]

/-- A length that cannot be read is either missing or no number. -/
theorem declaredLength_error {fault : BodyFault}
    (failed : WebHost.declaredLength fields = .error fault) :
    (fault = .lengthMissing ∧ fields.get? .contentLength = none) ∨
      (fault = .lengthMalformed ∧ ∃ value, fields.get? .contentLength = some value ∧
        ∀ text length, value.text? = some text → ¬ DeclaresLength text length) := by
  cases found : fields.get? .contentLength with
  | none =>
      rw [declaredLength_missing found] at failed
      cases failed
      exact Or.inl ⟨rfl, rfl⟩
  | some value =>
      have noNumber : ∀ text length, value.text? = some text → ¬ DeclaresLength text length := by
        intro text length shown declares
        rw [declaredLength_eq_ok_iff.2 ⟨value, text, found, shown, declares⟩] at failed
        cases failed
      rw [declaredLength_malformed found noNumber] at failed
      cases failed
      exact Or.inr ⟨rfl, value, rfl, noNumber⟩

/-- The checks decide as the gate allows. -/
theorem bodyGate_readContent (limit : Nat) (method : Method) (incoming : Incoming) :
    BodyGate limit method incoming
      (gateOutcome (readContent limit method incoming)) := by
  unfold readContent
  by_cases accepts : method.acceptsBody = true
  · have takes : TakesBody method := takesBody_iff.2 accepts
    simp only [accepts, Bool.not_true, Bool.false_eq_true, if_false]
    cases read : declaredLength incoming.fields with
    | error fault =>
        rcases declaredLength_error read with ⟨rfl, missing⟩ | ⟨rfl, value, first, noNumber⟩
        · exact .lengthMissing takes missing
        · exact .lengthMalformed value takes first noNumber
    | ok length =>
        have declared : DeclaredLength incoming.fields length := declaredLength_eq_ok_iff.1 read
        dsimp only
        by_cases above : limit < length
        · rw [if_pos above]
          exact .tooLarge length takes declared above
        · have within : length ≤ limit := Nat.not_lt.1 above
          rw [if_neg above]
          by_cases zero : length = 0
          · subst zero
            exact .empty takes declared
          · have positive : 0 < length := Nat.pos_of_ne_zero zero
            rw [if_neg zero]
            cases received : incoming.body with
            | none => exact .unreadable length takes declared positive within (by simp [received])
            | some content =>
                dsimp only
                by_cases fits : content.length ≤ limit
                · rw [if_pos fits]
                  exact .whole length content takes declared positive within received fits
                · rw [if_neg fits]
                  refine .unreadable length takes declared positive within ?_
                  intro other same
                  cases received.symm.trans same
                  exact Nat.not_le.1 fits
  · have bodiless : method = .get ∨ method = .delete := by
      cases method <;> simp [Method.acceptsBody] at accepts ⊢
    rw [if_pos (by simpa using accepts)]
    exact .noBody bodiless

/-- The gate allows nothing but what the checks decide. -/
theorem readContent_of_bodyGate {outcome : Except (Nat × String) Bytes}
    (gate : BodyGate limit method incoming outcome) :
    gateOutcome (readContent limit method incoming) = outcome := by
  unfold readContent
  cases gate with
  | noBody bodiless => rcases bodiless with rfl | rfl <;> rfl
  | lengthMissing takes missing =>
      simp [takesBody_iff.1 takes, declaredLength_missing missing, gateOutcome,
        BodyFault.status, BodyFault.message, Status.lengthRequired]
  | lengthMalformed value takes first noNumber =>
      simp [takesBody_iff.1 takes, declaredLength_malformed first noNumber, gateOutcome,
        BodyFault.status, BodyFault.message, Status.badRequest]
  | tooLarge length takes declared above =>
      simp [takesBody_iff.1 takes, declaredLength_eq_ok_iff.2 declared, above, gateOutcome,
        BodyFault.status, BodyFault.message, Status.contentTooLarge]
  | empty takes declared =>
      simp [takesBody_iff.1 takes, declaredLength_eq_ok_iff.2 declared, gateOutcome]
  | whole length content takes declared positive within received fits =>
      simp [takesBody_iff.1 takes, declaredLength_eq_ok_iff.2 declared, Nat.not_lt.2 within,
        Nat.ne_of_gt positive, received, fits, gateOutcome]
  | unreadable length takes declared positive within unfit =>
      simp only [takesBody_iff.1 takes, declaredLength_eq_ok_iff.2 declared, Nat.not_lt.2 within,
        Nat.ne_of_gt positive, Bool.not_true, Bool.false_eq_true, if_false]
      cases received : incoming.body with
      | none => rfl
      | some content =>
          dsimp only
          rw [if_neg (Nat.not_le.2 (unfit content received))]
          rfl

theorem bodyGate_iff {outcome : Except (Nat × String) Bytes} :
    BodyGate limit method incoming outcome ↔
      gateOutcome (readContent limit method incoming) = outcome := by
  constructor
  · exact readContent_of_bodyGate
  · rintro rfl
    exact bodyGate_readContent limit method incoming

theorem readContent_eq_ok_iff {content : Bytes} :
    readContent limit method incoming = .ok content ↔
      BodyGate limit method incoming (.ok content) := by
  rw [bodyGate_iff]
  cases readContent limit method incoming with
  | ok other => simp [gateOutcome]
  | error fault => simp [gateOutcome]

/-- What passes the gate is within the limit. -/
theorem BodyGate.length_le {content : Bytes}
    (gate : BodyGate limit method incoming (.ok content)) : content.length ≤ limit := by
  cases gate with
  | noBody bodiless => exact Nat.zero_le limit
  | empty takes declared => exact Nat.zero_le limit
  | whole length content takes declared positive within received fits => exact fits

end Gate

/-! ### Entry points behind the gate -/

section Entries

variable {σ : Type} {router : Router σ} {files : FileSystem} {incoming : Incoming}
  {service path : String} {method : Method} {run : EntryPoint σ}

/-- An entry point runs for the method of the request. -/
theorem method_of_route_entry {server : Server σ}
    (routed : server.route files incoming = .entry service path method run) :
    incoming.method = method.name := by
  cases route_eq_iff_routed.1 routed with
  | entry _ decodedPath _ _ _ served decoded noFile found => exact served

/-- The answer to a method of entry points leaves the server with its body. -/
theorem body_finish (served : incoming.method = method.name) (fresh : FieldValue) (reply : Reply) :
    (router.finish incoming fresh reply).body = reply.body := by
  have notConnect : incoming.method ≠ "CONNECT" := by
    rw [served]
    cases method <;> decide
  have notHead : incoming.method ≠ "HEAD" := by
    rw [served]
    cases method <;> decide
  simp [Router.finish, Router.frame, notConnect, notHead]

/-- A request that is routed to an entry point reaches it only through the gate,
which has one outcome for it.  A refusal is the answer, and the application has
been neither called nor changed.  Otherwise the entry point has been called
once, with the content that passed. -/
theorem body_gate_guards_entry (fresh : FieldValue) (world : World σ) (log : List Invocation)
    (plain : isUpgradeRequest incoming.fields = false)
    (routed : router.server.route files incoming = .entry service path method run) :
    ∃ outcome, BodyGate router.server.config.limits.maxBodySize method incoming outcome ∧
      (∀ other, BodyGate router.server.config.limits.maxBodySize method incoming other →
        other = outcome) ∧
      (∀ code text, outcome = .error (code, text) →
        (router.respond files incoming fresh world).1.status.code = code ∧
        (router.respond files incoming fresh world).1.body = encode text ∧
        (router.respond files incoming fresh world).2.app = world.app ∧
        (router.logged.respond files incoming fresh (world.logged log)).2.app =
          (world.app, log)) ∧
      ∀ content, outcome = .ok content →
        content.length ≤ router.server.config.limits.maxBodySize ∧
        ∃ request : Request, request.method = method ∧ request.content = content ∧
          (router.respond files incoming fresh world).1 =
            router.finish incoming fresh
              (run request router.server.entryResponse world.app).1.reply ∧
          (router.respond files incoming fresh world).2.app =
            (run request router.server.entryResponse world.app).2 ∧
          (router.logged.respond files incoming fresh (world.logged log)).2.app =
            ((run request router.server.entryResponse world.app).2,
              log ++ [.entry service path request]) := by
  obtain ⟨replied, left, called⟩ := respond_of_not_upgrade router files plain fresh world
  have logged := router.respond_logged files incoming fresh world log
  have gate := bodyGate_readContent router.server.config.limits.maxBodySize method incoming
  rw [called] at logged
  simp only [Server.answer, Server.answerEntry, routed] at replied left
  simp only [Server.invocations, routed] at logged
  refine ⟨_, gate, fun other allowed => (readContent_of_bodyGate allowed).symm, ?_, ?_⟩
  · intro code text refused
    cases read : readContent router.server.config.limits.maxBodySize method incoming with
    | ok content => simp [read, gateOutcome] at refused
    | error fault =>
        simp only [read] at replied left logged
        simp only [read, gateOutcome, Except.error.injEq,
          Prod.mk.injEq] at refused
        obtain ⟨rfl, rfl⟩ := refused
        refine ⟨?_, ?_, left, ?_⟩
        · rw [replied, status_finish]
          rfl
        · rw [replied, body_finish (method_of_route_entry routed)]
          rfl
        · rw [logged, ← left]
          simp [World.logged]
  · intro content passed
    cases read : readContent router.server.config.limits.maxBodySize method incoming with
    | error fault => simp [read, gateOutcome] at passed
    | ok body =>
        simp only [read] at replied left logged gate
        simp only [read, gateOutcome, Except.ok.injEq] at passed
        subst passed
        refine ⟨gate.length_le, Server.entryRequest method incoming body, rfl, rfl, replied, left,
          ?_⟩
        rw [logged, ← left]
        rfl

end Entries

/-- A length with a plus sign and blanks around it lets the demonstration
service see the body. -/
theorem body_gate_guards_entry_post :
    let router : Router Demo := .standard (Server.ofConfig default).addDemo
    let incoming : Incoming :=
      { Incoming.bare "POST" "/webservice/post" with
        fields := Fields.empty.setValue .contentLength " +5 "
        body := some (encode "hello") }
    isUpgradeRequest incoming.fields = false ∧
      router.server.route default incoming = .entry "webservice" "post" .post demoPost ∧
      ∃ request : Request, request.content = encode "hello" ∧
        (router.logged.respond default incoming (.ofTexts [])
          ((World.initial Demo.initial).logged [])).2.app.2 =
            [.entry "webservice" "post" request] := by
  intro router incoming
  have plain : isUpgradeRequest incoming.fields = false := by decide
  have received : incoming.Received := ⟨"/webservice/post", by decide⟩
  have routed : router.server.route default incoming =
      .entry "webservice" "post" .post demoPost :=
    (route_eq_iff_firstRule received).2
      (.entry .post "/webservice/post" "webservice" "post" (demoService "webservice" "") demoPost
        rfl (by decide) nofun ⟨by decide, by decide, by decide⟩ rfl rfl)
  have passes : BodyGate router.server.config.limits.maxBodySize .post incoming
      (.ok (encode "hello")) := bodyGate_iff.2 rfl
  obtain ⟨outcome, _, unique, _, passed⟩ :=
    body_gate_guards_entry (.ofTexts []) (World.initial Demo.initial) [] plain routed
  obtain ⟨_, request, _, seen, _, _, logged⟩ := passed _ (unique _ passes).symm
  exact ⟨plain, routed, request, seen, by rw [logged]; rfl⟩

end WebHost
