/-
Module: WebHost.Proofs.Server.CommonHeaders
Purpose: Which fields of a reply the server touches before it sends it.
Main exports:
  commonNames, values_finish
-/
import WebHost.Proofs.Header.Values
import WebHost.Server.Router

namespace WebHost

variable {σ : Type}

/-- The fields that are added to every reply that lacks them. -/
def commonNames : List FieldName :=
  [.contentLength, .server, .allowOrigin, .acceptCharset, .requestId]

/-- A reply leaves the server with all its other fields as they were. -/
theorem values_finish (router : Router σ) (incoming : Incoming) (fresh : FieldValue)
    (reply : Reply) {name : FieldName} (own : name ∉ commonNames) :
    (router.finish incoming fresh reply).fields.values name = reply.fields.values name := by
  simp only [commonNames, List.mem_cons, List.not_mem_nil, or_false, not_or] at own
  obtain ⟨length, server, origin, charset, requestId⟩ := own
  have framed : (Router.frame incoming.method reply).fields.values name =
      reply.fields.values name := by
    unfold Router.frame
    split
    · rfl
    · exact values_setIfAbsent_of_ne _ _ (Ne.symm length)
  unfold Router.finish Router.addCommon
  rw [values_setIfAbsent_of_ne _ _ (Ne.symm requestId),
    values_setIfAbsent_of_ne _ _ (Ne.symm charset), values_setIfAbsent_of_ne _ _ (Ne.symm origin),
    values_setIfAbsent_of_ne _ _ (Ne.symm server), framed]

end WebHost
