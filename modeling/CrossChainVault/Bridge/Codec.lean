import CrossChainVault.Evm.Coordinator
import CrossChainVault.Evm.Steps
import CrossChainVault.Protocol.Validation

set_option autoImplicit false

/- The codec of the contracts and the one of the program apply the same rules. -/

namespace Bridge

open Result Protocol Evm.ProtocolCodec

theorem header_rules {header : Header} :
    header.validate = .ok () ↔ validateHeader header = .ok () := by
  simp only [Header.validate, validateHeader, bind_eq_ok, rejectIf_eq_ok, exists_const, not_or,
    and_assoc]

theorem allocate_rules {body : AllocateBody} {publishedAt : Unsigned 64} :
    body.validate publishedAt = .ok () ↔ validateAllocate body publishedAt = .ok () := by
  simp only [AllocateBody.validate, validateAllocate, bind_eq_ok, rejectIf_eq_ok, exists_const,
    not_or, and_assoc]
  constructor
  · rintro ⟨transfer, amount, minimum, above, deadline, version⟩
    exact ⟨transfer, version, amount, minimum, above, deadline⟩
  · rintro ⟨transfer, version, amount, minimum, above, deadline⟩
    exact ⟨transfer, amount, minimum, above, deadline, version⟩

theorem recall_rules {body : RecallBody} {publishedAt : Unsigned 64} :
    body.validate publishedAt = .ok () ↔ validateRecall body publishedAt = .ok () := by
  simp only [RecallBody.validate, validateRecall, bind_eq_ok, rejectIf_eq_ok, exists_const, not_or,
    and_assoc]
  constructor
  · rintro ⟨transfer, amount, minimum, above, deadline, version⟩
    exact ⟨transfer, version, amount, minimum, above, deadline⟩
  · rintro ⟨transfer, version, amount, minimum, above, deadline⟩
    exact ⟨transfer, amount, minimum, above, deadline, version⟩

theorem resolve_rules {body : ResolveBody} {sequence : Unsigned 64} :
    body.validate sequence = .ok () ↔ validateResolve body sequence = .ok () := by
  simp only [ResolveBody.validate, validateResolve, bind_eq_ok, rejectIf_eq_ok, exists_const, not_or,
    and_assoc]
  constructor
  · rintro ⟨transfer, target, before, version⟩
    exact ⟨transfer, version, target, before⟩
  · rintro ⟨transfer, version, target, before⟩
    exact ⟨transfer, target, before, version⟩

theorem report_rules {body : RemoteReportBody} {observedAt : Unsigned 64} :
    body.validate observedAt = .ok () ↔ validateRemoteReport body observedAt = .ok () := by
  simp only [RemoteReportBody.validate, validateRemoteReport, bind_eq_ok, rejectIf_eq_ok,
    exists_const, not_or, and_assoc]

theorem recallSent_rules {body : RecallSentBody} {observedAt : Unsigned 64} :
    body.validate observedAt = .ok () ↔ validateRecallSent body observedAt = .ok () := by
  simp only [RecallSentBody.validate, validateRecallSent, bind_eq_ok, rejectIf_eq_ok, exists_const,
    not_or, and_assoc]
  constructor
  · rintro ⟨transfer, principal, loss, destination, sentAt, version⟩
    exact ⟨transfer, version, destination, principal, loss, sentAt⟩
  · rintro ⟨transfer, version, destination, principal, loss, sentAt⟩
    exact ⟨transfer, principal, loss, destination, sentAt, version⟩

/-- Within its claim a credit leaves the same shortfall in both codecs. -/
theorem shortfall_rules {body : TransportSettlementBody}
    (within : body.creditedAmount.raw ≤ body.claimAmount.raw) :
    Evm.sub body.claimAmount body.creditedAmount = .ok body.shortfall :=
  Evm.sub_ok.mpr (Nat.sub_add_cancel within)

theorem settlement_rules {body : TransportSettlementBody} :
    body.validate = .ok () ↔ validateTransportSettlement body = .ok () := by
  by_cases within : body.creditedAmount.raw ≤ body.claimAmount.raw
  · have shortfall := shortfall_rules within
    simp only [TransportSettlementBody.validate, validateTransportSettlement, bind_eq_ok,
      rejectIf_eq_ok, exists_const, not_or, and_assoc, shortfall, Except.ok.injEq,
      exists_eq_left']
    cases body.kind with
    | closed =>
        simp only [bind_eq_ok, rejectIf_eq_ok, exists_const]
        constructor
        · rintro ⟨transfer, claim, credit, impaired, version⟩
          exact ⟨transfer, version, claim, credit, impaired⟩
        · rintro ⟨transfer, version, claim, credit, impaired⟩
          exact ⟨transfer, claim, credit, impaired, version⟩
    | recovered =>
        simp only [bind_eq_ok, rejectIf_eq_ok, exists_const]
        constructor
        · rintro ⟨transfer, claim, credit, impaired, version⟩
          exact ⟨transfer, version, claim, credit, impaired⟩
        · rintro ⟨transfer, version, claim, credit, impaired⟩
          exact ⟨transfer, claim, credit, impaired, version⟩
  · -- Both codecs refuse a credit above the claim.
    have above : body.claimAmount < body.creditedAmount := Nat.lt_of_not_le within
    simp only [TransportSettlementBody.validate, validateTransportSettlement, bind_eq_ok,
      rejectIf_eq_ok, exists_const, above, not_true_eq_false, false_and, and_false]

end Bridge
