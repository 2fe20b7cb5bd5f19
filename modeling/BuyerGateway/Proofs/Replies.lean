import BuyerGateway.Counterparty
/-!
What the reply of a counterparty amounts to, told from its status and its bytes. A reply
acknowledges or fails in exactly one of three ways.
-/
namespace BuyerGateway.Counterparty

/-- A status of success, over a body that reads as an acknowledgement and says so. -/
def Acknowledges (reply : Reply) : Prop :=
  ∃ status body ack, reply = .answer status body ∧ 200 ≤ status ∧ status < 300 ∧
    Acknowledgement.shape.ofBytes? body = some ack ∧ ack.status = .ack

/-- Why a reply does not acknowledge. -/
inductive Fails : Reply → CounterpartyFailure → Prop
  | unreachable {detail : String} : Fails (.unreachable detail) .internal
  | timeout : Fails .timeout .internal
  | status {status : Nat} {body : List UInt8} (h : ¬ (200 ≤ status ∧ status < 300)) :
      Fails (.answer status body) .internal
  | unread {status : Nat} {body : List UInt8} (hs : 200 ≤ status ∧ status < 300)
      (hb : Acknowledgement.shape.ofBytes? body = none) : Fails (.answer status body) .nullResponse
  | nack {status : Nat} {body : List UInt8} {ack : Acknowledgement}
      (hs : 200 ≤ status ∧ status < 300) (hb : Acknowledgement.shape.ofBytes? body = some ack)
      (ha : ack.status = .nack) : Fails (.answer status body) .nack

theorem isSuccess_iff {status : Nat} : isSuccess status = true ↔ 200 ≤ status ∧ status < 300 := by
  simp only [isSuccess, Bool.and_eq_true, decide_eq_true_eq]

/-- What a reply amounts to, in one of these two ways. -/
inductive Means (reply : Reply) : Except CounterpartyFailure Acknowledgement → Prop
  | acknowledged {ack : Acknowledgement} (h : Acknowledges reply) : Means reply (.ok ack)
  | failed {cause : CounterpartyFailure} (h : Fails reply cause) : Means reply (.error cause)

theorem means_acknowledged (reply : Reply) : Means reply (acknowledged reply) := by
  cases reply with
  | unreachable detail => exact .failed .unreachable
  | timeout => exact .failed .timeout
  | answer status body =>
    rw [acknowledged, Response.ofReply]
    simp only [Response.classify]
    split
    · rename_i hs
      have hs := isSuccess_iff.1 hs
      cases hb : Acknowledgement.shape.ofBytes? body with
      | none => exact .failed (.unread hs hb)
      | some ack =>
        simp only
        split
        · rename_i ha
          exact .failed (.nack hs hb ha)
        · rename_i ha
          have hack : ack.status = .ack := by
            cases hst : ack.status
            · rfl
            · exact absurd hst ha
          exact .acknowledged ⟨status, body, ack, rfl, hs.1, hs.2, hb, hack⟩
    · rename_i hs
      exact .failed (.status fun h => hs (isSuccess_iff.2 h))

theorem acknowledged_of_read {status : Nat} {body : List UInt8} {ack : Acknowledgement}
    (hs : 200 ≤ status ∧ status < 300) (hb : Acknowledgement.shape.ofBytes? body = some ack)
    (ha : ack.status = .ack) : acknowledged (.answer status body) = .ok ack := by
  simp [acknowledged, Response.ofReply, Response.classify, isSuccess_iff.2 hs, hb, ha]

theorem acknowledged_of_acknowledges {reply : Reply} (h : Acknowledges reply) :
    ∃ ack, acknowledged reply = .ok ack := by
  obtain ⟨status, body, ack, rfl, h200, h300, hb, ha⟩ := h
  exact ⟨ack, acknowledged_of_read ⟨h200, h300⟩ hb ha⟩

theorem acknowledged_of_fails {reply : Reply} {cause : CounterpartyFailure}
    (h : Fails reply cause) : acknowledged reply = .error cause := by
  cases h with
  | unreachable => rfl
  | timeout => rfl
  | status hs =>
    have hno := mt isSuccess_iff.1 hs
    simp [acknowledged, Response.ofReply, Response.classify, hno]
  | unread hs hb =>
    simp [acknowledged, Response.ofReply, Response.classify, isSuccess_iff.2 hs, hb]
  | nack hs hb ha =>
    simp [acknowledged, Response.ofReply, Response.classify, isSuccess_iff.2 hs, hb, ha]

end BuyerGateway.Counterparty
