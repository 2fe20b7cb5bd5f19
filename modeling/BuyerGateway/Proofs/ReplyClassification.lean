import BuyerGateway.Proofs.RequestTexts
import BuyerGateway.Proofs.Shape.Faults
import Mathlib.Logic.Relation
/-!
Raw replies and what they are taken for. A request is posted once, and its reply is one of four
things, told from the status first, then from whether the bytes as a whole read as an
acknowledgement, then from the status inside it. Half of an acknowledgement is none.
-/
namespace BuyerGateway

/-! ### Bodies that are no acknowledgements -/

namespace AckStatus

def ackSlot : (Fields.required "ack" (.wrapped "status" shape) .done).Slot "ack"
    (.wrapped "status" shape) := .required

def statusSlot : (Fields.required "status" shape .done).Slot "status" shape := .required

/-- A message that says nothing about the status, or names none that there is. -/
inductive Unstated (m : Json) : Prop
  | noAck (h : ackSlot.valuesIn m = [])
  | noStatus {a : Json} (h : ackSlot.valuesIn m = [a]) (hs : statusSlot.valuesIn a = [])
  | unknown {a v : Json} (h : ackSlot.valuesIn m = [a]) (hs : statusSlot.valuesIn a = [v])
      (hv : ∀ s : AckStatus, v.name? ≠ some s.name)

theorem Unstated.fault {m : Json} (h : Unstated m) (room : Nat) : messageShape.Fault room m := by
  cases h with
  | noAck h => exact .record (.missing ackSlot rfl h)
  | noStatus h hs => exact .record (.part ackSlot h (.record (.missing statusSlot rfl hs)))
  | unknown h hs hv =>
    have hname : shape.Fault (room - 1 - 1) _ := .name fun s _ => hv s
    exact .record (.part ackSlot h (.record (.part statusSlot hs hname)))

end AckStatus

namespace Acknowledgement

def fields : Fields (Option Context × AckStatus × Option ProtocolError × Unit) :=
  .optional "context" Context.shape <| .required "message" AckStatus.messageShape <|
    .optional "error" ProtocolError.shape .done

def contextSlot : fields.Slot "context" (.nullable Context.shape) := .defaulted

def messageSlot : fields.Slot "message" AckStatus.messageShape := .behindDefaulted .required

def errorSlot : fields.Slot "error" (.nullable ProtocolError.shape) :=
  .behindDefaulted (.behindRequired .defaulted)

/-- Every record inside an acknowledgement is read by the very fields that it is written by. -/
theorem exact_shape : shape.Exact := by
  repeat' first
    | exact fun _ => rfl
    | constructor

/-- Bodies that are no acknowledgement, whatever part of one is in them: no JSON, or no JSON as a
whole; no status that there is; or a context or an error that is none. -/
inductive Unreadable : List UInt8 → Prop
  | empty : Unreadable []
  | noJson {body : List UInt8} (h : Json.read? body = none) : Unreadable body
  | trailing {body rest : List UInt8} (h : (shape.ofBytes? body).isSome)
      (hrest : ∃ b ∈ rest, Json.Lexeme.isWhite b = false) : Unreadable (body ++ rest)
  | noMessage {body : List UInt8} {u : Json} (h : Json.read? body = some u)
      (hm : messageSlot.valuesIn u = []) : Unreadable body
  | unstated {body : List UInt8} {u m : Json} (h : Json.read? body = some u)
      (hm : messageSlot.valuesIn u = [m]) (hs : AckStatus.Unstated m) : Unreadable body
  | context {body : List UInt8} {u v : Json} (h : Json.read? body = some u)
      (hc : contextSlot.valuesIn u = [v]) (hv : v ≠ .null)
      (hno : Context.shape.decode (Shape.roomOfText - 1) v = none) : Unreadable body
  | error {body : List UInt8} {u v : Json} (h : Json.read? body = some u)
      (he : errorSlot.valuesIn u = [v]) (hv : v ≠ .null)
      (hno : ProtocolError.shape.decode (Shape.roomOfText - 1) v = none) : Unreadable body

/-- A body reads as an acknowledgement unless it is no JSON or its tree has a fault. -/
theorem ofBytes?_eq_none_iff {body : List UInt8} :
    shape.ofBytes? body = none ↔
      Json.read? body = none ∨
        ∃ u, Json.read? body = some u ∧ shape.Fault Shape.roomOfText u := by
  rw [Shape.ofBytes?]
  cases h : Json.read? body with
  | none => exact ⟨fun _ => .inl rfl, fun _ => rfl⟩
  | some u =>
    rw [Option.bind_some, Shape.decode_eq_none_iff]
    constructor
    · intro hfault
      exact .inr ⟨u, rfl, hfault⟩
    · rintro (hno | ⟨u', hu, hfault⟩)
      · cases hno
      · cases hu
        exact hfault

theorem ofBytes?_of_fault {body : List UInt8} {u : Json} (h : Json.read? body = some u)
    (hf : Fields.Fault .plain fields Shape.roomOfText u) : shape.ofBytes? body = none :=
  ofBytes?_eq_none_iff.2 (.inr ⟨u, h, .record hf⟩)

/-- Behind an acknowledgement there may be white space alone. -/
theorem ofBytes?_append {body rest : List UInt8} (h : (shape.ofBytes? body).isSome)
    (hrest : ∃ b ∈ rest, Json.Lexeme.isWhite b = false) : shape.ofBytes? (body ++ rest) = none := by
  obtain ⟨ack, hack⟩ := Option.isSome_iff_exists.1 h
  obtain ⟨u, hu, hread⟩ := Option.bind_eq_some_iff.1 hack
  have hcontainer : u.Container := Shape.container_of_decode_record hread
  rw [Shape.ofBytes?, Json.read?_append_eq_none hu hcontainer hrest]
  rfl

theorem Unreadable.ofBytes?_eq_none {body : List UInt8} (h : Unreadable body) :
    shape.ofBytes? body = none := by
  cases h with
  | empty => rfl
  | noJson h => exact ofBytes?_eq_none_iff.2 (.inl h)
  | trailing h hrest => exact ofBytes?_append h hrest
  | noMessage h hm => exact ofBytes?_of_fault h (.missing messageSlot rfl hm)
  | unstated h hm hs => exact ofBytes?_of_fault h (.part messageSlot hm (hs.fault _))
  | context h hc hv hno =>
    have hfault := Shape.decode_eq_none_iff.1 hno
    exact ofBytes?_of_fault h (.part contextSlot hc (.present hv hfault))
  | error h he hv hno =>
    have hfault := Shape.decode_eq_none_iff.1 hno
    exact ofBytes?_of_fault h (.part errorSlot he (.present hv hfault))

/-- However many unknown keys are added to a tree, taken out of it or given other values, what is
read of it stays the same. -/
theorem decode_eq_of_extended {u u' : Json} (h : Relation.EqvGen shape.Extended u u') (room : Nat) :
    shape.decode room u = shape.decode room u' := by
  induction h with
  | rel u u' hstep => exact hstep.decode_eq WireFormat.acknowledgement.sound exact_shape room
  | refl u => rfl
  | symm u u' _ ih => exact ih.symm
  | trans u u' u'' _ _ ih ih' => exact ih.trans ih'

theorem ofBytes?_eq_of_extended {body body' : List UInt8} {u u' : Json}
    (hu : Json.read? body = some u) (hu' : Json.read? body' = some u')
    (h : Relation.EqvGen shape.Extended u u') : shape.ofBytes? body = shape.ofBytes? body' := by
  rw [Shape.ofBytes?, Shape.ofBytes?, hu, hu']
  exact decode_eq_of_extended h _

end Acknowledgement

/-! ### The four outcomes -/

namespace Counterparty

variable {reply : Reply}

theorem acknowledged_eq_error_iff {cause : CounterpartyFailure} :
    acknowledged reply = .error cause ↔ Fails reply cause := by
  constructor
  · intro h
    have hmeans := means_acknowledged reply
    rw [h] at hmeans
    cases hmeans with
    | failed hfails => exact hfails
  · exact acknowledged_of_fails

theorem acknowledged_eq_ok_iff {ack : Acknowledgement} :
    acknowledged reply = .ok ack ↔
      ∃ status body, reply = .answer status body ∧ (200 ≤ status ∧ status < 300) ∧
        Acknowledgement.shape.ofBytes? body = some ack ∧ ack.status = .ack := by
  constructor
  · intro h
    have hmeans := means_acknowledged reply
    rw [h] at hmeans
    cases hmeans with
    | acknowledged hack =>
      obtain ⟨status, body, read, rfl, h200, h300, hb, ha⟩ := hack
      -- The acknowledgement that is given is the one that was read.
      have hread := acknowledged_of_read ⟨h200, h300⟩ hb ha
      cases h.symm.trans hread
      exact ⟨status, body, rfl, ⟨h200, h300⟩, hb, ha⟩
  · rintro ⟨status, body, rfl, hs, hb, ha⟩
    exact acknowledged_of_read hs hb ha

theorem fails_internal_iff :
    Fails reply .internal ↔ (∃ detail, reply = .unreachable detail) ∨ reply = .timeout ∨
      ∃ status body, reply = .answer status body ∧ ¬ (200 ≤ status ∧ status < 300) := by
  constructor
  · intro h
    cases h with
    | unreachable => exact .inl ⟨_, rfl⟩
    | timeout => exact .inr (.inl rfl)
    | status hs => exact .inr (.inr ⟨_, _, rfl, hs⟩)
  · rintro (⟨detail, rfl⟩ | rfl | ⟨status, body, rfl, hs⟩)
    · exact .unreachable
    · exact .timeout
    · exact .status hs

theorem fails_nullResponse_iff :
    Fails reply .nullResponse ↔
      ∃ status body, reply = .answer status body ∧ (200 ≤ status ∧ status < 300) ∧
        Acknowledgement.shape.ofBytes? body = none := by
  constructor
  · intro h
    cases h with
    | unread hs hb => exact ⟨_, _, rfl, hs, hb⟩
  · rintro ⟨status, body, rfl, hs, hb⟩
    exact .unread hs hb

theorem fails_nack_iff :
    Fails reply .nack ↔
      ∃ status body ack, reply = .answer status body ∧ (200 ≤ status ∧ status < 300) ∧
        Acknowledgement.shape.ofBytes? body = some ack ∧ ack.status = .nack := by
  constructor
  · intro h
    cases h with
    | nack hs hb ha => exact ⟨_, _, _, rfl, hs, hb, ha⟩
  · rintro ⟨status, body, ack, rfl, hs, hb, ha⟩
    exact .nack hs hb ha

/-- The replies with the same status and with bodies of which the same is read come to the same. -/
theorem acknowledged_answer_congr {status : Nat} {body body' : List UInt8}
    (h : Acknowledgement.shape.ofBytes? body = Acknowledgement.shape.ofBytes? body') :
    acknowledged (.answer status body) = acknowledged (.answer status body') := by
  rw [acknowledged, acknowledged, Response.ofReply, Response.ofReply, h]

end Counterparty

namespace Gateway

/-- A request that was built is posted once, and the reply alone tells which of four outcomes it
has. A body that does not read as an acknowledgement is none at all, and keys that nobody knows make
no difference at any place of it. -/
theorem replies_are_classified (registry : Lookup → Found) (server : Server) (s : Stores)
    (base : String) {payload : Payload} {context : Context} {request : Request}
    (hb : payload.request context = .ok request) :
    let world : World := ⟨registry, Counterparty.post server⟩
    let o := (dispatch base context payload).run.run world s
    let reply := server (Counterparty.slashed base ++ request.action.name)
      request.toJson.render.toUTF8.toList
    let read := Acknowledgement.shape.ofBytes?
    (o.effects = [.call base request] ∧ world.network base request = reply ∧ o.stores = s) ∧
    (o.result = .error .internal ↔ (∃ detail, reply = .unreachable detail) ∨ reply = .timeout ∨
      ∃ status body, reply = .answer status body ∧ ¬ (200 ≤ status ∧ status < 300)) ∧
    (o.result = .error .nullResponse ↔ ∃ status body, reply = .answer status body ∧
      (200 ≤ status ∧ status < 300) ∧ read body = none) ∧
    (o.result = .error .nack ↔ ∃ status body ack, reply = .answer status body ∧
      (200 ≤ status ∧ status < 300) ∧ read body = some ack ∧ ack.status = .nack) ∧
    (∀ ack, o.result = .ok ack ↔ ∃ status body, reply = .answer status body ∧
      (200 ≤ status ∧ status < 300) ∧ read body = some ack ∧ ack.status = .ack) ∧
    (∀ body, Acknowledgement.Unreadable body → read body = none) ∧
    (∀ body, read body = none ↔ Json.read? body = none ∨
      ∃ u, Json.read? body = some u ∧ Acknowledgement.shape.Fault Shape.roomOfText u) ∧
    ∀ (server' : Server) status body body' u u', reply = .answer status body →
      server' (Counterparty.slashed base ++ request.action.name)
        request.toJson.render.toUTF8.toList = .answer status body' →
      Json.read? body = some u → Json.read? body' = some u' →
      Relation.EqvGen Acknowledgement.shape.Extended u u' →
      ((dispatch base context payload).run.run ⟨registry, Counterparty.post server'⟩ s).result =
        o.result := by
  intro world o reply read
  have ho : o = ⟨Counterparty.acknowledged reply, [.call base request], s⟩ := by
    have hrun := run_dispatch world context payload s base
    rw [hb] at hrun
    exact hrun
  rw [ho]
  refine ⟨⟨rfl, rfl, rfl⟩, ?_, ?_, ?_, ?_, ?_, ?_, ?_⟩
  · exact Counterparty.acknowledged_eq_error_iff.trans Counterparty.fails_internal_iff
  · exact Counterparty.acknowledged_eq_error_iff.trans Counterparty.fails_nullResponse_iff
  · exact Counterparty.acknowledged_eq_error_iff.trans Counterparty.fails_nack_iff
  · exact fun ack => Counterparty.acknowledged_eq_ok_iff
  · exact fun body h => h.ofBytes?_eq_none
  · exact fun body => Acknowledgement.ofBytes?_eq_none_iff
  · intro server' status body body' u u' hreply hreply' hu hu' hextended
    have hsame := Acknowledgement.ofBytes?_eq_of_extended hu hu' hextended
    have hpost : Counterparty.post server' base request = .answer status body' := hreply'
    rw [run_dispatch, hb]
    simp only [hpost, hreply]
    exact (Counterparty.acknowledged_answer_congr hsame).symm

namespace Sample

/-- A message that acknowledges, beside a context that is none. -/
def halfReadable : Json :=
  .object [("context", .integer 1), ("message", AckStatus.messageShape.encode .ack)]

theorem legible_halfReadable : Json.Legible halfReadable := by
  have hmessage : Json.Legible (AckStatus.messageShape.encode .ack) := by
    have hstatus : Json.Legible (.object [("status", .text "ACK")]) :=
      .object (List.forall_mem_singleton.2 (.text "ACK"))
    exact .object (List.forall_mem_singleton.2 hstatus)
  have hcontext : Json.Legible (.integer 1) := .natural (Nat.one_lt_two_pow (by decide))
  exact .object (List.forall_mem_cons.2 ⟨hcontext, List.forall_mem_singleton.2 hmessage⟩)

def searchContext : Context := defaults.context (.request .search) "t" "m" noon

end Sample

/-- A search that is answered with half of an acknowledgement has no answer. -/
theorem half_readable_reply_is_none :
    ∃ request, Payload.request (.search {}) Sample.searchContext = .ok request ∧
      let server : Server := fun _ _ => .answer 200 Sample.halfReadable.render.toUTF8.toList
      let o := (dispatch "https://b" Sample.searchContext (.search {})).run.run
        ⟨fun _ => .ok [], Counterparty.post server⟩ .empty
      o.effects = [.call "https://b" request] ∧ o.result = .error .nullResponse := by
  obtain ⟨request, hb⟩ : ∃ r, Payload.request (.search {}) Sample.searchContext = .ok r := ⟨_, rfl⟩
  refine ⟨request, hb, ?_⟩
  intro server o
  obtain ⟨⟨heffects, -, -⟩, -, hnull, -, -, hunreadable, -⟩ :=
    replies_are_classified (fun _ => .ok []) server .empty "https://b" hb
  have hbody : Acknowledgement.Unreadable Sample.halfReadable.render.toUTF8.toList :=
    .context (Json.parse?_render Sample.legible_halfReadable) rfl nofun rfl
  exact ⟨heffects, hnull.2 ⟨200, _, rfl, by decide, hunreadable _ hbody⟩⟩

end Gateway

end BuyerGateway
