import BuyerGateway.Proofs.Shape.Leniency
import BuyerGateway.Proofs.WireFormats
import Mathlib.Logic.Relation
/-!
Partial and extended callbacks. No callback is refused for a key that the gateway does not
know, nor for the lack of a part of its message: what is left out is read as blank, and all
else is read as before.
-/
namespace BuyerGateway

open Shape

namespace Callback

/-- The fields of a whole callback. -/
def envelope (e : Exchange) : Fields (Context × Option e.Answer × Option ProtocolError × Unit) :=
  .required "context" Context.shape <| .optional "message" e.answerShape <|
    .optional "error" ProtocolError.shape .done

def messageSlot (e : Exchange) : (envelope e).Slot "message" (.nullable e.answerShape) :=
  .behindRequired .defaulted

def errorSlot (e : Exchange) : (envelope e).Slot "error" (.nullable ProtocolError.shape) :=
  .behindRequired (.behindDefaulted .defaulted)

/-- Every record inside a callback is read by the very fields that it is written by. -/
theorem exact_shape (e : Exchange) : (shape e).Exact := by
  cases e <;> repeat' first
    | exact fun _ => rfl
    | constructor

/-- Every record inside a message may be given in part. -/
theorem lenient_answer (e : Exchange) : e.answerShape.Lenient := by
  cases e <;> repeat' first
    | rfl
    | constructor

/-- The second tree has one key more than the first in one of the records of the callback, which is
none of this record's own; any value is written under it. -/
inductive Extended (e : Exchange) : Json → Json → Prop
  | intro {γ δ : Type} {fields : Fields δ} {parts : γ → δ} {whole : δ → γ}
      {whole_parts : ∀ a, whole (parts a) = a} {key : String} (hkey : key ∉ fields.keys)
      {x u u' : Json} (before after : List (String × Json))
      {lift : (γ → γ) → Callback e → Callback e}
      (p : Place (.record .plain fields parts whole whole_parts) (.object (before ++ after))
        (.object (before ++ (key, x) :: after)) (shape e) u u' lift) : Extended e u u'

/-- The second tree lacks a part of the payload: a field of a record inside the message, the message
itself, or the error. The callback that it stands for differs in this part alone, which is blank. -/
inductive Reduced (e : Exchange) : Json → Json → (Callback e → Callback e) → Prop
  | field {γ δ κ : Type} {fields : Fields δ} {parts : γ → δ} {whole : δ → γ}
      {whole_parts : ∀ a, whole (parts a) = a} {key : String} {t : Shape κ}
      (slot : fields.Slot key t) {d : κ} (hblank : t.blank? = some d)
      {given : List (String × Json)} {v v' u u' : Json} {lift : (γ → γ) → e.Answer → e.Answer}
      (p : Place (.record .plain fields parts whole whole_parts) (.object given)
        (.object (Json.remove key given)) e.answerShape v v' lift)
      (holds : (messageSlot e).Holds v v' u u') :
      Reduced e u u' fun c => { c with
        message := c.message.map (lift fun a => whole (slot.modify (fun _ => d) (parts a))) }
  | message {given : List (String × Json)} :
      Reduced e (.object given) (.object (Json.remove "message" given)) fun c =>
        { c with message := none }
  | error {given : List (String × Json)} :
      Reduced e (.object given) (.object (Json.remove "error" given)) fun c =>
        { c with error := none }

/-- The second tree is the first with one key more or one part less. -/
def Altered (e : Exchange) (u u' : Json) : Prop := Extended e u u' ∨ ∃ change, Reduced e u u' change

variable {e : Exchange} {room : Nat} {c : Callback e} {u u' : Json}

theorem Extended.decode (hu : Extended e u u') (h : (shape e).decode room u = some c) :
    (shape e).decode room u' = some c := by
  obtain ⟨hkey, before, after, p⟩ := hu
  have hextended : (shape e).Extended u u' := .intro hkey before after p
  rw [← hextended.decode_eq (WireFormat.callback e).sound (exact_shape e)]
  exact h

theorem Reduced.decode {change : Callback e → Callback e} (hu : Reduced e u u' change)
    (h : (shape e).decode room u = some c) : (shape e).decode room u' = some (change c) := by
  have hexact := exact_shape e
  have hsound := (WireFormat.callback e).sound
  have hkeys : (envelope e).keys.Nodup := of_decide_eq_true (Bool.and_eq_true_iff.1 hsound).1
  cases hu with
  | @field γ δ κ fields parts whole whole_parts key t slot d hblank given v v' _ _ lift p holds =>
    -- A place in the message is one in the whole callback.
    have q : Place (.record .plain fields parts whole whole_parts) (.object given)
        (.object (Json.remove key given)) (shape e) u u'
        fun f c => { c with message := c.message.map (lift f) } :=
      .field (messageSlot e) (.present p) holds
    have hinner : fields.keys.Nodup :=
      of_decide_eq_true (Bool.and_eq_true_iff.1 (q.sound hsound)).1
    obtain ⟨d', hfallback, hblank'⟩ := slot.exists_blank (p.lenient (lenient_answer e))
    have hd : slot.fallback? = some d := by rw [hfallback, ← hblank', hblank]
    exact q.decode nofun nofun
      (fun room a ha => decode_remove slot hinner (q.exact hexact).1 hd ha) hsound hexact h
  | message => exact decode_remove (messageSlot e) hkeys hexact.1 rfl h
  | error => exact decode_remove (errorSlot e) hkeys hexact.1 rfl h

theorem Altered.decode (hu : Altered e u u') (h : ((shape e).decode room u).isSome) :
    ((shape e).decode room u').isSome := by
  obtain ⟨c, hc⟩ := Option.isSome_iff_exists.1 h
  apply Option.isSome_iff_exists.2
  rcases hu with hu | ⟨change, hu⟩
  · exact ⟨c, hu.decode hc⟩
  · exact ⟨change c, hu.decode hc⟩

/-- However often keys are added and parts left out, a tree that is read as a callback stays one. -/
theorem decode_of_altered (hu : Relation.ReflTransGen (Altered e) u u')
    (h : ((shape e).decode room u).isSome) : ((shape e).decode room u').isSome := by
  induction hu with
  | refl => exact h
  | tail _ hstep ih => exact hstep.decode ih

/-- Partial and extended callbacks are read, in each exchange and at every place of every tree that
is read as a callback: with a key that a record does not know, as the same callback; without a part
of the payload, as the callback in which this part alone is blank. -/
theorem partial_callbacks_read (e : Exchange) :
    (∀ u u' c, Extended e u u' → (shape e).decode roomOfText u = some c →
      (shape e).decode roomOfText u' = some c) ∧
    (∀ u u' c change, Reduced e u u' change → (shape e).decode roomOfText u = some c →
      (shape e).decode roomOfText u' = some (change c)) ∧
    (∀ {γ δ κ : Type} {fields : Fields δ} {parts : γ → δ} {whole : δ → γ}
      {whole_parts : ∀ a, whole (parts a) = a} {w w' v v' : Json}
      {lift : (γ → γ) → e.Answer → e.Answer} {key : String} {t : Shape κ},
      Place (.record .plain fields parts whole whole_parts) w w' e.answerShape v v' lift →
      fields.Slot key t → ∃ d, t.blank? = some d) ∧
    ∀ body body' u u', Json.read? body = some u → Json.read? body' = some u' →
      Relation.ReflTransGen (Altered e) u u' →
      ((shape e).ofBytes? body).isSome → ((shape e).ofBytes? body').isSome := by
  refine ⟨fun u u' c hu h => hu.decode h, fun u u' c change hu h => hu.decode h, ?_, ?_⟩
  · intro γ δ κ fields parts whole whole_parts w w' v v' lift key t p slot
    obtain ⟨d, -, hblank⟩ := slot.exists_blank (p.lenient (lenient_answer e))
    exact ⟨d, hblank⟩
  · intro body body' u u' hu hu' haltered h
    rw [ofBytes?, hu, Option.bind_some] at h
    rw [ofBytes?, hu', Option.bind_some]
    exact decode_of_altered haltered h

namespace Sample

/-- A selection of one item in some quantity. -/
def selection (quantity : Quantity) : Callback .select where
  context := ⟨"d", "c", "y", .callback .select, "v", "i", "u", some "b", none, "t", "m",
    Gateway.Sample.noon⟩
  message := some ⟨{ items := [{ quantity := some quantity }] }⟩
  error := none

/-- The selection as it may be written, with the context as a list. -/
def selectionTree (quantity : List (String × Json)) : Json :=
  .object [
    ("context", .array [.text "d", .text "c", .text "y", .text "on_select", .text "v", .text "i",
      .text "u", .text "b", .null, .text "t", .text "m", .text "2024-01-02T12:00:00Z"]),
    ("message", .object [("selected",
      .object [("items", .array [.object [("quantity", .object quantity)]])])])]

end Sample

/-- A quantity is read with a key that nobody knows, and as zero without its count. -/
theorem quantity_may_be_altered :
    (shape .select).decode roomOfText
        (Sample.selectionTree [("count", .integer 2), ("dozen", .unreadable)]) =
      some (Sample.selection ⟨2, none⟩) ∧
    (shape .select).decode roomOfText (Sample.selectionTree []) =
      some (Sample.selection ⟨0, none⟩) := by
  have hread : (shape .select).decode roomOfText (Sample.selectionTree [("count", .integer 2)]) =
      some (Sample.selection ⟨2, none⟩) := by
    decide +kernel
  -- Where the quantity stands in the message, and where the message stands.
  have place (w w' : List (String × Json)) :
      Place Quantity.shape (.object w) (.object w') SelectAnswer.shape
        (.object [("selected", .object [("items", .array [.object [("quantity", .object w)]])])])
        (.object [("selected", .object [("items", .array [.object [("quantity", .object w')]])])])
        fun f a => { selected := { a.selected with items := a.selected.items.modify 0 fun i =>
          { i with quantity := i.quantity.map f } } } :=
    .field .defaulted (.field (.behindDefaulted (.behindDefaulted (.behindDefaulted .defaulted)))
      (.item [] (.field (.behindDefaulted .defaulted) (.present .here) (.named []))) (.named []))
      (.named [])
  have holds (v v' : Json) (context : Json) :
      (messageSlot .select).Holds v v' (.object [("context", context), ("message", v)])
        (.object [("context", context), ("message", v')]) := .named [("context", context)]
  have hkey : "dozen" ∉ ["count", "measure"] := by decide
  obtain ⟨hextended, hreduced, -, -⟩ := partial_callbacks_read .select
  constructor
  · refine hextended _ _ _ ?_ hread
    exact .intro hkey [("count", .integer 2)] []
      (.field (messageSlot .select) (.present (place _ _)) (holds _ _ _))
  · exact hreduced _ _ _ _ (.field .defaulted rfl (place [("count", .integer 2)] _) (holds _ _ _))
      hread

end Callback

end BuyerGateway
