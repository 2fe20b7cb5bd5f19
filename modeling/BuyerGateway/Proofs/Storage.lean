import BuyerGateway.CallbackStore
import BuyerGateway.Ledger
import Mathlib.Data.List.Infix
import Mathlib.Data.List.Nodup
/-!
What the ledger and the stores of callbacks hold after a list of writes. A ledger that is not
offline keeps the first entry of each id and never gives one up; a store that is not offline keeps
every record, in the order in which they came.
-/
namespace BuyerGateway

namespace Ledger

variable {l : Ledger}

/-- The ids of a ledger are distinct, so an entry is found exactly where it stands. -/
theorem held?_eq_some_iff {m : String} {x : LedgerEntry} :
    l.held? m = some x ↔ x ∈ l.entries ∧ x.messageId = m := by
  have found {y : LedgerEntry} (h : l.held? m = some y) : y ∈ l.entries ∧ y.messageId = m := by
    rw [held?] at h
    have hid := List.find?_some h
    exact ⟨List.mem_of_find?_eq_some h, by simpa using hid⟩
  refine ⟨found, ?_⟩
  rintro ⟨hx, hid⟩
  have hsome : (l.held? m).isSome := by
    rw [held?, List.find?_isSome]
    exact ⟨x, hx, by simp [hid]⟩
  obtain ⟨y, hy⟩ := Option.isSome_iff_exists.1 hsome
  have hyx : y = x :=
    List.inj_on_of_nodup_map l.distinct (found hy).1 hx ((found hy).2.trans hid.symm)
  rw [hy, hyx]

theorem isSome_held?_iff {m : String} :
    (l.held? m).isSome ↔ ∃ x ∈ l.entries, x.messageId = m := by
  rw [Option.isSome_iff_exists]
  exact exists_congr fun x => held?_eq_some_iff

/-- A ledger that goes on from another holds all that the other held. -/
theorem held_of_prefix {l' : Ledger} (h : l.entries <+: l'.entries) {m : String}
    (hm : (l.held? m).isSome) : (l'.held? m).isSome := by
  obtain ⟨x, hx, hid⟩ := isSome_held?_iff.1 hm
  exact isSome_held?_iff.2 ⟨x, h.subset hx, hid⟩

theorem record_of_offline (h : l.offline = true) (e : LedgerEntry) :
    l.record e = (.error offlineFailure, l) := by
  rw [record, if_pos h]

theorem record_of_known (h : l.offline = false) {e first : LedgerEntry}
    (hf : l.held? e.messageId = some first) : l.record e = (.ok first, l) := by
  rw [record, if_neg (by simp [h])]
  split
  · rename_i other ho
    rw [Option.some.inj (ho.symm.trans hf)]
  · rename_i hn
    cases hf.symm.trans hn

theorem record_of_new (h : l.offline = false) {e : LedgerEntry}
    (hn : l.held? e.messageId = none) : l.record e = (.ok e, l.insert e hn) := by
  rw [record, if_neg (by simp [h])]
  split
  · rename_i first hf
    cases hn.symm.trans hf
  · rfl

/-- A ledger in order tells whether it holds an id. -/
theorem contains_of_online (h : l.offline = false) (m : String) :
    l.contains m = .ok (l.held? m).isSome := by
  rw [contains, find, if_neg (by simp [h])]
  rfl

/-- A ledger that is offline tells nothing, of ids that it holds as of others. -/
theorem contains_of_offline (h : l.offline = true) (m : String) :
    l.contains m = .error offlineFailure := by
  rw [contains, find, if_pos h]
  rfl

@[simp] theorem offline_record (l : Ledger) (e : LedgerEntry) :
    (l.record e).2.offline = l.offline := by
  cases ho : l.offline
  · cases he : l.held? e.messageId with
    | none => rw [record_of_new ho he]; exact ho
    | some first => rw [record_of_known ho he]; exact ho
  · rw [record_of_offline ho]
    exact ho

/-- The answer of a write is what the ledger holds of the id from then on. -/
theorem record_answer (h : l.offline = false) (e : LedgerEntry) :
    (l.record e).1 = .ok ((l.held? e.messageId).getD e) := by
  cases he : l.held? e.messageId with
  | none => rw [record_of_new h he]; rfl
  | some first => rw [record_of_known h he]; rfl

theorem held?_record (h : l.offline = false) (e : LedgerEntry) (m : String) :
    (l.record e).2.held? m = (l.held? m).or (if e.messageId = m then some e else none) := by
  cases he : l.held? e.messageId with
  | none =>
    rw [record_of_new h he]
    by_cases hm : e.messageId = m
    · simp [held?, insert, List.find?_append, hm]
    · simp [held?, insert, List.find?_append, hm]
  | some first =>
    rw [record_of_known h he]
    by_cases hm : e.messageId = m
    · rw [← hm, he]; rfl
    · rw [if_neg hm, Option.or_none]

theorem entries_prefix_record (l : Ledger) (e : LedgerEntry) :
    l.entries <+: (l.record e).2.entries := by
  cases ho : l.offline
  · cases he : l.held? e.messageId with
    | none => rw [record_of_new ho he]; exact List.prefix_append _ _
    | some first => rw [record_of_known ho he]
  · rw [record_of_offline ho]

/-! ### Lists of writes -/

/-- The ledger after some writes, one after the other. -/
def recordAll (l : Ledger) (es : List LedgerEntry) : Ledger :=
  es.foldl (fun l e => (l.record e).2) l

@[simp] theorem recordAll_nil (l : Ledger) : l.recordAll [] = l := rfl

@[simp] theorem recordAll_cons (l : Ledger) (e : LedgerEntry) (es : List LedgerEntry) :
    l.recordAll (e :: es) = (l.record e).2.recordAll es := rfl

theorem recordAll_append (l : Ledger) (es fs : List LedgerEntry) :
    l.recordAll (es ++ fs) = (l.recordAll es).recordAll fs := List.foldl_append ..

@[simp] theorem offline_recordAll (l : Ledger) (es : List LedgerEntry) :
    (l.recordAll es).offline = l.offline := by
  induction es generalizing l with
  | nil => rfl
  | cons e es ih => rw [recordAll_cons, ih, offline_record]

theorem entries_prefix_recordAll (l : Ledger) (es : List LedgerEntry) :
    l.entries <+: (l.recordAll es).entries := by
  induction es generalizing l with
  | nil => exact List.prefix_refl _
  | cons e es ih => exact (entries_prefix_record l e).trans (ih _)

/-- The first entry written for an id stands for ever. -/
theorem held?_recordAll (h : l.offline = false) (es : List LedgerEntry) (m : String) :
    (l.recordAll es).held? m = (l.held? m).or (es.find? (·.messageId == m)) := by
  induction es generalizing l with
  | nil => exact (Option.or_none).symm
  | cons e es ih =>
    rw [recordAll_cons, ih (by rw [offline_record, h]), held?_record h, Option.or_assoc]
    by_cases hm : e.messageId = m
    · simp [hm]
    · simp [hm]

/-- Entries of fresh and distinct ids are all kept, in their order. -/
theorem entries_recordAll (h : l.offline = false) {es : List LedgerEntry}
    (hnew : ∀ e ∈ es, l.held? e.messageId = none) (hd : (es.map (·.messageId)).Nodup) :
    (l.recordAll es).entries = l.entries ++ es := by
  induction es generalizing l with
  | nil => exact (List.append_nil _).symm
  | cons e es ih =>
    rw [List.map_cons, List.nodup_cons] at hd
    have he := hnew e List.mem_cons_self
    -- The other ids stay fresh, as none of them is the one just written.
    have hrest : ∀ f ∈ es, (l.record e).2.held? f.messageId = none := by
      intro f hf
      have hne : e.messageId ≠ f.messageId := fun hef => hd.1 (hef ▸ List.mem_map_of_mem hf)
      rw [held?_record h, hnew f (List.mem_cons_of_mem _ hf), if_neg hne, Option.or_none]
    rw [recordAll_cons, ih (by rw [offline_record, h]) hrest hd.2, record_of_new h he]
    simp [insert]

end Ledger

namespace CallbackStore

variable {e : Exchange}

theorem append_of_online {s : CallbackStore e} (h : s.offline = false) (c : Callback e) :
    s.append c = (.ok (), { s with records := s.records ++ [c] }) := by
  rw [append, if_neg (by simp [h])]

theorem append_of_offline {s : CallbackStore e} (h : s.offline = true) (c : Callback e) :
    s.append c = (.error offlineFailure, s) := by
  rw [append, if_pos h]

theorem find_of_online {s : CallbackStore e} (h : s.offline = false) (m : String) :
    s.find m = .ok (s.recordsOf m) := by
  rw [find, if_neg (by simp [h])]

theorem find_of_offline {s : CallbackStore e} (h : s.offline = true) (m : String) :
    s.find m = .error offlineFailure := by
  rw [find, if_pos h]

/-- The store after some records, one after the other. -/
def appendAll (s : CallbackStore e) (cs : List (Callback e)) : CallbackStore e :=
  cs.foldl (fun s c => (s.append c).2) s

theorem appendAll_append (s : CallbackStore e) (cs ds : List (Callback e)) :
    s.appendAll (cs ++ ds) = (s.appendAll cs).appendAll ds := List.foldl_append ..

theorem appendAll_of_online {s : CallbackStore e} (h : s.offline = false)
    (cs : List (Callback e)) : s.appendAll cs = { s with records := s.records ++ cs } := by
  induction cs generalizing s with
  | nil => simp [appendAll]
  | cons c cs ih =>
    have hstep : s.appendAll (c :: cs) = (s.append c).2.appendAll cs := rfl
    have hc := congrArg Prod.snd (append_of_online h c)
    rw [hstep, ih (s := (s.append c).2) (by rw [hc]; exact h), hc]
    simp

theorem recordsOf_appendAll {s : CallbackStore e} (h : s.offline = false) (cs : List (Callback e))
    (m : String) :
    (s.appendAll cs).recordsOf m = s.recordsOf m ++ cs.filter (·.messageId == m) := by
  rw [appendAll_of_online h]
  exact List.filter_append ..

end CallbackStore

end BuyerGateway
