import BuyerGateway.Proofs.Storage
import BuyerGateway.Proofs.Transcript
import Mathlib.Algebra.Ring.Parity
import Mathlib.Data.Finset.Card
import Mathlib.Data.List.Perm.Subperm
/-!
The ledger and the stores of callbacks in use, with outages in between. A ledger holds the first
entry of each id that was recorded while it was online, and a store all callbacks that were appended
while it was online and have not been cleared since; neither knows anything else of its history.
-/
namespace BuyerGateway

/-- Something that is used again and again, and that some uses take offline and back online. -/
structure Storage (S U A : Type) where
  use : S → U → A × S
  offline : S → Bool
  toggles : U → Bool
  offline_use : ∀ s u, offline (use s u).2 = (offline s ^^ toggles u)

/-- A use in a history: whether it met the storage offline, and what came later. -/
structure Moment (U : Type) where
  use : U
  offline : Bool
  later : List U

namespace Storage

variable {S U A : Type} (storage : Storage S U A)

def after (s : S) (uses : List U) : S := uses.foldl (fun s u => (storage.use s u).2) s

/-- The answers to some uses, one after the other. -/
def answers : S → List U → List A
  | _, [] => []
  | s, u :: later => (storage.use s u).1 :: answers (storage.use s u).2 later

def moments : S → List U → List (Moment U)
  | _, [] => []
  | s, u :: later => ⟨u, storage.offline s, later⟩ :: moments (storage.use s u).2 later

@[simp]
theorem after_nil (s : S) : storage.after s [] = s := rfl

@[simp]
theorem after_cons (s : S) (u : U) (later : List U) :
    storage.after s (u :: later) = storage.after (storage.use s u).2 later := rfl

@[simp]
theorem moments_cons (s : S) (u : U) (later : List U) :
    storage.moments s (u :: later) =
      ⟨u, storage.offline s, later⟩ :: storage.moments (storage.use s u).2 later := rfl

theorem filterMap_moments_cons {B : Type} (f : Moment U → Option B) (s : S) (u : U)
    (later : List U) :
    (storage.moments s (u :: later)).filterMap f =
      (f ⟨u, storage.offline s, later⟩).toList ++
        (storage.moments (storage.use s u).2 later).filterMap f := by
  rw [moments_cons]
  cases h : f ⟨u, storage.offline s, later⟩ with
  | none => exact List.filterMap_cons_none h
  | some b => exact List.filterMap_cons_some h

/-- Two switches undo each other. -/
theorem offline_after_ne_iff (s : S) (uses : List U) :
    storage.offline (storage.after s uses) ≠ storage.offline s ↔
      Odd (uses.countP storage.toggles) := by
  induction uses generalizing s with
  | nil => exact iff_of_false (absurd rfl) (by simp)
  | cons u later ih =>
    rw [after_cons, List.countP_cons]
    have hrest := ih (storage.use s u).2
    rw [storage.offline_use] at hrest
    cases hu : storage.toggles u with
    | false => simpa [hu] using hrest
    | true =>
      rw [if_pos rfl, Nat.odd_add_one, ← hrest, hu, Bool.xor_true, not_not, Bool.eq_not]

/-- What starts online is offline after an odd number of switches. -/
theorem offline_after_iff {s : S} (hs : storage.offline s = false) (uses : List U) :
    storage.offline (storage.after s uses) = true ↔ Odd (uses.countP storage.toggles) := by
  rw [← storage.offline_after_ne_iff s uses, hs, Bool.ne_false_iff]

/-- What is alike before every use and answers it alike is never told apart. -/
theorem answers_eq_of_alike {R : S → S → Prop}
    (h : ∀ s t u, R s t → (storage.use s u).1 = (storage.use t u).1 ∧
      R (storage.use s u).2 (storage.use t u).2)
    {s t : S} (hst : R s t) (uses : List U) : storage.answers s uses = storage.answers t uses := by
  induction uses generalizing s t with
  | nil => rfl
  | cons u later ih =>
    obtain ⟨hanswer, hnext⟩ := h s t u hst
    rw [answers, answers, hanswer, ih hnext]

end Storage

/-! ### The ledger -/

namespace Ledger

inductive Use where
  | record (entry : LedgerEntry)
  | find (messageId : String)
  | contains (messageId : String)
  | size
  | isEmpty
  | toggle
  deriving DecidableEq

inductive Answer where
  | recorded (entry : Except BackendFailure LedgerEntry)
  | found (entry : Except BackendFailure (Option LedgerEntry))
  | contained (known : Except BackendFailure Bool)
  | size (n : Nat)
  | isEmpty (empty : Bool)
  | toggled

def storage : Storage Ledger Use Answer where
  use l
    | .record entry => (.recorded (l.record entry).1, (l.record entry).2)
    | .find m => (.found (l.find m), l)
    | .contains m => (.contained (l.contains m), l)
    | .size => (.size l.size, l)
    | .isEmpty => (.isEmpty l.isEmpty, l)
    | .toggle => (.toggled, l.toggleOffline)
  offline := Ledger.offline
  toggles u := u = .toggle
  offline_use l u := by
    cases u with
    | record entry => simp
    | toggle => simp [toggleOffline]
    | _ => simp

/-- The entry that a use records, if it meets the ledger online. -/
def recorded? (t : Moment Use) : Option LedgerEntry :=
  match t.use with
  | .record entry => if t.offline then none else some entry
  | _ => none

/-- The entries that were recorded while the ledger was online, in order. -/
def recordedOnline (l : Ledger) (uses : List Use) : List LedgerEntry :=
  (storage.moments l uses).filterMap recorded?

theorem recordedOnline_cons (l : Ledger) (u : Use) (later : List Use) :
    l.recordedOnline (u :: later) =
      (recorded? ⟨u, l.offline, later⟩).toList ++ (storage.use l u).2.recordedOnline later :=
  storage.filterMap_moments_cons recorded? l u later

theorem held?_use (l : Ledger) (u : Use) (later : List Use) (m : String) :
    (storage.use l u).2.held? m =
      (l.held? m).or ((recorded? ⟨u, l.offline, later⟩).toList.find? (·.messageId == m)) := by
  cases u with
  | record e =>
    cases ho : l.offline with
    | true =>
      have hsame : (storage.use l (.record e)).2 = l := congrArg Prod.snd (record_of_offline ho e)
      rw [hsame]
      exact Option.or_none.symm
    | false =>
      have hheld : (storage.use l (.record e)).2.held? m = _ := held?_record ho e m
      rw [hheld]
      by_cases hm : e.messageId = m
      · simp [recorded?, hm]
      · simp [recorded?, hm]
  | _ => exact Option.or_none.symm

/-- The first entry of an id stands through every history. -/
theorem held?_after (l : Ledger) (uses : List Use) (m : String) :
    (storage.after l uses).held? m =
      (l.held? m).or ((l.recordedOnline uses).find? (·.messageId == m)) := by
  induction uses generalizing l with
  | nil => exact Option.or_none.symm
  | cons u later ih =>
    rw [Storage.after_cons, ih, held?_use l u later, Option.or_assoc, recordedOnline_cons,
      List.find?_append]

/-- A ledger has as many entries as there are ids among those it was given. -/
theorem size_eq_card {l : Ledger} {es : List LedgerEntry}
    (h : ∀ m, l.held? m = es.find? (·.messageId == m)) :
    l.size = (es.map (·.messageId)).toFinset.card := by
  have hids : (l.entries.map (·.messageId)).toFinset = (es.map (·.messageId)).toFinset := by
    ext m
    have hheld := isSome_held?_iff (l := l) (m := m)
    rw [h, List.find?_isSome] at hheld
    simpa using hheld.symm
  rw [← hids, List.toFinset_card_of_nodup l.distinct, List.length_map, size]

theorem isEmpty_iff (l : Ledger) : l.isEmpty = true ↔ l.size = 0 := by
  rw [isEmpty, size, List.isEmpty_iff, List.length_eq_zero_iff]

/-- Ledgers that hold the same entries, be it in different orders, and are both
offline or both online. -/
structure Alike (l l' : Ledger) : Prop where
  offline : l.offline = l'.offline
  held : ∀ m, l.held? m = l'.held? m

theorem Alike.perm {l l' : Ledger} (h : Alike l l') : l.entries.Perm l'.entries := by
  rw [List.perm_ext_iff_of_nodup l.distinct.of_map l'.distinct.of_map]
  intro x
  have hheld := h.held x.messageId
  constructor
  · intro hx
    exact (held?_eq_some_iff.1 (hheld.symm.trans (held?_eq_some_iff.2 ⟨hx, rfl⟩))).1
  · intro hx
    exact (held?_eq_some_iff.1 (hheld.trans (held?_eq_some_iff.2 ⟨hx, rfl⟩))).1

/-- No use tells ledgers apart that are alike. -/
theorem Alike.use {l l' : Ledger} (h : Alike l l') (u : Use) :
    (storage.use l u).1 = (storage.use l' u).1 ∧
      Alike (storage.use l u).2 (storage.use l' u).2 := by
  have hfind (m : String) : l.find m = l'.find m := by rw [find, find, h.offline, h.held]
  have hoffline : (storage.use l u).2.offline = (storage.use l' u).2.offline := by
    have hl : (storage.use l u).2.offline = (l.offline ^^ _) := storage.offline_use l u
    have hl' : (storage.use l' u).2.offline = (l'.offline ^^ _) := storage.offline_use l' u
    rw [hl, hl', h.offline]
  have hheld (m : String) : (storage.use l u).2.held? m = (storage.use l' u).2.held? m := by
    rw [held?_use l u [], held?_use l' u [], h.held, h.offline]
  refine ⟨?_, hoffline, hheld⟩
  cases u with
  | record e =>
    have hanswer : (l.record e).1 = (l'.record e).1 := by
      cases ho : l'.offline with
      | true => rw [record_of_offline ho, record_of_offline (h.offline.trans ho)]
      | false => rw [record_answer ho, record_answer (h.offline.trans ho), h.held]
    exact congrArg Answer.recorded hanswer
  | find m => exact congrArg Answer.found (hfind m)
  | contains m => exact congrArg (fun f => Answer.contained (f.map Option.isSome)) (hfind m)
  | size => exact congrArg Answer.size h.perm.length_eq
  | isEmpty =>
    have hsize : l.size = l'.size := h.perm.length_eq
    have hempty : l.isEmpty = l'.isEmpty := by
      rw [Bool.eq_iff_iff, isEmpty_iff, isEmpty_iff, hsize]
    exact congrArg Answer.isEmpty hempty
  | toggle => rfl

/-- The answer for an entry does not tell whether one of another id was recorded before it. -/
theorem record_answer_after {x y : LedgerEntry} (h : x.messageId ≠ y.messageId) (l : Ledger) :
    ((l.record x).2.record y).1 = (l.record y).1 := by
  cases ho : l.offline with
  | true => rw [record_of_offline ho x]
  | false =>
    rw [record_answer ho, record_answer (by rw [offline_record, ho]), held?_record ho, if_neg h,
      Option.or_none]

theorem alike_of_swapped {x y : LedgerEntry} (h : x.messageId ≠ y.messageId) (l : Ledger) :
    Alike ((l.record x).2.record y).2 ((l.record y).2.record x).2 := by
  refine ⟨by simp only [offline_record], fun m => ?_⟩
  cases ho : l.offline with
  | true => rw [record_of_offline ho x, record_of_offline ho y, record_of_offline ho x]
  | false =>
    rw [held?_record (by rw [offline_record, ho]), held?_record ho,
      held?_record (by rw [offline_record, ho]), held?_record ho, Option.or_assoc, Option.or_assoc]
    congr 1
    by_cases hx : x.messageId = m
    · have hy : y.messageId ≠ m := fun hy => h (hx.trans hy.symm)
      rw [if_neg hy, Option.or_none, Option.none_or]
    · rw [if_neg hx, Option.or_none, Option.none_or]

/-- What a ledger in order answers, of which `es` are the entries that it was given in order. -/
structure Serves (l : Ledger) (es : List LedgerEntry) : Prop where
  find : ∀ m, storage.use l (.find m) = (.found (.ok (es.find? (·.messageId == m))), l)
  contains : ∀ m, storage.use l (.contains m) =
    (.contained (.ok (es.find? (·.messageId == m)).isSome), l)
  known : ∀ e x, es.find? (·.messageId == e.messageId) = some x →
    storage.use l (.record e) = (.recorded (.ok x), l)
  new : ∀ e, es.find? (·.messageId == e.messageId) = none →
    ∃ l', storage.use l (.record e) = (.recorded (.ok e), l') ∧ l'.entries = l.entries ++ [e]

theorem serves {l : Ledger} (ho : l.offline = false) {es : List LedgerEntry}
    (h : ∀ m, l.held? m = es.find? (·.messageId == m)) : Serves l es where
  find m := by
    have hfind : l.find m = .ok (l.held? m) := by rw [find, if_neg (by simp [ho])]
    rw [← h, ← hfind]
    rfl
  contains m := by
    rw [← h, ← contains_of_online ho]
    rfl
  known e x hx := by
    have hrecord := record_of_known ho ((h e.messageId).trans hx)
    exact congrArg (fun r => (Answer.recorded r.1, r.2)) hrecord
  new e hn := by
    have hnew := (h e.messageId).trans hn
    have hrecord := record_of_new ho hnew
    exact ⟨_, congrArg (fun r => (Answer.recorded r.1, r.2)) hrecord, rfl⟩

/-- A ledger that is offline fails what it is asked, and stays as it is. -/
structure Refuses (l : Ledger) : Prop where
  record : ∀ e, storage.use l (.record e) = (.recorded (.error offlineFailure), l)
  find : ∀ m, storage.use l (.find m) = (.found (.error offlineFailure), l)
  contains : ∀ m, storage.use l (.contains m) = (.contained (.error offlineFailure), l)

theorem refuses {l : Ledger} (ho : l.offline = true) : Refuses l where
  record e := congrArg (fun r => (Answer.recorded r.1, r.2)) (record_of_offline ho e)
  find m := by
    have hfind : l.find m = .error offlineFailure := by rw [find, if_pos ho]
    exact congrArg (fun f => (Answer.found f, l)) hfind
  contains m := congrArg (fun c => (Answer.contained c, l)) (contains_of_offline ho m)

/-- Entries of different ids get the same answers in either order, and so does all
that is asked later. -/
theorem answers_of_swapped {x y : LedgerEntry} (h : x.messageId ≠ y.messageId) (l : Ledger)
    (later : List Use) :
    ∃ a b rest, storage.answers l (.record x :: .record y :: later) = a :: b :: rest ∧
      storage.answers l (.record y :: .record x :: later) = b :: a :: rest := by
  have hanswers (x y : LedgerEntry) : storage.answers l (.record x :: .record y :: later) =
      .recorded (l.record x).1 :: .recorded ((l.record x).2.record y).1 ::
        storage.answers ((l.record x).2.record y).2 later := rfl
  -- The two ledgers hold the entries in different orders, which no later answer tells.
  have hlater : storage.answers ((l.record x).2.record y).2 later =
      storage.answers ((l.record y).2.record x).2 later :=
    storage.answers_eq_of_alike (fun _ _ u h => Alike.use h u) (alike_of_swapped h l) later
  refine ⟨.recorded (l.record x).1, .recorded (l.record y).1,
    storage.answers ((l.record x).2.record y).2 later, ?_, ?_⟩
  · rw [hanswers, record_answer_after h]
  · rw [hanswers, record_answer_after h.symm, hlater]

/-- Whatever a ledger went through, it holds of each id the first entry that was recorded
while it was online, and nothing that it answers depends on the order in which entries of
different ids came. -/
theorem first_entries_stand (uses : List Use) :
    let l := storage.after .empty uses
    let es := Ledger.empty.recordedOnline uses
    (l.offline = true ↔ Odd (uses.countP storage.toggles)) ∧
    (∀ m, l.held? m = es.find? (·.messageId == m)) ∧
    (∀ m x, l.held? m = some x ↔ x ∈ l.entries ∧ x.messageId = m) ∧
    (∀ m, l.held? m = none ↔ ∀ e ∈ es, e.messageId ≠ m) ∧
    l.size = (es.map (·.messageId)).toFinset.card ∧
    (l.isEmpty = true ↔ l.size = 0) ∧
    (l.offline = false → Serves l es) ∧
    (l.offline = true → Refuses l) ∧
    ∀ x y, x.messageId ≠ y.messageId → ∀ later,
      ∃ a b rest, storage.answers l (.record x :: .record y :: later) = a :: b :: rest ∧
        storage.answers l (.record y :: .record x :: later) = b :: a :: rest := by
  intro l es
  have hheld (m : String) : l.held? m = es.find? (·.messageId == m) := held?_after .empty uses m
  refine ⟨storage.offline_after_iff rfl uses, hheld, fun m x => held?_eq_some_iff, ?_,
    size_eq_card hheld, isEmpty_iff l, ?_, refuses, ?_⟩
  · intro m
    rw [hheld, List.find?_eq_none]
    exact forall₂_congr fun e _ => by rw [beq_iff_eq]
  · intro ho
    exact serves ho hheld
  · intro x y h later
    exact answers_of_swapped h l later

def sampleEntry (messageId : String) (exchange : Exchange) : LedgerEntry :=
  ⟨messageId, exchange, Gateway.Sample.noon⟩

/-- An entry that comes second for its id, and one that comes during an outage. -/
def sampleUses : List Use :=
  [.record (sampleEntry "m" .init), .toggle, .record (sampleEntry "n" .track), .toggle,
    .record (sampleEntry "m" .confirm)]

/-- Neither entry is in the ledger, and a further outage hides the first one. -/
theorem late_entries_are_not_kept :
    let l := storage.after .empty sampleUses
    let out := storage.after .empty (sampleUses ++ [.toggle])
    l.offline = false ∧ out.offline = true ∧ l.size = 1 ∧
      storage.use l (.find "m") = (.found (.ok (some (sampleEntry "m" .init))), l) ∧
      storage.use l (.find "n") = (.found (.ok none), l) ∧
      storage.use out (.find "m") = (.found (.error offlineFailure), out) ∧
      ∃ a b rest,
        storage.answers l
          [.record (sampleEntry "m" .track), .record (sampleEntry "n" .track), .size] =
            a :: b :: rest ∧
        storage.answers l
          [.record (sampleEntry "n" .track), .record (sampleEntry "m" .track), .size] =
            b :: a :: rest := by
  intro l out
  have hl : l.offline = false := by decide
  have hout : out.offline = true := by decide
  obtain ⟨-, -, -, -, hsize, -, hserves, -, hswap⟩ := first_entries_stand sampleUses
  obtain ⟨-, -, -, -, -, -, -, hrefuses, -⟩ := first_entries_stand (sampleUses ++ [.toggle])
  refine ⟨hl, hout, hsize.trans (by decide), (hserves hl).find "m", (hserves hl).find "n",
    (hrefuses hout).find "m", ?_⟩
  exact hswap (sampleEntry "m" .track) (sampleEntry "n" .track) (by decide) [.size]

end Ledger

/-! ### Stores of callbacks -/

namespace CallbackStore

variable {e : Exchange}

theorem append_answer (s : CallbackStore e) (c : Callback e) :
    (s.append c).1 = if s.offline then .error offlineFailure else .ok () := by
  rw [append]
  split
  · rfl
  · rfl

@[simp]
theorem offline_append (s : CallbackStore e) (c : Callback e) :
    (s.append c).2.offline = s.offline := by
  rw [append]
  split
  · rfl
  · rfl

inductive Use (e : Exchange) where
  | append (callback : Callback e)
  | find (messageId : String)
  | clear
  | toggle
  deriving DecidableEq

inductive Answer (e : Exchange) where
  | appended (outcome : Except BackendFailure Unit)
  | found (callbacks : Except BackendFailure (List (Callback e)))
  | cleared
  | toggled

def storage : Storage (CallbackStore e) (Use e) (Answer e) where
  use s
    | .append c => (.appended (s.append c).1, (s.append c).2)
    | .find m => (.found (s.find m), s)
    | .clear => (.cleared, s.clear)
    | .toggle => (.toggled, s.toggleOffline)
  offline := CallbackStore.offline
  toggles u := u = .toggle
  offline_use s u := by
    cases u with
    | append c => simp
    | clear => simp [clear]
    | toggle => simp [toggleOffline]
    | find m => simp

/-- The callback that a use leaves in a store for good: the store was online, and is
never cleared later. -/
def kept? (t : Moment (Use e)) : Option (Callback e) :=
  match t.use with
  | .append c => if t.offline ∨ .clear ∈ t.later then none else some c
  | _ => none

/-- The callbacks that were appended while the store was online and after it was last
cleared, in order. -/
def kept (s : CallbackStore e) (uses : List (Use e)) : List (Callback e) :=
  (storage.moments s uses).filterMap kept?

/-- The records that outlive some uses, apart from those that the uses add. -/
def outlive (s : CallbackStore e) (uses : List (Use e)) : List (Callback e) :=
  if .clear ∈ uses then [] else s.records

theorem outlive_use (s : CallbackStore e) (u : Use e) (later : List (Use e)) :
    (storage.use s u).2.outlive later =
      s.outlive (u :: later) ++ (kept? ⟨u, s.offline, later⟩).toList := by
  by_cases hlater : .clear ∈ later
  · -- What is cleared later leaves nothing, whether it was there before or came with this use.
    have hkept : kept? ⟨u, s.offline, later⟩ = none := by cases u <;> simp [kept?, hlater]
    simp [outlive, hlater, hkept]
  · cases u with
    | append c =>
      cases ho : s.offline with
      | true => simp [storage, outlive, kept?, append_of_offline ho]
      | false => simp [storage, outlive, kept?, hlater, append_of_online ho]
    | clear => simp [storage, outlive, kept?, clear]
    | find m => simp [storage, outlive, kept?]
    | toggle => simp [storage, outlive, kept?, toggleOffline]

/-- A store holds what it held and what it was given, both from the last time
that it was cleared. -/
theorem records_after (s : CallbackStore e) (uses : List (Use e)) :
    (storage.after s uses).records = s.outlive uses ++ s.kept uses := by
  induction uses generalizing s with
  | nil => exact (List.append_nil _).symm
  | cons u later ih =>
    have hkept : s.kept (u :: later) =
        (kept? ⟨u, s.offline, later⟩).toList ++ (storage.use s u).2.kept later :=
      storage.filterMap_moments_cons kept? s u later
    rw [Storage.after_cons, ih, outlive_use, hkept, List.append_assoc]

/-- Stores that hold the same callbacks of each id, be it with others in between. -/
structure Alike (s t : CallbackStore e) : Prop where
  offline : s.offline = t.offline
  found : ∀ m, s.recordsOf m = t.recordsOf m

theorem recordsOf_append (s : CallbackStore e) (c : Callback e) (m : String) :
    (s.append c).2.recordsOf m =
      s.recordsOf m ++ if s.offline ∨ c.messageId ≠ m then [] else [c] := by
  cases ho : s.offline with
  | true => simp [append_of_offline ho]
  | false =>
    rw [append_of_online ho]
    by_cases hm : c.messageId = m
    · simp [recordsOf, List.filter_append, hm]
    · simp [recordsOf, List.filter_append, hm]

theorem Alike.use {s t : CallbackStore e} (h : Alike s t) (u : Use e) :
    (storage.use s u).1 = (storage.use t u).1 ∧
      Alike (storage.use s u).2 (storage.use t u).2 := by
  cases u with
  | append c =>
    have hanswer : (s.append c).1 = (t.append c).1 := by
      rw [append_answer, append_answer, h.offline]
    refine ⟨congrArg Answer.appended hanswer, ?_, fun m => ?_⟩
    · have hoffline : (s.append c).2.offline = (t.append c).2.offline := by
        rw [offline_append, offline_append, h.offline]
      exact hoffline
    · have hfound : (s.append c).2.recordsOf m = (t.append c).2.recordsOf m := by
        rw [recordsOf_append, recordsOf_append, h.found, h.offline]
      exact hfound
  | find m =>
    have hfind : s.find m = t.find m := by rw [find, find, h.offline, h.found]
    exact ⟨congrArg Answer.found hfind, h⟩
  | clear => exact ⟨rfl, h.offline, fun _ => rfl⟩
  | toggle => exact ⟨rfl, congrArg (!·) h.offline, h.found⟩

theorem alike_of_swapped {c d : Callback e} (h : c.messageId ≠ d.messageId) (s : CallbackStore e) :
    Alike ((s.append c).2.append d).2 ((s.append d).2.append c).2 := by
  refine ⟨by simp only [offline_append], fun m => ?_⟩
  have hnone {a : Callback e} (ha : a.messageId ≠ m) :
      (if s.offline ∨ a.messageId ≠ m then [] else [a]) = [] := if_pos (.inr ha)
  simp only [recordsOf_append, offline_append, List.append_assoc]
  congr 1
  by_cases hc : c.messageId = m
  · have hd : d.messageId ≠ m := fun hd => h (hc.trans hd.symm)
    rw [hnone hd, List.append_nil, List.nil_append]
  · rw [hnone hc, List.append_nil, List.nil_append]

theorem answers_of_swapped {c d : Callback e} (h : c.messageId ≠ d.messageId) (s : CallbackStore e)
    (later : List (Use e)) :
    storage.answers s (.append c :: .append d :: later) =
      storage.answers s (.append d :: .append c :: later) := by
  have hanswers (c d : Callback e) : storage.answers s (.append c :: .append d :: later) =
      .appended (s.append c).1 :: .appended ((s.append c).2.append d).1 ::
        storage.answers ((s.append c).2.append d).2 later := rfl
  rw [hanswers, hanswers,
    storage.answers_eq_of_alike (fun _ _ u h => Alike.use h u) (alike_of_swapped h s)]
  simp only [append_answer, offline_append]

/-- The records of all ids together: each record is among those of its own id alone, as
often as it was kept. -/
structure Partition (cs : List (Callback e)) (found : String → List (Callback e)) : Prop where
  own : ∀ m, ∀ c ∈ found m, c.messageId = m
  count : ∀ c, (found c.messageId).count c = cs.count c
  together : ∀ ids : List String, ids.Nodup → (∀ c ∈ cs, c.messageId ∈ ids) →
    (ids.flatMap found).Perm cs

theorem flatMap_filter_perm {ids : List String} (hd : ids.Nodup) {cs : List (Callback e)}
    (hc : ∀ c ∈ cs, c.messageId ∈ ids) :
    (ids.flatMap fun m => cs.filter (·.messageId == m)).Perm cs := by
  induction ids generalizing cs with
  | nil =>
    have hnil : cs = [] := List.eq_nil_iff_forall_not_mem.2 fun c h => List.not_mem_nil (hc c h)
    rw [hnil]
    rfl
  | cons m ids ih =>
    rw [List.nodup_cons] at hd
    let others := cs.filter (!·.messageId == m)
    have hothers : ∀ c ∈ others, c.messageId ∈ ids := by
      intro c h
      obtain ⟨hmem, hne⟩ := List.mem_filter.1 h
      exact (List.mem_cons.1 (hc c hmem)).resolve_left (by simpa using hne)
    -- The other ids find nothing among the records of `m`.
    have hfound : ∀ k ∈ ids,
        cs.filter (·.messageId == k) = others.filter (·.messageId == k) := by
      intro k hk
      have hkm : k ≠ m := fun h => hd.1 (h ▸ hk)
      rw [List.filter_filter]
      refine List.filter_congr fun c _ => ?_
      by_cases hck : c.messageId = k
      · simp [hck, hkm]
      · simp [hck]
    rw [List.flatMap_cons, List.flatMap_congr hfound]
    exact ((ih hd.2 hothers).append_left _).trans (List.filter_append_perm _ cs)

theorem partition_filter (cs : List (Callback e)) :
    Partition cs fun m => cs.filter (·.messageId == m) where
  own m c h := by simpa using (List.mem_filter.1 h).2
  count c := List.count_filter (by simp)
  together _ hd hc := flatMap_filter_perm hd hc

/-- Whatever a store went through, it finds for each id what was appended while it was online and
has not been cleared since, as often and in the order in which it came. -/
theorem appended_callbacks_are_found (uses : List (Use e)) :
    let s := storage.after .empty uses
    let found (m : String) := (kept .empty uses).filter (·.messageId == m)
    (s.offline = true ↔ Odd (uses.countP storage.toggles)) ∧
    s.records = kept .empty uses ∧
    Partition s.records found ∧
    (s.offline = false →
      (∀ m, storage.use s (.find m) = (.found (.ok (found m)), s)) ∧
      ∀ c, storage.use s (.append c) =
        (.appended (.ok ()), { s with records := s.records ++ [c] })) ∧
    (s.offline = true →
      (∀ m, storage.use s (.find m) = (.found (.error offlineFailure), s)) ∧
      ∀ c, storage.use s (.append c) = (.appended (.error offlineFailure), s)) ∧
    storage.use s .clear = (.cleared, { s with records := [] }) ∧
    ∀ c d, c.messageId ≠ d.messageId → ∀ later,
      storage.answers s (.append c :: .append d :: later) =
        storage.answers s (.append d :: .append c :: later) := by
  intro s found
  have hrecords : s.records = kept .empty uses := by
    have hafter := records_after .empty uses
    have hnothing : outlive (e := e) .empty uses = [] := by rw [outlive, empty, ite_self]
    rwa [hnothing, List.nil_append] at hafter
  refine ⟨storage.offline_after_iff rfl uses, hrecords, ?_, ?_, ?_, rfl, ?_⟩
  · rw [hrecords]
    exact partition_filter _
  · intro ho
    refine ⟨fun m => ?_, fun c => ?_⟩
    · have hfind : s.find m = .ok (found m) := by rw [find_of_online ho, recordsOf, hrecords]
      exact congrArg (fun f => (Answer.found f, s)) hfind
    · exact congrArg (fun r => (Answer.appended r.1, r.2)) (append_of_online ho c)
  · intro ho
    refine ⟨fun m => ?_, fun c => ?_⟩
    · exact congrArg (fun f => (Answer.found f, s)) (find_of_offline ho m)
    · exact congrArg (fun r => (Answer.appended r.1, r.2)) (append_of_offline ho c)
  · intro c d h later
    exact answers_of_swapped h s later

def sampleCallback (messageId bppId : String) : Callback .search where
  context := ⟨"d", "c", "y", .callback .search, "v", "i", "u", some bppId, none, "t", messageId,
    Gateway.Sample.noon⟩
  message := some ⟨{}⟩
  error := none

/-- The first callback is cleared away, the one that follows is refused, and another comes twice. -/
def sampleUses : List (Use .search) :=
  [.append (sampleCallback "m" "a"), .toggle, .clear, .append (sampleCallback "m" "b"), .toggle,
    .append (sampleCallback "m" "c"), .append (sampleCallback "n" "a"),
    .append (sampleCallback "m" "c")]

/-- The callback that came twice is found twice, and a further outage hides it. -/
theorem repeated_callback_is_found_twice :
    let s := storage.after .empty sampleUses
    let out := storage.after .empty (sampleUses ++ [.toggle])
    s.offline = false ∧ out.offline = true ∧
      storage.use s (.find "m") =
        (.found (.ok [sampleCallback "m" "c", sampleCallback "m" "c"]), s) ∧
      storage.use out (.find "m") = (.found (.error offlineFailure), out) ∧
      ([sampleCallback "m" "c", sampleCallback "m" "c"] ++ [sampleCallback "n" "a"]).Perm
        s.records ∧
      storage.answers s
          [.append (sampleCallback "m" "d"), .append (sampleCallback "n" "d"), .find "m"] =
        storage.answers s
          [.append (sampleCallback "n" "d"), .append (sampleCallback "m" "d"), .find "m"] := by
  intro s out
  have hs : s.offline = false := by decide
  have hout : out.offline = true := by decide
  obtain ⟨-, -, hparts, honline, -, -, hswap⟩ := appended_callbacks_are_found sampleUses
  obtain ⟨-, -, -, -, hoffline, -⟩ := appended_callbacks_are_found (sampleUses ++ [.toggle])
  refine ⟨hs, hout, (honline hs).1 "m", (hoffline hout).1 "m", ?_, ?_⟩
  · exact hparts.together ["m", "n"] (by decide) (by decide)
  · exact hswap (sampleCallback "m" "d") (sampleCallback "n" "d") (by decide) [.find "m"]

end CallbackStore

end BuyerGateway
