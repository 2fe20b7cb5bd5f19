/-!
Dictionaries from text to text, in the order of their keys. Writing a key again replaces
its value, so the order and the repetitions in which entries arrive leave no trace but the
last value of each key.
-/
namespace BuyerGateway

structure Dictionary where
  entries : List (String × String)
  sorted : entries.Pairwise fun a b => a.1 < b.1
  deriving DecidableEq

namespace Dictionary

def empty : Dictionary := ⟨[], .nil⟩

instance : Inhabited Dictionary := ⟨empty⟩

def insertEntry (key value : String) : List (String × String) → List (String × String)
  | [] => [(key, value)]
  | (k, v) :: rest =>
    if key < k then (key, value) :: (k, v) :: rest
    else if k < key then (k, v) :: insertEntry key value rest
    else (key, value) :: rest

theorem mem_insertEntry {key value : String} {entries : List (String × String)}
    {e : String × String} (h : e ∈ insertEntry key value entries) :
    e = (key, value) ∨ e ∈ entries := by
  induction entries with
  | nil => exact .inl (List.mem_singleton.1 h)
  | cons head rest ih =>
    obtain ⟨k, v⟩ := head
    simp only [insertEntry] at h
    split at h
    · exact List.mem_cons.1 h
    · split at h
      · rcases List.mem_cons.1 h with h | h
        · exact .inr (h ▸ List.mem_cons_self)
        · exact (ih h).imp_right (List.mem_cons_of_mem _)
      · exact (List.mem_cons.1 h).imp_right (List.mem_cons_of_mem _)

theorem sorted_insertEntry (key value : String) {entries : List (String × String)}
    (h : entries.Pairwise fun a b => a.1 < b.1) :
    (insertEntry key value entries).Pairwise fun a b => a.1 < b.1 := by
  induction entries with
  | nil => exact List.pairwise_singleton _ _
  | cons head rest ih =>
    obtain ⟨k, v⟩ := head
    have hs := List.pairwise_cons.1 h
    simp only [insertEntry]
    split
    · next hk =>
      refine List.pairwise_cons.2 ⟨fun e he => ?_, h⟩
      rcases List.mem_cons.1 he with rfl | he
      · exact hk
      · exact String.lt_trans hk (hs.1 e he)
    · next hk =>
      split
      · next hk' =>
        refine List.pairwise_cons.2 ⟨fun e he => ?_, ih hs.2⟩
        rcases mem_insertEntry he with rfl | he
        · exact hk'
        · exact hs.1 e he
      · next hk' =>
        have hkk : key = k := String.le_antisymm (String.not_lt.1 hk') (String.not_lt.1 hk)
        exact List.pairwise_cons.2 ⟨fun e he => hkk ▸ hs.1 e he, hs.2⟩

def insert (d : Dictionary) (key value : String) : Dictionary :=
  ⟨insertEntry key value d.entries, sorted_insertEntry key value d.sorted⟩

def singleton (key value : String) : Dictionary := empty.insert key value

def ofList (entries : List (String × String)) : Dictionary :=
  entries.foldl (fun d e => d.insert e.1 e.2) empty

def isEmpty (d : Dictionary) : Bool := d.entries.isEmpty

theorem eq_empty (d : Dictionary) (h : (!d.isEmpty) = false) : d = empty := by
  obtain ⟨entries, sorted⟩ := d
  cases entries with
  | nil => rfl
  | cons e rest => cases h

/-- An entry above all keys goes to the end. -/
theorem insertEntry_append {key value : String} {entries : List (String × String)}
    (h : ∀ e ∈ entries, e.1 < key) : insertEntry key value entries = entries ++ [(key, value)] := by
  induction entries with
  | nil => rfl
  | cons head rest ih =>
    have hk := h head List.mem_cons_self
    simp only [insertEntry, String.lt_asymm hk, hk, ↓reduceIte, List.cons_append]
    rw [ih fun e he => h e (List.mem_cons_of_mem _ he)]

theorem entries_foldl_insert (d : Dictionary) {entries : List (String × String)}
    (hs : (d.entries ++ entries).Pairwise fun a b => a.1 < b.1) :
    (entries.foldl (fun d e => d.insert e.1 e.2) d).entries = d.entries ++ entries := by
  induction entries generalizing d with
  | nil => exact (List.append_nil _).symm
  | cons e rest ih =>
    have hd : (d.insert e.1 e.2).entries = d.entries ++ [e] :=
      insertEntry_append fun a ha =>
        (List.pairwise_append.1 hs).2.2 a ha e List.mem_cons_self
    rw [List.foldl_cons, ih, hd, List.append_assoc, List.singleton_append]
    rwa [hd, List.append_assoc, List.singleton_append]

/-- A dictionary is rebuilt from its own entries. -/
theorem ofList_entries (d : Dictionary) : ofList d.entries = d := by
  have h : (ofList d.entries).entries = d.entries := entries_foldl_insert empty d.sorted
  cases hd : ofList d.entries with
  | mk entries sorted =>
    have he : entries = d.entries := by
      rw [← show (ofList d.entries).entries = entries by rw [hd]]
      exact h
    subst he
    rfl

end Dictionary

end BuyerGateway
