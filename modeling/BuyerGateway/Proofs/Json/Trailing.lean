import BuyerGateway.Proofs.Json.Numbers
/-!
What stands behind a value. Each byte takes the scanner from one place to another, so the scan of a
longer text goes on from where a part of it ended. Behind a container a text may have white space
alone: any other byte there is part of a further lexeme, and no lexeme can follow a whole value.
-/
namespace BuyerGateway.Json

/-- A value that has brackets or braces around it. -/
inductive Container : Json → Prop
  | array (items : List Json) : Container (.array items)
  | object (fields : List (String × Json)) : Container (.object fields)

namespace Lexeme

/-- A word or a string has begun. -/
def Place.begun : Place → Bool
  | .between => false
  | _ => true

variable {place : Place} {done ls : List Lexeme}

/-- What one byte does to the scanner. It is refused, or it is white space between lexemes, or it
takes the scanner on, with the lexemes that end there or into one that has begun. -/
inductive Passes (place : Place) (done : List Lexeme) (b : UInt8) : Prop
  | refused (h : ∀ rest, scan place done (b :: rest) = none)
  | white (hp : place.begun = false) (hw : isWhite b = true)
      (h : ∀ rest, scan place done (b :: rest) = scan place done rest)
  | goes (place' : Place) (more : List Lexeme)
      (h : ∀ rest, scan place done (b :: rest) = scan place' (more ++ done) rest)
      (hnew : more = [] → place'.begun = true)

theorem passes_between (done : List Lexeme) (b : UInt8) : Passes .between done b := by
  by_cases hw : isWhite b = true
  · exact .white rfl hw fun rest => by rw [scan, if_pos hw]
  · by_cases hq : b = 0x22
    · refine .goes (.quoted []) [] (fun rest => ?_) fun _ => rfl
      rw [scan, if_neg hw, if_pos hq]
      rfl
    · cases hm : punctuation? b with
      | some mark =>
        refine .goes .between [mark] (fun rest => ?_) fun h => absurd h (List.cons_ne_nil _ _)
        rw [scan, if_neg hw, if_neg hq, hm]
        rfl
      | none =>
        refine .goes (.word [b]) [] (fun rest => ?_) fun _ => rfl
        rw [scan, if_neg hw, if_neg hq, hm]
        rfl

/-- A byte that is not of a word ends the word, and is then passed as it is between lexemes. -/
theorem scan_end_of_word {b : UInt8} (h : ¬ WordByte b) (passed : List UInt8) (done : List Lexeme)
    (rest : List UInt8) :
    scan (.word passed) done (b :: rest) =
      (endWord (.word passed) done).bind fun seen => scan .between seen (b :: rest) := by
  by_cases hw : isWhite b = true
  · simp only [scan, if_pos hw]
    rfl
  · by_cases hq : b = 0x22
    · simp only [scan, if_neg hw, if_pos hq]
      rfl
    · cases hm : punctuation? b with
      | some mark =>
        simp only [scan, if_neg hw, if_neg hq, hm]
        rfl
      | none => exact absurd ⟨eq_false_of_ne_true hw, hq, hm⟩ h

theorem passes_word (passed : List UInt8) (done : List Lexeme) (b : UInt8) :
    Passes (.word passed) done b := by
  by_cases hb : WordByte b
  · have hall : ∀ c ∈ [b], WordByte c := List.forall_mem_singleton.2 hb
    exact .goes (.word (b :: passed)) [] (scan_wordBytes hall passed done) fun _ => rfl
  · have hend := scan_end_of_word hb passed done
    cases hl : ofWord? passed.reverse with
    | none =>
      refine .refused fun rest => ?_
      rw [hend, endWord, hl]
      rfl
    | some l =>
      have hword (rest : List UInt8) :
          scan (.word passed) done (b :: rest) = scan .between (l :: done) (b :: rest) := by
        rw [hend, endWord, hl]
        rfl
      cases passes_between (l :: done) b with
      | refused hno => exact .refused fun rest => (hword rest).trans (hno rest)
      | white hp hw hnext =>
        -- The white space ends the word, which is a lexeme more.
        exact .goes .between [l] (fun rest => (hword rest).trans (hnext rest))
          fun h => absurd h (List.cons_ne_nil _ _)
      | goes place' more hnext hnew =>
        refine .goes place' (more ++ [l]) (fun rest => ?_) fun hnil => ?_
        · rw [hword, hnext, List.append_assoc]
          rfl
        · exact absurd (List.append_eq_nil_iff.1 hnil).2 (List.cons_ne_nil _ _)

theorem passes_quoted (passed : List UInt8) (done : List Lexeme) (b : UInt8) :
    Passes (.quoted passed) done b := by
  by_cases hq : b = 0x22
  · cases hl : ofQuoted? passed.reverse with
    | none =>
      refine .refused fun rest => ?_
      rw [scan, if_pos hq, hl]
      rfl
    | some l =>
      refine .goes .between [l] (fun rest => ?_) fun h => absurd h (List.cons_ne_nil _ _)
      rw [scan, if_pos hq, hl]
      rfl
  · by_cases hb : b = 0x5c
    · refine .goes (.backslash passed) [] (fun rest => ?_) fun _ => rfl
      rw [scan, if_neg hq, if_pos hb]
      rfl
    · by_cases hc : b < 0x20
      · exact .refused fun rest => by rw [scan, if_neg hq, if_neg hb, if_pos hc]
      · refine .goes (.quoted (b :: passed)) [] (fun rest => ?_) fun _ => rfl
        rw [scan, if_neg hq, if_neg hb, if_neg hc]
        rfl

theorem passes_backslash (passed : List UInt8) (done : List Lexeme) (b : UInt8) :
    Passes (.backslash passed) done b := by
  by_cases hc : b < 0x20
  · exact .refused fun rest => by rw [scan, if_pos hc]
  · refine .goes (.quoted (b :: 0x5c :: passed)) [] (fun rest => ?_) fun _ => rfl
    rw [scan, if_neg hc]
    rfl

theorem passes (place : Place) (done : List Lexeme) (b : UInt8) : Passes place done b := by
  cases place with
  | between => exact passes_between done b
  | word passed => exact passes_word passed done b
  | quoted passed => exact passes_quoted passed done b
  | backslash passed => exact passes_backslash passed done b

/-! ### Parts of a text -/

/-- The scan of a text goes on, whatever follows, from the place where the text ended. -/
theorem exists_place_of_scan {xs : List UInt8} (h : scan place done xs = some ls) :
    ∃ place' seen, (∀ ys, scan place done (xs ++ ys) = scan place' seen ys) ∧
      endWord place' seen = some ls.reverse := by
  induction xs generalizing place done with
  | nil =>
    refine ⟨place, done, fun ys => rfl, ?_⟩
    rw [scan] at h
    obtain ⟨seen, hseen, rfl⟩ := Option.map_eq_some_iff.1 h
    rw [hseen, List.reverse_reverse]
  | cons b xs ih =>
    cases passes place done b with
    | refused hb =>
      rw [hb] at h
      cases h
    | white hp hw hb =>
      rw [hb] at h
      obtain ⟨last, seen, hgoes, hend⟩ := ih h
      refine ⟨last, seen, fun ys => ?_, hend⟩
      rw [List.cons_append, hb, hgoes]
    | goes place' more hb hnew =>
      rw [hb] at h
      obtain ⟨last, seen, hgoes, hend⟩ := ih h
      refine ⟨last, seen, fun ys => ?_, hend⟩
      rw [List.cons_append, hb, hgoes]

/-- A scan keeps the lexemes so far. It adds some, unless none has begun and there is nothing but
white space before it. -/
theorem exists_more_of_scan {ys : List UInt8} (h : scan place done ys = some ls) :
    ∃ more, ls = done.reverse ++ more ∧
      (more = [] → place.begun = false ∧ ∀ b ∈ ys, isWhite b = true) := by
  induction ys generalizing place done with
  | nil =>
    rw [scan] at h
    obtain ⟨seen, hseen, rfl⟩ := Option.map_eq_some_iff.1 h
    cases place with
    | between =>
      cases hseen
      exact ⟨[], (List.append_nil _).symm, fun _ => ⟨rfl, fun _ hb => absurd hb List.not_mem_nil⟩⟩
    | word passed =>
      obtain ⟨l, -, rfl⟩ := Option.map_eq_some_iff.1 hseen
      exact ⟨[l], List.reverse_cons, fun hnil => absurd hnil (List.cons_ne_nil _ _)⟩
    | quoted passed => cases hseen
    | backslash passed => cases hseen
  | cons b ys ih =>
    cases passes place done b with
    | refused hb =>
      rw [hb] at h
      cases h
    | white hp hw hb =>
      rw [hb] at h
      obtain ⟨more, hls, hnone⟩ := ih h
      refine ⟨more, hls, fun hnil => ⟨hp, ?_⟩⟩
      exact List.forall_mem_cons.2 ⟨hw, (hnone hnil).2⟩
    | goes place' new hb hnew =>
      rw [hb] at h
      obtain ⟨more, rfl, hnone⟩ := ih h
      refine ⟨new.reverse ++ more, ?_, ?_⟩
      · rw [List.reverse_append, List.append_assoc]
      · intro hnil
        obtain ⟨hempty, hmore⟩ := List.append_eq_nil_iff.1 hnil
        -- Without a new lexeme one has begun, and it would be added later.
        have hbegun := hnew (List.reverse_eq_nil_iff.1 hempty)
        rw [(hnone hmore).1] at hbegun
        cases hbegun

/-- A word stands for a value without brackets. -/
theorem exists_scalar_of_word {word : List UInt8} {l : Lexeme} (h : ofWord? word = some l) :
    ∃ v, l = .scalar v ∧ ¬ v.Container := by
  rw [ofWord?] at h
  split at h
  · cases h
    refine ⟨_, rfl, fun hc => ?_⟩
    cases hc
  · cases h
    refine ⟨_, rfl, fun hc => ?_⟩
    cases hc
  · cases h
    refine ⟨_, rfl, fun hc => ?_⟩
    cases hc
  · obtain ⟨n, -, rfl⟩ := Option.map_eq_some_iff.1 h
    refine ⟨_, rfl, fun hc => ?_⟩
    rw [ofNumeral] at hc
    split at hc <;> cases hc

end Lexeme

open Lexeme

/-! ### Behind a whole value -/

/-- Behind a value that no container holds, no lexeme can follow. -/
theorem Partial.step_after (v : Json) (l : Lexeme) : step ⟨.after v, []⟩ l = none := by
  cases l <;> rfl

/-- A scalar is a value at once, or can not stand where it does. -/
theorem Partial.slot_of_step_scalar {p q : Partial} {v : Json} (h : p.step (.scalar v) = some q) :
    q.slot = .after v := by
  obtain ⟨slot, frames⟩ := p
  cases slot with
  | value => cases h; rfl
  | firstItem => cases h; rfl
  | firstKey => cases h
  | key => cases h
  | colon => cases h
  | after last => cases h

theorem eq_of_assemble?_scalar {ls : List Lexeme} {v w : Json}
    (h : assemble? (ls ++ [.scalar w]) = some v) : v = w := by
  obtain ⟨p, hp, hv⟩ := Option.bind_eq_some_iff.1 h
  rw [List.foldlM_append] at hp
  obtain ⟨q, -, hq⟩ := Option.bind_eq_some_iff.1 hp
  have hstep : q.step (.scalar w) = some p := by simpa using hq
  have hslot := Partial.slot_of_step_scalar hstep
  obtain ⟨slot, frames⟩ := p
  cases hslot
  cases frames with
  | nil => exact (Option.some.inj hv).symm
  | cons frame frames => cases hv

theorem assemble?_append_eq_none {ls more : List Lexeme} {v : Json} (h : assemble? ls = some v)
    (hne : more ≠ []) : assemble? (ls ++ more) = none := by
  obtain ⟨p, hp, hv⟩ := Option.bind_eq_some_iff.1 h
  -- The lexemes of a whole value leave the reader behind it, with nothing open.
  have hdone : p = ⟨.after v, []⟩ := by
    obtain ⟨slot, frames⟩ := p
    cases slot <;> cases frames <;> cases hv
    rfl
  cases more with
  | nil => exact absurd rfl hne
  | cons l more =>
    rw [assemble?, List.foldlM_append, hp, hdone]
    simp [Partial.step_after]

/-- A text with anything but white space behind a container is no JSON. -/
theorem read?_append_eq_none {bytes rest : List UInt8} {v : Json} (h : read? bytes = some v)
    (hv : v.Container) (hrest : ∃ b ∈ rest, isWhite b = false) : read? (bytes ++ rest) = none := by
  obtain ⟨ls, hls, hassemble⟩ := Option.bind_eq_some_iff.1 h
  obtain ⟨place, seen, hgoes, hend⟩ := exists_place_of_scan hls
  have hbetween : place = .between ∧ seen = ls.reverse := by
    cases place with
    | between => exact ⟨rfl, Option.some.inj hend⟩
    | word passed =>
      -- The last lexeme would be a scalar, and so would be the whole value.
      obtain ⟨l, hl, hcons⟩ := Option.map_eq_some_iff.1 hend
      obtain ⟨w, rfl, hw⟩ := exists_scalar_of_word hl
      have hlast : ls = seen.reverse ++ [.scalar w] := by
        rw [← List.reverse_cons, hcons, List.reverse_reverse]
      rw [hlast] at hassemble
      rw [eq_of_assemble?_scalar hassemble] at hv
      exact absurd hv hw
    | quoted passed => cases hend
    | backslash passed => cases hend
  obtain ⟨rfl, rfl⟩ := hbetween
  rw [read?, lexemes, hgoes]
  cases hscan : scan .between ls.reverse rest with
  | none => rfl
  | some all =>
    obtain ⟨more, hall, hnone⟩ := exists_more_of_scan hscan
    rw [List.reverse_reverse] at hall
    have hne : more ≠ [] := by
      intro hnil
      obtain ⟨b, hb, hdark⟩ := hrest
      have hwhite := (hnone hnil).2 b hb
      rw [hdark] at hwhite
      cases hwhite
    rw [hall, Option.bind_some, assemble?_append_eq_none hassemble hne]

example : read? "[] 1".toUTF8.toList = none := by decide +kernel

end BuyerGateway.Json
