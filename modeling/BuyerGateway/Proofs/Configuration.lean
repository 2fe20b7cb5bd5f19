import BuyerGateway.Config
import Mathlib.Data.Nat.Digits.Defs
/-!
Configurations and the variables they are read from. A number is what its numeral says, however long
the numeral is, or there is no configuration; and of several checks that fail the first one is told.
-/
namespace BuyerGateway

namespace Text

/-! ### Numerals -/

/-- The characters of some digits. -/
def spelled (digits : List (Fin 10)) : List Char := digits.map fun d => Nat.digitChar d.val

/-- The text is a decimal numeral of `n`: one digit or more, the most significant first and zeros in
front of it or not, behind a plus sign or alone. -/
def Denotes (s : String) (n : Nat) : Prop :=
  ∃ digits : List (Fin 10), digits ≠ [] ∧
    (s.toList = spelled digits ∨ s.toList = '+' :: spelled digits) ∧
    n = Nat.ofDigits 10 (digits.reverse.map Fin.val)

theorem ofDigits_eq (ns : List Nat) : ofDigits ns = Nat.ofDigits 10 ns.reverse := by
  rw [ofDigits, Nat.ofDigits_eq_foldr, List.foldr_reverse]
  congr 1
  funext n d
  rw [Nat.cast_id]
  omega

theorem digit?_eq_some_iff {c : Char} {n : Nat} :
    digit? c = some n ↔ ∃ d : Fin 10, c = Nat.digitChar d.val ∧ n = d.val := by
  constructor
  · intro h
    rw [digit?] at h
    split at h
    · rename_i hc
      have hlow : 48 ≤ c.toNat := hc.1
      have hhigh : c.toNat ≤ 57 := hc.2
      have hn : n = c.toNat - 48 := (Option.some.inj h).symm
      have hlt : n < 10 := by omega
      have hchar : (Nat.digitChar n).toNat = 48 + n := Nat.toNat_digitChar_of_lt_ten hlt
      refine ⟨⟨n, hlt⟩, ?_, rfl⟩
      apply Char.toNat_inj.1
      rw [hchar]
      omega
    · cases h
  · rintro ⟨d, rfl, rfl⟩
    revert d
    decide

theorem mapM_digit?_eq_some_iff {cs : List Char} {ns : List Nat} :
    cs.mapM digit? = some ns ↔
      ∃ digits : List (Fin 10), cs = spelled digits ∧ ns = digits.map Fin.val := by
  induction cs generalizing ns with
  | nil =>
    rw [List.mapM_nil]
    constructor
    · intro h
      cases h
      exact ⟨[], rfl, rfl⟩
    · rintro ⟨digits, hcs, rfl⟩
      rw [List.map_eq_nil_iff.1 hcs.symm]
      rfl
  | cons c cs ih =>
    rw [List.mapM_cons]
    constructor
    · intro h
      obtain ⟨n, hn, hrest⟩ := Option.bind_eq_some_iff.1 h
      obtain ⟨ms, hms, hns⟩ := Option.bind_eq_some_iff.1 hrest
      cases hns
      obtain ⟨d, rfl, rfl⟩ := digit?_eq_some_iff.1 hn
      obtain ⟨digits, rfl, rfl⟩ := ih.1 hms
      exact ⟨d :: digits, rfl, rfl⟩
    · rintro ⟨digits, hcs, rfl⟩
      obtain ⟨d, digits, rfl, rfl, rfl⟩ := List.map_eq_cons_iff.1 hcs.symm
      rw [digit?_eq_some_iff.2 ⟨d, rfl, rfl⟩, ih.2 ⟨digits, rfl, rfl⟩]
      rfl

theorem unsigned?_eq_some_iff {cs : List Char} {n : Nat} :
    unsigned? cs = some n ↔ ∃ digits : List (Fin 10), digits ≠ [] ∧ cs = spelled digits ∧
      n = Nat.ofDigits 10 (digits.reverse.map Fin.val) := by
  have value (digits : List (Fin 10)) :
      ofDigits (digits.map Fin.val) = Nat.ofDigits 10 (digits.reverse.map Fin.val) := by
    rw [ofDigits_eq, List.map_reverse]
  rw [unsigned?]
  constructor
  · intro h
    cases hns : cs.mapM digit? with
    | none =>
      rw [hns] at h
      cases h
    | some ns =>
      obtain ⟨digits, rfl, rfl⟩ := mapM_digit?_eq_some_iff.1 hns
      rw [hns] at h
      cases digits with
      | nil => cases h
      | cons d digits =>
        have hn : ofDigits ((d :: digits).map Fin.val) = n := Option.some.inj h
        exact ⟨d :: digits, List.cons_ne_nil _ _, rfl, hn.symm.trans (value _)⟩
  · rintro ⟨digits, hne, rfl, rfl⟩
    rw [mapM_digit?_eq_some_iff.2 ⟨digits, rfl, rfl⟩, ← value]
    cases digits with
    | nil => exact absurd rfl hne
    | cons d digits => rfl

/-- No digit is a sign. -/
theorem spelled_ne_plus {digits : List (Fin 10)} {cs : List Char} : spelled digits ≠ '+' :: cs := by
  intro h
  obtain ⟨d, -, -, hd, -⟩ := List.map_eq_cons_iff.1 h
  revert d
  decide

/-- Exactly the numerals up to the limit are read, each as the number that it denotes. -/
theorem numeral?_eq_some_iff {limit n : Nat} {s : String} :
    numeral? limit s = some n ↔ Denotes s n ∧ n ≤ limit := by
  rw [numeral?, Option.filter_eq_some_iff, decide_eq_true_iff, Denotes]
  refine and_congr_left fun _ => ?_
  split
  · rename_i cs hs
    rw [unsigned?_eq_some_iff, hs]
    refine exists_congr fun digits => and_congr_right fun _ => and_congr_left fun _ => ?_
    rw [List.cons.injEq, or_iff_right spelled_ne_plus.symm, and_iff_right rfl]
  · rename_i hplus
    rw [unsigned?_eq_some_iff]
    refine exists_congr fun digits => and_congr_right fun _ => and_congr_left fun _ => ?_
    rw [or_iff_left (hplus _)]

theorem numeral?_eq_none_iff {limit : Nat} {s : String} :
    numeral? limit s = none ↔ ∀ n ≤ limit, ¬ Denotes s n := by
  rw [Option.eq_none_iff_forall_ne_some]
  refine forall_congr' fun n => ?_
  rw [Ne, numeral?_eq_some_iff, and_comm, not_and]

end Text

/-! ### Checks one after the other -/

theorem bind_eq_ok_iff {ε α β : Type} {x : Except ε α} {f : α → Except ε β} {b : β} :
    x >>= f = .ok b ↔ ∃ a, x = .ok a ∧ f a = .ok b := by
  cases x with
  | error cause => exact ⟨nofun, nofun⟩
  | ok a =>
    constructor
    · intro h
      exact ⟨a, rfl, h⟩
    · rintro ⟨a', ha, h⟩
      cases ha
      exact h

theorem bind_eq_error_iff {ε α β : Type} {x : Except ε α} {f : α → Except ε β} {cause : ε} :
    x >>= f = .error cause ↔ x = .error cause ∨ ∃ a, x = .ok a ∧ f a = .error cause := by
  cases x with
  | error cause' =>
    have hbind : ((.error cause' : Except ε α) >>= f) = .error cause' := rfl
    rw [hbind, Except.error.injEq, Except.error.injEq, or_iff_left]
    rintro ⟨a, ha, -⟩
    cases ha
  | ok a =>
    constructor
    · intro h
      exact .inr ⟨a, rfl, h⟩
    · rintro (h | ⟨a', ha, h⟩)
      · cases h
      · cases ha
        exact h

namespace Config

variable {vars : Variables}

/-- What is asked of a variable: to be a numeral up to a limit where it is set, or to be set. -/
inductive Check where
  | number (name : String) (limit : Nat)
  | required (name : String)
  deriving DecidableEq, Repr

/-- The checks in the order in which they are made. -/
def checks : List Check :=
  [.number "BAP_PORT" 65535, .number "BAP_HTTP_TIMEOUT_SECS" (2 ^ 64 - 1),
    .required "BAP_REGISTRY_URL", .required "BAP_ID", .required "BAP_URI"]

/-- The variables that a configuration is read from. -/
def documented : List String :=
  ["BAP_REGISTRY_URL", "BAP_ID", "BAP_URI", "BAP_HOST", "BAP_PORT", "BAP_HTTP_TIMEOUT_SECS",
    "BAP_DOMAIN", "BAP_COUNTRY", "BAP_CITY", "BAP_CORE_VERSION"]

namespace Check

inductive Passes (vars : Variables) : Check → Prop
  | unset {name : String} {limit : Nat} (h : vars name = none) : Passes vars (.number name limit)
  | numeral {name text : String} {limit n : Nat} (h : vars name = some text)
      (hn : Text.Denotes text n) (hle : n ≤ limit) : Passes vars (.number name limit)
  | set {name text : String} (h : vars name = some text) : Passes vars (.required name)

/-- A check fails in one way, which names the variable, and tells the text that is no number. -/
inductive Fails (vars : Variables) : Check → ConfigFailure → Prop
  | number {name text : String} {limit : Nat} (h : vars name = some text)
      (hn : ∀ n ≤ limit, ¬ Text.Denotes text n) :
      Fails vars (.number name limit) (.invalid name text)
  | required {name : String} (h : vars name = none) : Fails vars (.required name) (.missing name)

/-- The first check that fails, all those before it having passed. -/
inductive FirstFails (vars : Variables) : List Check → ConfigFailure → Prop
  | here {c : Check} {cs : List Check} {failure : ConfigFailure} (h : c.Fails vars failure) :
      FirstFails vars (c :: cs) failure
  | later {c : Check} {cs : List Check} {failure : ConfigFailure} (h : c.Passes vars)
      (rest : FirstFails vars cs failure) : FirstFails vars (c :: cs) failure

theorem exists_fails_iff {c : Check} : (∃ failure, c.Fails vars failure) ↔ ¬ c.Passes vars := by
  constructor
  · rintro ⟨failure, hfails⟩ hpasses
    cases hfails with
    | number hv hn =>
      cases hpasses with
      | unset hv' => cases hv.symm.trans hv'
      | numeral hv' hn' hle =>
        cases hv.symm.trans hv'
        exact hn _ hle hn'
    | required hv =>
      cases hpasses with
      | set hv' => cases hv.symm.trans hv'
  · intro hpasses
    cases c with
    | number name limit =>
      cases hv : vars name with
      | none => exact absurd (.unset hv) hpasses
      | some text =>
        exact ⟨_, .number hv fun n hle hn => hpasses (.numeral hv hn hle)⟩
    | required name =>
      cases hv : vars name with
      | none => exact ⟨_, .required hv⟩
      | some text => exact absurd (.set hv) hpasses

theorem not_firstFails_nil {failure : ConfigFailure} : ¬ FirstFails vars [] failure := nofun

theorem firstFails_cons {c : Check} {cs : List Check} {failure : ConfigFailure} :
    FirstFails vars (c :: cs) failure ↔
      c.Fails vars failure ∨ c.Passes vars ∧ FirstFails vars cs failure := by
  constructor
  · rintro (h | ⟨h, rest⟩)
    · exact .inl h
    · exact .inr ⟨h, rest⟩
  · rintro (h | ⟨h, rest⟩)
    · exact .here h
    · exact .later h rest

/-- Where not all checks pass there is a first one that fails. -/
theorem exists_firstFails_iff {cs : List Check} :
    (∃ failure, FirstFails vars cs failure) ↔ ¬ ∀ c ∈ cs, c.Passes vars := by
  induction cs with
  | nil =>
    refine iff_of_false ?_ ?_
    · rintro ⟨failure, h⟩
      cases h
    · exact fun h => h nofun
  | cons c cs ih =>
    simp only [firstFails_cons, exists_or, exists_and_left, exists_fails_iff, ih]
    rw [List.forall_mem_cons]
    tauto

end Check

/-! ### Variables one by one -/

/-- The number that a variable gives: what its numeral denotes, or the fallback
where it is unset. -/
inductive Gives (vars : Variables) (name : String) (limit fallback : Nat) : Nat → Prop
  | unset (h : vars name = none) : Gives vars name limit fallback fallback
  | numeral {text : String} {n : Nat} (h : vars name = some text) (hn : Text.Denotes text n)
      (hle : n ≤ limit) : Gives vars name limit fallback n

section

variable {name : String} {limit fallback : Nat}

theorem numberOr_eq_ok_iff {n : Nat} :
    numberOr vars name limit fallback = .ok n ↔ Gives vars name limit fallback n := by
  rw [numberOr]
  constructor
  · intro h
    cases hv : vars name with
    | none =>
      rw [hv] at h
      cases h
      exact .unset hv
    | some text =>
      rw [hv] at h
      cases hn : Text.numeral? limit text with
      | none => simp [hn] at h
      | some m =>
        simp only [hn] at h
        cases h
        obtain ⟨hdenotes, hle⟩ := Text.numeral?_eq_some_iff.1 hn
        exact .numeral hv hdenotes hle
  · intro h
    cases h with
    | unset hv => rw [hv]
    | numeral hv hn hle =>
      rw [hv]
      simp only [Text.numeral?_eq_some_iff.2 ⟨hn, hle⟩]

theorem numberOr_eq_error_iff {failure : ConfigFailure} :
    numberOr vars name limit fallback = .error failure ↔
      (Check.number name limit).Fails vars failure := by
  rw [numberOr]
  constructor
  · intro h
    cases hv : vars name with
    | none =>
      rw [hv] at h
      cases h
    | some text =>
      rw [hv] at h
      cases hn : Text.numeral? limit text with
      | none =>
        simp only [hn] at h
        cases h
        exact .number hv (Text.numeral?_eq_none_iff.1 hn)
      | some m => simp [hn] at h
  · intro h
    cases h with
    | number hv hn =>
      rw [hv]
      simp only [Text.numeral?_eq_none_iff.2 hn]

theorem exists_numberOr_iff :
    (∃ n, numberOr vars name limit fallback = .ok n) ↔ (Check.number name limit).Passes vars := by
  simp only [numberOr_eq_ok_iff]
  constructor
  · rintro ⟨n, hv | ⟨hv, hn, hle⟩⟩
    · exact .unset hv
    · exact .numeral hv hn hle
  · rintro (hv | ⟨hv, hn, hle⟩)
    · exact ⟨fallback, .unset hv⟩
    · exact ⟨_, .numeral hv hn hle⟩

theorem required_eq_ok_iff {text : String} :
    required vars name = .ok text ↔ vars name = some text := by
  rw [required]
  cases vars name with
  | none => exact ⟨nofun, nofun⟩
  | some value => rw [Except.ok.injEq, Option.some.injEq]

theorem required_eq_error_iff {failure : ConfigFailure} :
    required vars name = .error failure ↔ (Check.required name).Fails vars failure := by
  rw [required]
  constructor
  · intro h
    cases hv : vars name with
    | none =>
      rw [hv] at h
      cases h
      exact .required hv
    | some text =>
      rw [hv] at h
      cases h
  · intro h
    cases h with
    | required hv => rw [hv]

theorem exists_required_iff :
    (∃ text, required vars name = .ok text) ↔ (Check.required name).Passes vars := by
  simp only [required_eq_ok_iff]
  constructor
  · rintro ⟨text, hv⟩
    exact .set hv
  · intro h
    cases h with
    | set hv => exact ⟨_, hv⟩

end

/-! ### Configurations -/

/-- The configuration that stands in some variables: two numbers, three texts that have to be there,
and five that have a default. -/
structure Describes (vars : Variables) (c : Config) : Prop where
  port : Gives vars "BAP_PORT" 65535 8080 c.port.toNat
  timeout : Gives vars "BAP_HTTP_TIMEOUT_SECS" (2 ^ 64 - 1) 40 c.timeout.toNat
  registryUrl : vars "BAP_REGISTRY_URL" = some c.registryUrl
  bapId : vars "BAP_ID" = some c.context.bapId
  bapUri : vars "BAP_URI" = some c.context.bapUri
  host : c.host = (vars "BAP_HOST").getD "0.0.0.0"
  domain : c.context.domain = (vars "BAP_DOMAIN").getD "nic2004:52110"
  country : c.context.country = (vars "BAP_COUNTRY").getD "IND"
  city : c.context.city = (vars "BAP_CITY").getD "std:080"
  coreVersion : c.context.coreVersion = (vars "BAP_CORE_VERSION").getD "0.9.1"

theorem Gives.le {name : String} {limit fallback n : Nat} (h : Gives vars name limit fallback n)
    (hf : fallback ≤ limit) : n ≤ limit := by
  cases h with
  | unset hv => exact hf
  | numeral hv hn hle => exact hle

theorem ofVariables_eq_ok_iff {c : Config} : ofVariables vars = .ok c ↔ Describes vars c := by
  simp only [ofVariables, bind_eq_ok_iff, numberOr_eq_ok_iff, required_eq_ok_iff]
  constructor
  · rintro ⟨port, hport, timeout, htimeout, url, hurl, id, hid, uri, huri, h⟩
    cases h
    -- Neither number is cut off, since none is above its limit.
    have hfit : (UInt16.ofNat port).toNat = port :=
      UInt16.toNat_ofNat_of_lt' (Nat.lt_succ_of_le (hport.le (by decide)))
    have hlong : (UInt64.ofNat timeout).toNat = timeout :=
      UInt64.toNat_ofNat_of_lt' (Nat.lt_succ_of_le (htimeout.le (by decide)))
    refine ⟨?_, ?_, hurl, hid, huri, rfl, rfl, rfl, rfl, rfl⟩
    · rw [hfit]
      exact hport
    · rw [hlong]
      exact htimeout
  · intro h
    refine ⟨_, h.port, _, h.timeout, _, h.registryUrl, _, h.bapId, _, h.bapUri, ?_⟩
    obtain ⟨host, port, url, timeout, domain, country, city, coreVersion, id, uri⟩ := c
    obtain rfl := h.host
    obtain rfl := h.domain
    obtain rfl := h.country
    obtain rfl := h.city
    obtain rfl := h.coreVersion
    rw [UInt16.ofNat_toNat, UInt64.ofNat_toNat]
    rfl

theorem ofVariables_eq_error_iff {failure : ConfigFailure} :
    ofVariables vars = .error failure ↔ Check.FirstFails vars checks failure := by
  have hlast {c : Config} : (pure c : Except ConfigFailure Config) = .error failure ↔ False :=
    ⟨nofun, False.elim⟩
  simp only [ofVariables, bind_eq_error_iff, numberOr_eq_error_iff, required_eq_error_iff, hlast,
    and_false, exists_const, or_false, exists_and_right, exists_numberOr_iff, exists_required_iff]
  simp only [checks, Check.firstFails_cons, Check.not_firstFails_nil, and_false, or_false]
  rfl

/-- Whatever else is set, a configuration stands in the documented variables alone. -/
theorem ofVariables_congr {vars' : Variables} (h : ∀ name ∈ documented, vars' name = vars name) :
    ofVariables vars' = ofVariables vars := by
  simp only [documented, List.forall_mem_cons, List.not_mem_nil, false_implies, implies_true,
    and_true] at h
  obtain ⟨hurl, hid, huri, hhost, hport, htimeout, hdomain, hcountry, hcity, hversion⟩ := h
  simp only [ofVariables, numberOr, required, hurl, hid, huri, hhost, hport, htimeout, hdomain,
    hcountry, hcity, hversion]

/-- Variables give a configuration exactly if each of its checks passes,
and else the first check that fails is told, by its variable and by the
text that is no number. No other variable has a part in it. -/
theorem config_is_read_from_documented_variables (vars : Variables) :
    ((∃ c, ofVariables vars = .ok c) ↔ ∀ check ∈ checks, check.Passes vars) ∧
    (∀ c, ofVariables vars = .ok c ↔ Describes vars c) ∧
    (∀ failure, ofVariables vars = .error failure ↔ Check.FirstFails vars checks failure) ∧
    ∀ vars' : Variables, (∀ name ∈ documented, vars' name = vars name) →
      ofVariables vars' = ofVariables vars := by
  refine ⟨?_, fun c => ofVariables_eq_ok_iff, fun failure => ofVariables_eq_error_iff,
    fun vars' => ofVariables_congr⟩
  have hfails : (∃ failure, Check.FirstFails vars checks failure) ↔ _ := Check.exists_firstFails_iff
  simp only [← ofVariables_eq_error_iff] at hfails
  rw [← not_iff_not, ← hfails]
  cases ofVariables vars with
  | ok c => simp
  | error failure => simp

/-- A port with zeros in front of it, and of the rest only what has to be there. -/
def fewVariables : Variables := fun name =>
  [("BAP_PORT", "+0080"), ("BAP_REGISTRY_URL", "r"), ("BAP_ID", "i"), ("BAP_URI", "u")].lookup name

/-- The port of `fewVariables` is read, be the path set or not. -/
theorem padded_port_is_read :
    ofVariables fewVariables =
      .ok ⟨"0.0.0.0", 80, "r", 40, ⟨"nic2004:52110", "IND", "std:080", "0.9.1", "i", "u"⟩⟩ ∧
    ofVariables (fun name => if name = "PATH" then some "/bin" else fewVariables name) =
      ofVariables fewVariables := by
  obtain ⟨-, hok, -, hlocal⟩ := config_is_read_from_documented_variables fewVariables
  have hport : Text.Denotes "+0080" 80 := ⟨[0, 0, 8, 0], by decide, by decide, by decide⟩
  refine ⟨(hok _).2 ?_, ?_⟩
  · exact ⟨.numeral rfl hport (by decide), .unset rfl, rfl, rfl, rfl, rfl, rfl, rfl, rfl, rfl⟩
  · apply hlocal
    decide

end Config

end BuyerGateway
