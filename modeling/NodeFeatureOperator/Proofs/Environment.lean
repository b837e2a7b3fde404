import Mathlib.Algebra.Group.Nat.Defs
import Mathlib.Data.List.Basic
import NodeFeatureOperator.Proofs.Classification
import NodeFeatureOperator.Settings

/-!
# The settings that an environment gives

A text denotes a number if it is a plus or nothing and then at least one digit. Reading it goes from
the left and stops at the first sign of trouble (`readNumber_ok`, `readNumber_error`). The settings
read one variable after the other, so the error is that of the first variable that cannot be read;
how the interval compares with the timeout matters only when all of them can
(`ofEnvironment_exact`).
-/

namespace NodeFeatureOperator.Settings

variable {text : String} {n acc : Nat} {c : Char} {cs before : List Char} {fault : NumberFault}

/-! ## Numbers -/

/-- The text behind the plus that may lead it. -/
def unsigned (text : String) : List Char :=
  match text.toList with
  | '+' :: cs => cs
  | cs => cs

/-- The text is a plus or nothing and then digits, at least one, that denote the number. -/
structure Denotes (text : String) (n : Nat) : Prop where
  nonempty : unsigned text ≠ []
  digits : ∀ c ∈ unsigned text, c.isDigit
  value : Nat.ofDigitChars 10 (unsigned text) 0 = n

/-- Digits that, read behind another number, denote one of 64 bits. -/
structure Fits (acc : Nat) (cs : List Char) : Prop where
  digits : ∀ c ∈ cs, c.isDigit
  bound : Nat.ofDigitChars 10 cs acc < 2 ^ 64

/-- The first character with which the text no longer denotes a number of 64 bits, and why. -/
inductive Breaks (acc : Nat) (cs : List Char) : NumberFault → Prop
  | badDigit {before after : List Char} {c : Char} :
      cs = before ++ c :: after → Fits acc before → ¬ c.isDigit → Breaks acc cs .badDigit
  | tooLarge {before after : List Char} {c : Char} :
      cs = before ++ c :: after → Fits acc before → c.isDigit →
      2 ^ 64 ≤ Nat.ofDigitChars 10 (before ++ [c]) acc → Breaks acc cs .tooLarge

/-- Why the text denotes no number of 64 bits. -/
inductive NumberFault.Of (text : String) : NumberFault → Prop
  | empty : text = "" → NumberFault.Of text .empty
  | bare : text = "+" → NumberFault.Of text .badDigit
  | breaks {fault : NumberFault} : Breaks 0 (unsigned text) fault → NumberFault.Of text fault

theorem ofDigitChars_single : Nat.ofDigitChars 10 [c] acc = acc * 10 + (c.toNat - '0'.toNat) := by
  rw [Nat.ofDigitChars_cons, Nat.ofDigitChars_nil, Nat.mul_comm]

theorem Fits.nil (h : acc < 2 ^ 64) : Fits acc [] :=
  ⟨nofun, by rwa [Nat.ofDigitChars_nil]⟩

theorem Fits.cons (hc : c.isDigit) (h : Fits (Nat.ofDigitChars 10 [c] acc) cs) :
    Fits acc (c :: cs) where
  digits := List.forall_mem_cons.2 ⟨hc, h.digits⟩
  bound := by
    rw [← List.singleton_append, Nat.ofDigitChars_append]
    exact h.bound

theorem Breaks.cons (hc : c.isDigit) (h : Breaks (Nat.ofDigitChars 10 [c] acc) cs fault) :
    Breaks acc (c :: cs) fault := by
  cases h with
  | badDigit hsplit hfits hbad => exact .badDigit (congrArg (c :: ·) hsplit) (hfits.cons hc) hbad
  | tooLarge hsplit hfits hdigit hlarge =>
    refine .tooLarge (congrArg (c :: ·) hsplit) (hfits.cons hc) hdigit ?_
    rw [List.cons_append, ← List.singleton_append, Nat.ofDigitChars_append]
    exact hlarge

theorem Breaks.ne_nil (h : Breaks acc cs fault) : cs ≠ [] := by
  cases h with
  | badDigit hsplit => simp [hsplit]
  | tooLarge hsplit => simp [hsplit]

theorem fits_or_breaks (cs : List Char) (h : acc < 2 ^ 64) :
    Fits acc cs ∨ ∃ fault, Breaks acc cs fault := by
  induction cs generalizing acc with
  | nil => exact Or.inl (.nil h)
  | cons c cs ih =>
    have hsplit : c :: cs = [] ++ c :: cs := (List.nil_append _).symm
    by_cases hc : c.isDigit
    · by_cases hbound : Nat.ofDigitChars 10 [c] acc < 2 ^ 64
      · obtain hfits | ⟨fault, hbreaks⟩ := ih hbound
        · exact Or.inl (hfits.cons hc)
        · exact Or.inr ⟨fault, hbreaks.cons hc⟩
      · exact Or.inr ⟨_, .tooLarge hsplit (.nil h) hc (Nat.not_lt.1 hbound)⟩
    · exact Or.inr ⟨_, .badDigit hsplit (.nil h) hc⟩

theorem le_ofDigitChars (cs : List Char) (acc : Nat) : acc ≤ Nat.ofDigitChars 10 cs acc := by
  rw [Nat.ofDigitChars_eq_ofDigitChars_zero]
  have hpos : 0 < 10 ^ cs.length := Nat.pow_pos (by decide)
  exact Nat.le_trans (Nat.le_mul_of_pos_left acc hpos) (Nat.le_add_right ..)

theorem Fits.readDigits_append (h : Fits acc before) (cs : List Char) :
    readDigits acc (before ++ cs) = readDigits (Nat.ofDigitChars 10 before acc) cs := by
  induction before generalizing acc with
  | nil => rw [List.nil_append, Nat.ofDigitChars_nil]
  | cons c before ih =>
    obtain ⟨hc, hdigits⟩ := List.forall_mem_cons.1 h.digits
    have hbound := h.bound
    rw [← List.singleton_append, Nat.ofDigitChars_append] at hbound ⊢
    have hstep : Nat.ofDigitChars 10 [c] acc < 2 ^ 64 :=
      Nat.lt_of_le_of_lt (le_ofDigitChars ..) hbound
    rw [← ih ⟨hdigits, hbound⟩]
    rw [ofDigitChars_single] at hstep ⊢
    simp only [List.cons_append, readDigits, if_pos hc]
    exact if_pos hstep

theorem Fits.readDigits (h : Fits acc cs) :
    readDigits acc cs = .ok (Nat.ofDigitChars 10 cs acc) := by
  have hread := h.readDigits_append []
  rwa [List.append_nil] at hread

theorem Breaks.readDigits (h : Breaks acc cs fault) : readDigits acc cs = .error fault := by
  cases h with
  | badDigit hsplit hfits hbad =>
    rw [hsplit, hfits.readDigits_append, Settings.readDigits, if_neg hbad]
  | tooLarge hsplit hfits hdigit hlarge =>
    rw [Nat.ofDigitChars_append, ofDigitChars_single] at hlarge
    rw [hsplit, hfits.readDigits_append, Settings.readDigits, if_pos hdigit]
    exact if_neg (Nat.not_lt.2 hlarge)

theorem unsigned_eq_nil : unsigned text = [] ↔ text = "" ∨ text = "+" := by
  have hplus : text = "+" ↔ text.toList = ['+'] := String.toList_inj.symm
  rw [← String.toList_eq_nil_iff, hplus]
  unfold unsigned
  split
  · next cs htext => simp [htext]
  · next hunsigned =>
    exact (or_iff_left fun hplus => hunsigned [] hplus).symm

theorem readNumber_eq (h : unsigned text ≠ []) :
    readNumber text = readDigits 0 (unsigned text) := by
  unfold readNumber
  unfold unsigned at h ⊢
  generalize text.toList = cs at h ⊢
  cases cs with
  | nil => exact absurd rfl h
  | cons c cs =>
    by_cases hc : c = '+'
    · subst hc
      cases cs with
      | nil => exact absurd rfl h
      | cons d cs => rfl
    · simp [hc]

theorem Denotes.readNumber (h : Denotes text n) (hn : n < 2 ^ 64) : readNumber text = .ok n := by
  obtain ⟨hnonempty, hdigits, rfl⟩ := h
  rw [readNumber_eq hnonempty]
  exact Fits.readDigits ⟨hdigits, hn⟩

theorem NumberFault.Of.readNumber (h : fault.Of text) : readNumber text = .error fault := by
  cases h with
  | empty htext => rw [htext]; rfl
  | bare htext => rw [htext]; rfl
  | breaks hbreaks =>
    rw [readNumber_eq hbreaks.ne_nil]
    exact hbreaks.readDigits

theorem denotes_or_fault (text : String) :
    (∃ n, Denotes text n ∧ n < 2 ^ 64) ∨ ∃ fault : NumberFault, fault.Of text := by
  by_cases hnil : unsigned text = []
  · obtain htext | htext := unsigned_eq_nil.1 hnil
    · exact Or.inr ⟨_, .empty htext⟩
    · exact Or.inr ⟨_, .bare htext⟩
  · obtain hfits | ⟨fault, hbreaks⟩ := fits_or_breaks (unsigned text) (Nat.two_pow_pos 64)
    · exact Or.inl ⟨_, ⟨hnil, hfits.digits, rfl⟩, hfits.bound⟩
    · exact Or.inr ⟨fault, .breaks hbreaks⟩

theorem readNumber_ok : readNumber text = .ok n ↔ Denotes text n ∧ n < 2 ^ 64 := by
  refine ⟨fun h => ?_, fun h => h.1.readNumber h.2⟩
  obtain ⟨m, hm, hbound⟩ | ⟨fault, hfault⟩ := denotes_or_fault text
  · obtain rfl := Except.ok.inj ((hm.readNumber hbound).symm.trans h)
    exact ⟨hm, hbound⟩
  · cases hfault.readNumber.symm.trans h

theorem readNumber_error : readNumber text = .error fault ↔ fault.Of text := by
  refine ⟨fun h => ?_, fun h => h.readNumber⟩
  obtain ⟨m, hm, hbound⟩ | ⟨fault', hfault⟩ := denotes_or_fault text
  · cases (hm.readNumber hbound).symm.trans h
  · obtain rfl := Except.error.inj (hfault.readNumber.symm.trans h)
    exact hfault

/-! ## One variable -/

section

variable {env : String → Option String} {name : String} {names : List String} {e : Error}

/-- The variable is unset and the span is the default, or it denotes the seconds of the span. -/
def SecondsOf (env : String → Option String) (name : String) (default d : Duration) : Prop :=
  env name = none ∧ d = default ∨
    ∃ text n, env name = some text ∧ Denotes text n ∧ n < 2 ^ 64 ∧ d = .ofSeconds n

/-- The variable is unset and the answer is the default, or it is one of the words for it. -/
def AnswerOf (env : String → Option String) (name : String) (default b : Bool) : Prop :=
  -- `toLower` leaves letters beyond ASCII alone. The only ones of them with an ASCII letter in their
  -- lower case are the Kelvin sign, for `k`, and the dotted `İ`, for `i`; no word has either.
  env name = none ∧ b = default ∨
    ∃ text, env name = some text ∧
      (text.toLower ∈ ["1", "true", "yes"] ∧ b = true ∨
        text.toLower ∈ ["0", "false", "no"] ∧ b = false)

/-- The variables that give seconds, in the order in which they are read. -/
def secondsNames : List String :=
  ["DELETE_RETRY_INTERVAL_SECS", "DELETE_TIMEOUT_SECS", "FINALIZE_REQUEUE_SECS",
    "PRUNE_REQUEUE_SECS", "RESYNC_SECS", "ERROR_REQUEUE_SECS", "MAX_ERROR_REQUEUE_SECS"]

/-- The variables that can be malformed, in the order in which they are read. -/
def checkedNames : List String := "MANAGE_SCC" :: secondsNames

/-- The variable is malformed, and the error says so. -/
inductive Malformed (env : String → Option String) : String → Error → Prop
  | answer {text : String} : env "MANAGE_SCC" = some text →
      text.toLower ∉ ["1", "true", "yes", "0", "false", "no"] →
      Malformed env "MANAGE_SCC" (.configuration ("MANAGE_SCC=" ++ text ++ " is not a boolean"))
  | seconds {name text : String} {fault : NumberFault} : name ∈ secondsNames →
      env name = some text → fault.Of text →
      Malformed env name (.configuration (name ++ "=" ++ text ++ ": " ++ fault.toText))

/-- The error of the first variable of a list that is malformed. -/
def FirstMalformed (env : String → Option String) (names : List String) (e : Error) : Prop :=
  ∃ name, IsFirst (fun name => ∃ e, Malformed env name e) names name ∧ Malformed env name e

theorem seconds_ok {default d : Duration} :
    seconds env name default = .ok d ↔ SecondsOf env name default d := by
  constructor
  · intro h
    unfold seconds at h
    split at h
    · next hunset => exact Or.inl ⟨hunset, (Except.ok.inj h).symm⟩
    · next text hset =>
      split at h
      · next n hread =>
        obtain ⟨hdenotes, hbound⟩ := readNumber_ok.1 hread
        exact Or.inr ⟨text, n, hset, hdenotes, hbound, (Except.ok.inj h).symm⟩
      · cases h
  · rintro (⟨hunset, rfl⟩ | ⟨text, n, hset, hdenotes, hbound, rfl⟩)
    · rw [seconds, hunset]
    · simp only [seconds, hset, hdenotes.readNumber hbound]

theorem seconds_error {default : Duration} (hname : name ∈ secondsNames) :
    seconds env name default = .error e ↔ Malformed env name e := by
  constructor
  · intro h
    unfold seconds at h
    split at h
    · cases h
    · next text hset =>
      split at h
      · cases h
      · next fault hread =>
        obtain rfl := Except.error.inj h
        exact .seconds hname hset (readNumber_error.1 hread)
  · intro h
    cases h with
    | answer => exact absurd hname (by decide)
    | seconds _ hset hfault => simp only [seconds, hset, hfault.readNumber]

theorem answer_ok {default b : Bool} :
    answer env name default = .ok b ↔ AnswerOf env name default b := by
  constructor
  · intro h
    unfold answer at h
    split at h
    · next hunset => exact Or.inl ⟨hunset, (Except.ok.inj h).symm⟩
    · next text hset =>
      dsimp only at h
      split at h
      · next hyes => exact Or.inr ⟨text, hset, Or.inl ⟨hyes, (Except.ok.inj h).symm⟩⟩
      split at h
      · next hno => exact Or.inr ⟨text, hset, Or.inr ⟨hno, (Except.ok.inj h).symm⟩⟩
      · cases h
  · rintro (⟨hunset, rfl⟩ | ⟨text, hset, ⟨hyes, rfl⟩ | ⟨hno, rfl⟩⟩)
    · rw [answer, hunset]
    · simp only [answer, hset, if_pos hyes]
    · have hdisjoint : ∀ word ∈ ["0", "false", "no"], word ∉ ["1", "true", "yes"] := by decide
      have hyes := hdisjoint _ hno
      simp only [answer, hset, if_neg hyes, if_pos hno]

theorem answer_error {default : Bool} :
    answer env "MANAGE_SCC" default = .error e ↔ Malformed env "MANAGE_SCC" e := by
  have hwords (word : String) : word ∉ ["1", "true", "yes", "0", "false", "no"] ↔
      word ∉ ["1", "true", "yes"] ∧ word ∉ ["0", "false", "no"] := by
    rw [← not_or, ← List.mem_append]
    rfl
  constructor
  · intro h
    unfold answer at h
    split at h
    · cases h
    · next text hset =>
      dsimp only at h
      split at h
      · cases h
      next hyes =>
      split at h
      · cases h
      next hno =>
      obtain rfl := Except.error.inj h
      exact .answer hset ((hwords _).2 ⟨hyes, hno⟩)
  · intro h
    cases h with
    | answer hset hword =>
      obtain ⟨hyes, hno⟩ := (hwords _).1 hword
      simp only [answer, hset, if_neg hyes, if_neg hno]
      rfl
    | seconds hname => exact absurd hname (by decide)

/-! ## One variable after the other -/

theorem firstMalformed_cons : FirstMalformed env (name :: names) e ↔
    Malformed env name e ∨ (∀ e, ¬ Malformed env name e) ∧ FirstMalformed env names e := by
  unfold FirstMalformed
  simp only [isFirst_cons, not_exists]
  constructor
  · rintro ⟨name', ⟨-, rfl⟩ | ⟨hsound, hfirst⟩, hmalformed⟩
    · exact Or.inl hmalformed
    · exact Or.inr ⟨hsound, name', hfirst, hmalformed⟩
  · rintro (hmalformed | ⟨hsound, name', hfirst, hmalformed⟩)
    · exact ⟨name, Or.inl ⟨⟨e, hmalformed⟩, rfl⟩, hmalformed⟩
    · exact ⟨name', Or.inr ⟨hsound, hfirst⟩, hmalformed⟩

theorem not_firstMalformed_nil : ¬ FirstMalformed env [] e := by
  rintro ⟨name, hfirst, -⟩
  cases hfirst.mem

theorem bind_ok {α β : Type} {x : Except Error α} {f : α → Except Error β} {b : β} :
    x >>= f = .ok b ↔ ∃ a, x = .ok a ∧ f a = .ok b := by
  cases x <;> simp [bind, Except.bind]

/-- A step that reads a variable fails if the variable is malformed. The rest fails with what is
malformed among the variables that are left, or where all are sound with what comes last. -/
theorem bind_error {α β : Type} {x : Except Error α} {f : α → Except Error β} {last : Prop}
    (hx : ∀ e, x = .error e ↔ Malformed env name e)
    (hf : ∀ a, x = .ok a → (f a = .error e ↔
      FirstMalformed env names e ∨ (∀ name ∈ names, ∀ e, ¬ Malformed env name e) ∧ last)) :
    x >>= f = .error e ↔ FirstMalformed env (name :: names) e ∨
      (∀ name' ∈ name :: names, ∀ e, ¬ Malformed env name' e) ∧ last := by
  rw [firstMalformed_cons, List.forall_mem_cons]
  cases hread : x with
  | error e' =>
    have hmalformed := (hx e').1 hread
    have hunsound : ¬ ∀ e, ¬ Malformed env name e := fun h => h e' hmalformed
    simp only [hunsound, false_and, or_false]
    rw [← hx e, hread]
    simp [bind, Except.bind]
  | ok a =>
    have hsound : ∀ e, ¬ Malformed env name e := by
      intro e h
      cases hread.symm.trans ((hx e).2 h)
    simp only [hsound, not_false_iff, implies_true, true_and, false_or]
    exact hf a hread

/-! ## All settings -/

/-- The settings that are those of the environment, or else the defaults. -/
structure Describes (env : String → Option String) (s : Settings) : Prop where
  image : s.defaultImage = (env "NODE_FEATURE_DISCOVERY_IMAGE").getD
    "registry.k8s.io/nfd/node-feature-discovery:v0.16.4"
  watched : ∀ ns, s.watchNamespace = some ns ↔ env "WATCH_NAMESPACE" = some ns ∧ ns ≠ ""
  policies : AnswerOf env "MANAGE_SCC" true s.manageSecurityPolicies
  interval : SecondsOf env "DELETE_RETRY_INTERVAL_SECS" (.ofSeconds 5) s.deleteRetry.interval
  timeout : SecondsOf env "DELETE_TIMEOUT_SECS" (.ofSeconds 30) s.deleteRetry.timeout
  ordered : s.deleteRetry.interval ≤ s.deleteRetry.timeout
  finalizing : SecondsOf env "FINALIZE_REQUEUE_SECS" (.ofSeconds 10) s.finalizeRequeue
  pruning : SecondsOf env "PRUNE_REQUEUE_SECS" (.ofSeconds 10) s.pruneRequeue
  settled : SecondsOf env "RESYNC_SECS" (.ofSeconds 300) s.resync
  failed : SecondsOf env "ERROR_REQUEUE_SECS" (.ofSeconds 5) s.errorRequeue
  failing : SecondsOf env "MAX_ERROR_REQUEUE_SECS" (.ofSeconds 300) s.maxErrorRequeue
  address : s.bindAddress = (env "BIND_ADDRESS").getD "0.0.0.0:8080"
  logs : s.jsonLogs = true ↔ ∃ text, env "LOG_FORMAT" = some text ∧ text.toLower = "json"

theorem ofEnvironment_ok {s : Settings} : ofEnvironment env = .ok s ↔ Describes env s := by
  unfold ofEnvironment
  constructor
  · intro h
    obtain ⟨manage, hmanage, h⟩ := bind_ok.1 h
    obtain ⟨interval, hinterval, h⟩ := bind_ok.1 h
    obtain ⟨timeout, htimeout, h⟩ := bind_ok.1 h
    obtain ⟨finalizing, hfinalizing, h⟩ := bind_ok.1 h
    obtain ⟨pruning, hpruning, h⟩ := bind_ok.1 h
    obtain ⟨settled, hsettled, h⟩ := bind_ok.1 h
    obtain ⟨failed, hfailed, h⟩ := bind_ok.1 h
    obtain ⟨failing, hfailing, h⟩ := bind_ok.1 h
    dsimp only at h
    split at h
    · cases h
    next hordered =>
    cases h
    refine ⟨rfl, fun ns => ?_, answer_ok.1 hmanage, seconds_ok.1 hinterval, seconds_ok.1 htimeout,
      Nat.not_lt.1 hordered, seconds_ok.1 hfinalizing, seconds_ok.1 hpruning,
      seconds_ok.1 hsettled, seconds_ok.1 hfailed, seconds_ok.1 hfailing, rfl, ?_⟩
    · simp [Option.filter_eq_some_iff]
    · simp [Option.any_eq_true]
  · intro h
    refine bind_ok.2 ⟨_, answer_ok.2 h.policies, bind_ok.2 ⟨_, seconds_ok.2 h.interval, ?_⟩⟩
    refine bind_ok.2 ⟨_, seconds_ok.2 h.timeout, bind_ok.2 ⟨_, seconds_ok.2 h.finalizing, ?_⟩⟩
    refine bind_ok.2 ⟨_, seconds_ok.2 h.pruning, bind_ok.2 ⟨_, seconds_ok.2 h.settled, ?_⟩⟩
    refine bind_ok.2 ⟨_, seconds_ok.2 h.failed, bind_ok.2 ⟨_, seconds_ok.2 h.failing, ?_⟩⟩
    have hwatched : (env "WATCH_NAMESPACE").filter (· ≠ "") = s.watchNamespace :=
      Option.ext fun ns => by simp [h.watched, Option.filter_eq_some_iff]
    have hlogs : ((env "LOG_FORMAT").any fun text => decide (text.toLower = "json")) = s.jsonLogs :=
      Bool.eq_iff_iff.2 (by simp [h.logs, Option.any_eq_true])
    have hordered : ¬ s.deleteRetry.interval > s.deleteRetry.timeout := Nat.not_lt.2 h.ordered
    dsimp only
    rw [if_neg hordered, hwatched, hlogs, ← h.image, ← h.address]
    rfl

/-- The interval of the environment, or else the default, is larger than the timeout. -/
def Conflicts (env : String → Option String) : Prop :=
  ∃ interval timeout, SecondsOf env "DELETE_RETRY_INTERVAL_SECS" (.ofSeconds 5) interval ∧
    SecondsOf env "DELETE_TIMEOUT_SECS" (.ofSeconds 30) timeout ∧ timeout < interval

theorem conflicts_iff {interval timeout : Duration}
    (hinterval : SecondsOf env "DELETE_RETRY_INTERVAL_SECS" (.ofSeconds 5) interval)
    (htimeout : SecondsOf env "DELETE_TIMEOUT_SECS" (.ofSeconds 30) timeout) :
    Conflicts env ↔ timeout < interval := by
  refine ⟨fun h => ?_, fun h => ⟨interval, timeout, hinterval, htimeout, h⟩⟩
  obtain ⟨interval', timeout', hinterval', htimeout', hlt⟩ := h
  obtain rfl := Except.ok.inj ((seconds_ok.2 hinterval).symm.trans (seconds_ok.2 hinterval'))
  obtain rfl := Except.ok.inj ((seconds_ok.2 htimeout).symm.trans (seconds_ok.2 htimeout'))
  exact hlt

theorem ofEnvironment_error : ofEnvironment env = .error e ↔
    FirstMalformed env checkedNames e ∨
      (∀ name ∈ checkedNames, ∀ e, ¬ Malformed env name e) ∧ Conflicts env ∧
        e = .configuration "DELETE_RETRY_INTERVAL_SECS is larger than DELETE_TIMEOUT_SECS" := by
  unfold ofEnvironment checkedNames secondsNames
  refine bind_error (fun e => answer_error) fun manage hmanage => ?_
  refine bind_error (fun e => seconds_error (by decide)) fun interval hinterval => ?_
  refine bind_error (fun e => seconds_error (by decide)) fun timeout htimeout => ?_
  refine bind_error (fun e => seconds_error (by decide)) fun finalizing hfinalizing => ?_
  refine bind_error (fun e => seconds_error (by decide)) fun pruning hpruning => ?_
  refine bind_error (fun e => seconds_error (by decide)) fun settled hsettled => ?_
  refine bind_error (fun e => seconds_error (by decide)) fun failed hfailed => ?_
  refine bind_error (fun e => seconds_error (by decide)) fun failing hfailing => ?_
  rw [conflicts_iff (seconds_ok.1 hinterval) (seconds_ok.1 htimeout)]
  rw [or_iff_right not_firstMalformed_nil, and_iff_right nofun]
  dsimp only
  split
  · next hlarger =>
    constructor
    · intro h
      exact ⟨hlarger, (Except.error.inj h).symm⟩
    · rintro ⟨-, rfl⟩
      rfl
  · next hsmaller => exact iff_of_false nofun fun h => hsmaller h.1

theorem sound_answer : (∀ e, ¬ Malformed env "MANAGE_SCC" e) ↔
    ∀ text, env "MANAGE_SCC" = some text →
      text.toLower ∈ ["1", "true", "yes", "0", "false", "no"] := by
  constructor
  · intro h text hset
    refine Decidable.byContradiction fun hword => ?_
    exact h _ (.answer hset hword)
  · intro h e hmalformed
    cases hmalformed with
    | answer hset hword => exact hword (h _ hset)
    | seconds hname => exact absurd hname (by decide)

theorem sound_seconds (hname : name ∈ secondsNames) : (∀ e, ¬ Malformed env name e) ↔
    ∀ text, env name = some text → ∃ n, Denotes text n ∧ n < 2 ^ 64 := by
  constructor
  · intro h text hset
    obtain hdenotes | ⟨fault, hfault⟩ := denotes_or_fault text
    · exact hdenotes
    · exact absurd (.seconds hname hset hfault) (h _)
  · intro h e hmalformed
    cases hmalformed with
    | answer => exact absurd hname (by decide)
    | seconds _ hset hfault =>
      obtain ⟨n, hdenotes, hbound⟩ := h _ hset
      cases (hdenotes.readNumber hbound).symm.trans hfault.readNumber

theorem exists_ofEnvironment_ok : (∃ s, ofEnvironment env = .ok s) ↔
    (∀ name ∈ checkedNames, ∀ e, ¬ Malformed env name e) ∧ ¬ Conflicts env := by
  have hsound : (∀ name ∈ checkedNames, ∀ e, ¬ Malformed env name e) ↔
      ¬ ∃ e, FirstMalformed env checkedNames e := by
    unfold FirstMalformed
    simp only [exists_of_isFirst, not_exists, not_and]
  cases hread : ofEnvironment env with
  | error e =>
    refine iff_of_false nofun fun h => ?_
    obtain hfirst | ⟨-, hconflict, -⟩ := ofEnvironment_error.1 hread
    · exact hsound.1 h.1 ⟨e, hfirst⟩
    · exact h.2 hconflict
  | ok s =>
    have hnone (e : Error) : ofEnvironment env ≠ .error e := by simp [hread]
    have hfirst : ¬ ∃ e, FirstMalformed env checkedNames e := by
      rintro ⟨e, hfirst⟩
      exact hnone e (ofEnvironment_error.2 (Or.inl hfirst))
    refine iff_of_true ⟨s, rfl⟩ ⟨hsound.2 hfirst, fun hconflict => ?_⟩
    exact hnone _ (ofEnvironment_error.2 (Or.inr ⟨hsound.2 hfirst, hconflict, rfl⟩))

/-- What an environment gives.

* The settings are those whose every field has the value of its variable, or else the default.
* There are such settings exactly if no variable is malformed and the interval that results, be it
  set or the default, is not larger than the timeout that results.
* Otherwise the error is that of the first malformed variable. The interval and the timeout are held
  against it only where none is malformed. -/
theorem ofEnvironment_exact (env : String → Option String) :
    (∀ s, ofEnvironment env = .ok s ↔ Describes env s) ∧
    ((∃ s, ofEnvironment env = .ok s) ↔
      (∀ text, env "MANAGE_SCC" = some text →
        text.toLower ∈ ["1", "true", "yes", "0", "false", "no"]) ∧
      (∀ name ∈ secondsNames, ∀ text, env name = some text → ∃ n, Denotes text n ∧ n < 2 ^ 64) ∧
      ¬ Conflicts env) ∧
    ∀ e, ofEnvironment env = .error e ↔ FirstMalformed env checkedNames e ∨
      (∀ name ∈ checkedNames, ∀ e, ¬ Malformed env name e) ∧ Conflicts env ∧
        e = .configuration "DELETE_RETRY_INTERVAL_SECS is larger than DELETE_TIMEOUT_SECS" := by
  refine ⟨fun s => ofEnvironment_ok, ?_, fun e => ofEnvironment_error⟩
  rw [exists_ofEnvironment_ok, checkedNames, List.forall_mem_cons, sound_answer, and_assoc]
  have hseconds : (∀ name ∈ secondsNames, ∀ e, ¬ Malformed env name e) ↔
      ∀ name ∈ secondsNames, ∀ text, env name = some text → ∃ n, Denotes text n ∧ n < 2 ^ 64 :=
    forall₂_congr fun name hname => sound_seconds hname
  rw [hseconds]

/-- A timeout below the default interval is a conflict, unless variables are malformed, of which the
earlier one counts; the numbers go up to the largest of 64 bits. -/
theorem ofEnvironment_exact_of_short_timeout :
    let short := fun name => [("DELETE_TIMEOUT_SECS", "+004")].lookup name
    let broken := fun name => [("ERROR_REQUEUE_SECS", "18446744073709551616"),
      ("PRUNE_REQUEUE_SECS", "+"), ("DELETE_TIMEOUT_SECS", "+004")].lookup name
    let sound := fun name => [("ERROR_REQUEUE_SECS", "018446744073709551615"),
      ("MANAGE_SCC", "No"), ("DELETE_TIMEOUT_SECS", "5")].lookup name
    ofEnvironment short = .error
        (.configuration "DELETE_RETRY_INTERVAL_SECS is larger than DELETE_TIMEOUT_SECS") ∧
      FirstMalformed broken checkedNames
        (.configuration "PRUNE_REQUEUE_SECS=+: invalid digit found in string") ∧
      ∃ s, Describes sound s ∧ s.manageSecurityPolicies = false ∧
        s.errorRequeue = .ofSeconds (2 ^ 64 - 1) := by
  intro short broken sound
  obtain ⟨-, -, hshort⟩ := ofEnvironment_exact short
  obtain ⟨-, -, hbroken⟩ := ofEnvironment_exact broken
  obtain ⟨hsound, -⟩ := ofEnvironment_exact sound
  have hnone : ∀ name ∈ checkedNames, ∀ e, ¬ Malformed short name e := by
    intro name hname e hmalformed
    cases hmalformed with
    | answer hset => cases hset
    | seconds _ hset hfault =>
      dsimp only [short, List.lookup] at hset
      split at hset
      · cases hset
        cases hfault.readNumber
      · cases hset
  have hconflict : Conflicts short :=
    ⟨.ofSeconds 5, .ofSeconds 4, seconds_ok.1 rfl, seconds_ok.1 rfl, by decide⟩
  have hfault : ofEnvironment broken = .error
      (.configuration "PRUNE_REQUEUE_SECS=+: invalid digit found in string") := by
    decide +kernel
  have hread : ofEnvironment sound = .ok { ({} : Settings) with
      manageSecurityPolicies := false
      deleteRetry := ⟨.ofSeconds 5, .ofSeconds 5⟩
      errorRequeue := .ofSeconds (2 ^ 64 - 1) } := by
    decide +kernel
  refine ⟨(hshort _).2 (Or.inr ⟨hnone, hconflict, rfl⟩), ?_, _, (hsound _).1 hread, rfl, rfl⟩
  refine ((hbroken _).1 hfault).resolve_right ?_
  rintro ⟨-, -, h⟩
  revert h
  decide

end

end NodeFeatureOperator.Settings
