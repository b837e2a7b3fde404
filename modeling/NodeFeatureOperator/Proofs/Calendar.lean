import Mathlib.Algebra.Group.Nat.Defs
import Mathlib.Data.List.Basic
import NodeFeatureOperator.Moment

/-!
# Times that are written and read again

A calendar time that was read is a time of the calendar (`CalendarTime.parse?_valid`), and one that
is written is read again up to the fraction of its second that the text has room for
(`CalendarTime.parse?_text`). So the normal forms of times are their own normal forms.
-/

namespace NodeFeatureOperator

namespace CalendarTime

/-! ## Digits -/

/-- The number that digits stand for. -/
def value (cs : List Char) : Nat := cs.foldl (fun n c => n * 10 + (c.toNat - '0'.toNat)) 0

variable {cs rest : List Char} {n width limit : Nat}

theorem value_padded (width n : Nat) : value (padded width n) = n := by
  have hzeros (k : Nat) : (List.replicate k '0').foldl
      (fun n c => n * 10 + (c.toNat - '0'.toNat)) 0 = 0 := by
    induction k with
    | zero => rfl
    | succ k ih => exact ih
  have hdigits := Nat.ofDigitChars_toDigits (b := 10) (n := n) (by decide) (by decide)
  unfold Nat.ofDigitChars at hdigits
  unfold value padded
  rw [List.foldl_append, hzeros]
  simpa only [Nat.mul_comm] using hdigits

theorem isDigit_of_mem_padded {c : Char} (h : c ∈ padded width n) : c.isDigit = true := by
  unfold padded at h
  rcases List.mem_append.1 h with h | h
  · rw [List.eq_of_mem_replicate h]
    rfl
  · exact Nat.isDigit_of_mem_toDigits (by decide) (by decide) h

theorem length_padded (hwidth : 0 < width) (h : n < 10 ^ width) :
    (padded width n).length = width := by
  have hlength := (Nat.length_toDigits_le_iff (by decide) hwidth).2 h
  unfold padded
  rw [List.length_append, List.length_replicate]
  omega

theorem padded_ne_nil (width n : Nat) : padded width n ≠ [] := by
  unfold padded
  intro h
  have hpositive := Nat.length_toDigits_pos (b := 10) (n := n)
  rw [(List.append_eq_nil_iff.1 h).2] at hpositive
  cases hpositive

/-- Digits are read up to the first character that is none, or up to the limit. -/
theorem digits?_append (hcs : ∀ c ∈ cs, c.isDigit = true) (hne : cs ≠ [])
    (hlimit : cs.length ≤ limit)
    (hrest : cs.length = limit ∨ ∀ c, rest.head? = some c → c.isDigit = false) :
    digits? limit (cs ++ rest) = some (value cs, rest) := by
  have hstop : (rest.take (limit - cs.length)).takeWhile Char.isDigit = [] := by
    rcases hrest with heq | hhead
    · rw [heq, Nat.sub_self]
      rfl
    · cases rest with
      | nil => rw [List.take_nil]; rfl
      | cons c rest =>
        cases limit - cs.length with
        | zero => rfl
        | succ k =>
          rw [List.take_succ_cons, List.takeWhile_cons_of_neg]
          rw [hhead c rfl]
          exact Bool.false_ne_true
  have htaken : ((cs ++ rest).take limit).takeWhile Char.isDigit = cs := by
    rw [List.take_append, List.take_of_length_le hlimit, List.takeWhile_append_of_pos hcs, hstop,
      List.append_nil]
  unfold digits?
  simp only [htaken, List.isEmpty_iff, hne, if_false, List.drop_left]
  rfl

theorem digits?_padded (hwidth : 0 < width) (h : n < 10 ^ width) (rest : List Char) :
    digits? width (padded width n ++ rest) = some (n, rest) := by
  have hlength := length_padded hwidth h
  rw [digits?_append (fun _ => isDigit_of_mem_padded) (padded_ne_nil width n) (Nat.le_of_eq hlength)
    (Or.inl hlength), value_padded]

/-- Digits are not blank. -/
theorem skipBlank_of_digit {c : Char} (h : c.isDigit = true) (cs : List Char) :
    Text.skipBlank (c :: cs) = c :: cs := by
  unfold Char.isDigit at h
  rw [Bool.and_eq_true, decide_eq_true_eq, decide_eq_true_eq] at h
  have hlow : 48 ≤ c.toNat := h.1
  have hhigh : c.toNat ≤ 57 := h.2
  have hblank : Text.isBlank c = false := by
    unfold Text.isBlank
    simp
    omega
  unfold Text.skipBlank
  refine List.dropWhile_cons_of_neg ?_
  rw [hblank]
  exact Bool.false_ne_true

theorem padded_eq_cons (width n : Nat) :
    ∃ c cs, padded width n = c :: cs ∧ c.isDigit = true := by
  cases h : padded width n with
  | nil => exact absurd h (padded_ne_nil width n)
  | cons c cs => exact ⟨c, cs, rfl, isDigit_of_mem_padded (h ▸ List.mem_cons_self)⟩

theorem skipBlank_padded (width n : Nat) (rest : List Char) :
    Text.skipBlank (padded width n ++ rest) = padded width n ++ rest := by
  obtain ⟨c, cs, heq, hc⟩ := padded_eq_cons width n
  rw [heq]
  exact skipBlank_of_digit hc (cs ++ rest)

theorem pair?_padded (h : n < 100) (rest : List Char) :
    pair? (padded 2 n ++ rest) = some (n, rest) := by
  unfold pair?
  rw [skipBlank_padded]
  exact digits?_padded (by decide) h rest

/-- A year is read again. -/
theorem year?_yearText (year : Int) (rest : List Char) :
    year? (yearText year ++ '-' :: rest) = some (year, '-' :: rest) := by
  have hsigned (n : Nat) : digits? (padded 4 n ++ '-' :: rest).length (padded 4 n ++ '-' :: rest)
      = some (n, '-' :: rest) := by
    rw [digits?_append (fun _ => isDigit_of_mem_padded) (padded_ne_nil 4 n), value_padded]
    · rw [List.length_append]
      exact Nat.le_add_right ..
    · right
      rintro c hc
      obtain rfl := Option.some.inj hc
      rfl
  unfold yearText
  split
  · next hplain =>
    obtain ⟨c, cs, heq, hc⟩ := padded_eq_cons 4 year.toNat
    have hdigits : digits? 4 (padded 4 year.toNat ++ '-' :: rest)
        = some (year.toNat, '-' :: rest) := digits?_padded (by decide) (by omega) _
    -- The first character is a digit and no sign.
    have hunsigned (d : Char) (hd : d.isDigit = false) (r : List Char) :
        padded 4 year.toNat ++ '-' :: rest ≠ d :: r := by
      rw [heq]
      intro h
      rw [(List.cons.inj h).1, hd] at hc
      cases hc
    unfold year?
    rw [skipBlank_padded]
    split
    · next r h => exact absurd h (hunsigned '-' rfl r)
    · next r h => exact absurd h (hunsigned '+' rfl r)
    · rw [hdigits]
      refine congrArg some (Prod.ext ?_ rfl)
      change ((year.toNat : Nat) : Int) = year
      omega
  · split
    · next hnegative =>
      have hread : year? (('-' :: padded 4 year.natAbs) ++ '-' :: rest) =
          (digits? (padded 4 year.natAbs ++ '-' :: rest).length
            (padded 4 year.natAbs ++ '-' :: rest)).map fun p => (-(p.1 : Int), p.2) := rfl
      rw [hread, hsigned]
      refine congrArg some (Prod.ext ?_ rfl)
      change -((year.natAbs : Nat) : Int) = year
      omega
    · have hread : year? (('+' :: padded 4 year.natAbs) ++ '-' :: rest) =
          (digits? (padded 4 year.natAbs ++ '-' :: rest).length
            (padded 4 year.natAbs ++ '-' :: rest)).map fun p => ((p.1 : Int), p.2) := rfl
      rw [hread, hsigned]
      refine congrArg some (Prod.ext ?_ rfl)
      change ((year.natAbs : Nat) : Int) = year
      omega

/-! ## Times of the calendar -/

/-- The time is one of the calendar, leap seconds included. -/
structure Valid (t : CalendarTime) : Prop where
  year : inReach t.year = true
  month : 1 ≤ t.month ∧ t.month ≤ 12
  day : 1 ≤ t.day ∧ t.day ≤ daysIn t.year t.month
  hour : t.hour < 24
  minute : t.minute < 60
  second : t.second < 60
  nanos : t.nanos < 1000000000 ∨ t.second = 59 ∧ t.nanos < 2000000000

variable {t : CalendarTime}

theorem daysIn_pos (year : Int) (month : Nat) : 28 ≤ daysIn year month := by
  unfold daysIn
  split
  · split <;> decide
  · split <;> decide

theorem daysIn_le (year : Int) (month : Nat) : daysIn year month ≤ 31 := by
  unfold daysIn
  split
  · split <;> decide
  · split <;> decide

/-- In UTC already, a time stays as it is. -/
theorem toUtc_zero (hhour : t.hour < 24) (hminute : t.minute < 60) : t.toUtc 0 = t := by
  have hday : Int.emod ((t.hour : Int) * 60 + t.minute - 0) 1440 = t.hour * 60 + t.minute := by
    change ((t.hour : Int) * 60 + t.minute - 0) % 1440 = _
    omega
  have hhours : (((t.hour : Int) * 60 + t.minute) / 60).toNat = t.hour := by omega
  have hminutes : (Int.emod ((t.hour : Int) * 60 + t.minute) 60).toNat = t.minute := by
    change (((t.hour : Int) * 60 + t.minute) % 60).toNat = _
    omega
  unfold toUtc
  simp only [hday, hhours, hminutes]
  rw [if_neg (by omega), if_neg (by omega)]

/-- What is put together out of the parts of a time is that time. -/
theorem ofLocal?_of_valid (h : t.Valid) :
    ofLocal? t.year t.month t.day t.hour t.minute (t.second + t.nanos / 1000000000)
      (t.nanos % 1000000000) 0 = some t := by
  obtain ⟨hyear, hmonth, hday, hhour, hminute, hsecond, hnanos⟩ := h
  have hutc := toUtc_zero hhour hminute
  obtain ⟨year, month, day, hour, minute, second, nanos⟩ := t
  dsimp only at *
  -- A leap second is written as the second 60.
  have hleap : (if second + nanos / 1000000000 = 60 then 59 else second + nanos / 1000000000)
      = second := by
    split <;> omega
  have hfraction : (if second + nanos / 1000000000 = 60 then nanos % 1000000000 + 1000000000
      else nanos % 1000000000) = nanos := by
    split <;> omega
  unfold ofLocal?
  rw [if_neg (by omega), if_neg (by simp [hyear]; omega)]
  simp only [hleap, hfraction, hutc, hyear, if_true]

theorem Valid.nextDay (h : t.Valid) (hreach : inReach t.nextDay.year = true) :
    t.nextDay.Valid := by
  obtain ⟨hyear, hmonth, hday, hhour, hminute, hsecond, hnanos⟩ := h
  unfold CalendarTime.nextDay at *
  split
  · next hlater =>
    exact ⟨hyear, hmonth, ⟨Nat.le_add_left .., hlater⟩, hhour, hminute, hsecond, hnanos⟩
  · split
    · next hlater =>
      have hfirst := daysIn_pos t.year (t.month + 1)
      exact ⟨hyear, ⟨Nat.le_add_left .., hlater⟩,
        ⟨Nat.le_refl 1, by dsimp only; omega⟩, hhour, hminute, hsecond, hnanos⟩
    · next hlast hend =>
      rw [if_neg hlast, if_neg hend] at hreach
      have hfirst := daysIn_pos (t.year + 1) 1
      exact ⟨hreach, ⟨Nat.le_refl 1, Nat.le_add_left 1 11⟩,
        ⟨Nat.le_refl 1, by dsimp only; omega⟩, hhour, hminute, hsecond, hnanos⟩

theorem Valid.previousDay (h : t.Valid) (hreach : inReach t.previousDay.year = true) :
    t.previousDay.Valid := by
  obtain ⟨hyear, hmonth, hday, hhour, hminute, hsecond, hnanos⟩ := h
  unfold CalendarTime.previousDay at *
  split
  · next hlater =>
    exact ⟨hyear, hmonth, by dsimp only; omega, hhour, hminute, hsecond, hnanos⟩
  · split
    · next hlater =>
      have hfirst := daysIn_pos t.year (t.month - 1)
      exact ⟨hyear, by dsimp only; omega, ⟨by dsimp only; omega, Nat.le_refl _⟩, hhour,
        hminute, hsecond, hnanos⟩
    · next hlast hend =>
      rw [if_neg hlast, if_neg hend] at hreach
      exact ⟨hreach, ⟨Nat.le_add_left 1 11, Nat.le_refl 12⟩,
        ⟨Nat.le_add_left 1 30, Nat.le_refl 31⟩, hhour, hminute, hsecond, hnanos⟩

theorem Valid.toUtc (h : t.Valid) {offset : Int} (hreach : inReach (t.toUtc offset).year = true) :
    (t.toUtc offset).Valid := by
  obtain ⟨hyear, hmonth, hday, hhour, hminute, hsecond, hnanos⟩ := h
  unfold CalendarTime.toUtc at *
  dsimp only at *
  -- Whatever the minutes of the day are, they make up an hour and a minute of it.
  have hturned (inDay : Int) (hlow : 0 ≤ inDay) (hhigh : inDay < 1440) :
      ({ t with hour := (inDay / 60).toNat, minute := (Int.emod inDay 60).toNat } :
        CalendarTime).Valid := by
    have hrest : Int.emod inDay 60 = inDay % 60 := rfl
    refine ⟨hyear, hmonth, hday, by dsimp only; omega, ?_, hsecond, hnanos⟩
    dsimp only
    rw [hrest]
    omega
  have hinDay (minutes : Int) : 0 ≤ Int.emod minutes 1440 ∧ Int.emod minutes 1440 < 1440 :=
    ⟨Int.emod_nonneg _ (by decide), Int.emod_lt_of_pos _ (by decide)⟩
  have hlocal := hturned _ (hinDay (t.hour * 60 + t.minute - offset)).1
    (hinDay (t.hour * 60 + t.minute - offset)).2
  split
  · next hbefore =>
    rw [if_pos hbefore] at hreach
    exact hlocal.previousDay hreach
  · next hbefore =>
    rw [if_neg hbefore] at hreach
    split
    · next hafter =>
      rw [if_pos hafter] at hreach
      exact hlocal.nextDay hreach
    · exact hlocal

theorem ofLocal?_valid {year : Int} {month day hour minute second nanos : Nat} {offset : Int}
    (hnanos : nanos < 1000000000)
    (h : ofLocal? year month day hour minute second nanos offset = some t) : t.Valid := by
  unfold ofLocal? at h
  split at h
  · cases h
  · split at h
    · cases h
    · next hdate htime =>
      obtain ⟨hreach, rfl⟩ := Option.ite_some_none_eq_some.1 h
      simp only [not_or, Decidable.not_not] at hdate htime
      refine Valid.toUtc ⟨htime.2.2.2, by dsimp only; omega, by dsimp only; omega,
        by dsimp only; omega, by dsimp only; omega, ?_, ?_⟩ hreach
      · dsimp only
        split <;> omega
      · dsimp only
        split <;> omega

/-! ## Reading -/

theorem value_lt (h : ∀ c ∈ cs, c.isDigit = true) : value cs < 10 ^ cs.length := by
  have hfrom (n : Nat) : cs.foldl (fun n c => n * 10 + (c.toNat - '0'.toNat)) n
      < (n + 1) * 10 ^ cs.length := by
    induction cs generalizing n with
    | nil => simp
    | cons c cs ih =>
      obtain ⟨hc, hcs⟩ := List.forall_mem_cons.1 h
      unfold Char.isDigit at hc
      rw [Bool.and_eq_true, decide_eq_true_eq, decide_eq_true_eq] at hc
      have hhigh : c.toNat ≤ 57 := hc.2
      have hzero : '0'.toNat = 48 := rfl
      rw [List.foldl_cons, List.length_cons, Nat.pow_succ']
      refine Nat.lt_of_lt_of_le (ih hcs _) ?_
      rw [← Nat.mul_assoc]
      refine Nat.mul_le_mul_right _ ?_
      omega
  have hstart := hfrom 0
  rwa [Nat.zero_add, Nat.one_mul] at hstart

/-- Less than a second is read after the point. -/
theorem nanos?_lt (h : nanos? cs = some (n, rest)) : n < 1000000000 := by
  unfold nanos? at h
  split at h
  · next r =>
    split at h
    · cases h
    · next n' rest' hdigits =>
      unfold digits? at hdigits
      dsimp only at hdigits
      split at hdigits
      · cases hdigits
      · obtain ⟨rfl, -⟩ := Prod.mk.inj (Option.some.inj hdigits)
        obtain ⟨rfl, -⟩ := Prod.mk.inj (Option.some.inj h)
        have hlength : ((r.take 9).takeWhile Char.isDigit).length ≤ 9 :=
          Nat.le_trans (List.takeWhile_prefix _).length_le (List.length_take_le ..)
        have hvalue := value_lt (List.all_eq_true.1 (List.all_takeWhile (p := Char.isDigit)
          (l := r.take 9)))
        calc value ((r.take 9).takeWhile Char.isDigit)
              * 10 ^ (9 - ((r.take 9).takeWhile Char.isDigit).length)
            < 10 ^ ((r.take 9).takeWhile Char.isDigit).length
              * 10 ^ (9 - ((r.take 9).takeWhile Char.isDigit).length) :=
              Nat.mul_lt_mul_of_pos_right hvalue (Nat.pow_pos (by decide))
          _ = 1000000000 := by rw [← Nat.pow_add, Nat.add_sub_cancel' hlength]
  · cases h
    decide

/-- What is read is a time of the calendar. -/
theorem parse?_valid {text : String} (h : parse? text = some t) : t.Valid := by
  unfold parse? at h
  obtain ⟨⟨year, cs⟩, -, h⟩ := Option.bind_eq_some_iff.1 h
  obtain ⟨cs, -, h⟩ := Option.bind_eq_some_iff.1 h
  obtain ⟨⟨month, cs⟩, -, h⟩ := Option.bind_eq_some_iff.1 h
  obtain ⟨cs, -, h⟩ := Option.bind_eq_some_iff.1 h
  obtain ⟨⟨day, cs⟩, -, h⟩ := Option.bind_eq_some_iff.1 h
  obtain ⟨cs, -, h⟩ := Option.bind_eq_some_iff.1 h
  obtain ⟨⟨hour, cs⟩, -, h⟩ := Option.bind_eq_some_iff.1 h
  obtain ⟨cs, -, h⟩ := Option.bind_eq_some_iff.1 h
  obtain ⟨⟨minute, cs⟩, -, h⟩ := Option.bind_eq_some_iff.1 h
  obtain ⟨cs, -, h⟩ := Option.bind_eq_some_iff.1 h
  obtain ⟨⟨second, cs⟩, -, h⟩ := Option.bind_eq_some_iff.1 h
  obtain ⟨⟨nanos, cs⟩, hnanos, h⟩ := Option.bind_eq_some_iff.1 h
  obtain ⟨⟨offset, cs⟩, -, h⟩ := Option.bind_eq_some_iff.1 h
  dsimp only at h
  split at h
  · exact ofLocal?_valid (nanos?_lt hnanos) h
  · cases h

/-- A time that is written is read again, with what its text says of the fraction of the second. -/
theorem parse?_text (h : t.Valid) {fraction : List Char} {nanos : Nat}
    (hfraction : nanos? (fraction ++ ['Z']) = some (nanos, ['Z'])) (hless : nanos < 1000000000) :
    parse? (String.ofList (t.secondsText ++ fraction ++ ['Z'])) =
      some { t with nanos := t.nanos / 1000000000 * 1000000000 + nanos } := by
  obtain ⟨hyear, hmonth, hday, hhour, hminute, hsecond, hnanos⟩ := h
  have hdays := daysIn_le t.year t.month
  have hwhole : (t.nanos / 1000000000 * 1000000000 + nanos) / 1000000000 = t.nanos / 1000000000 ∧
      (t.nanos / 1000000000 * 1000000000 + nanos) % 1000000000 = nanos := by omega
  have hlocal := ofLocal?_of_valid
    (t := { t with nanos := t.nanos / 1000000000 * 1000000000 + nanos })
    ⟨hyear, hmonth, hday, hhour, hminute, hsecond, by dsimp only; omega⟩
  have hdash (r : List Char) : expect? '-' (Text.skipBlank ('-' :: r)) = some r := rfl
  have hcolon (r : List Char) : expect? ':' (Text.skipBlank (':' :: r)) = some r := rfl
  have hmark (r : List Char) : expectMark? ('T' :: r) = some r := rfl
  have hzone : offset? (Text.skipBlank ['Z']) = some (0, []) := rfl
  have htext : t.secondsText ++ fraction ++ ['Z'] =
      yearText t.year ++ '-' :: (padded 2 t.month ++ '-' :: (padded 2 t.day ++ 'T' ::
        (padded 2 t.hour ++ ':' :: (padded 2 t.minute ++ ':' ::
          (padded 2 (t.second + t.nanos / 1000000000) ++ (fraction ++ ['Z'])))))) := by
    unfold secondsText
    simp only [List.append_assoc, List.cons_append]
  unfold parse?
  rw [String.toList_ofList, htext, year?_yearText]
  simp only [Option.bind_eq_bind, Option.bind_some, hdash, hcolon, hmark, hfraction, hzone,
    pair?_padded (n := t.month) (by omega), pair?_padded (n := t.day) (by omega),
    pair?_padded (n := t.hour) (by omega), pair?_padded (n := t.minute) (by omega),
    pair?_padded (n := t.second + t.nanos / 1000000000) (by omega)]
  dsimp only at hlocal
  rw [hwhole.1, hwhole.2] at hlocal
  exact hlocal

/-- A time to the second is read as it was written. -/
theorem parse?_wholeSeconds (h : t.Valid) :
    parse? t.wholeSeconds.toText = some t.wholeSeconds := by
  have hfraction : nanos? ([] ++ ['Z']) = some (0, ['Z']) := rfl
  have hread := parse?_text h hfraction (by decide)
  have hseconds : t.nanos / 1000000000 * 1000000000 / 1000000000 = t.nanos / 1000000000 := by omega
  have hwhole : t.nanos / 1000000000 * 1000000000 % 1000000000 = 0 := by omega
  have htext : t.wholeSeconds.toText = String.ofList (t.secondsText ++ [] ++ ['Z']) := by
    unfold toText wholeSeconds secondsText
    simp only [hseconds, hwhole, if_true]
  rw [Nat.add_zero] at hread
  rw [htext, hread]
  rfl

theorem nanos?_padded (h : n < 1000000) :
    nanos? ('.' :: padded 6 n ++ ['Z']) = some (n * 1000, ['Z']) := by
  have hlength : (padded 6 n).length = 6 := length_padded (by decide) h
  have hdigit : ∀ c ∈ padded 6 n, c.isDigit = true := fun _ => isDigit_of_mem_padded
  have hdigits : digits? 9 (padded 6 n ++ ['Z']) = some (n, ['Z']) := by
    rw [digits?_append hdigit (padded_ne_nil 6 n) (by omega), value_padded]
    right
    rintro c hc
    obtain rfl := Option.some.inj hc
    rfl
  have htaken : (((padded 6 n ++ ['Z']).take 9).takeWhile Char.isDigit).length = 6 := by
    rw [List.take_of_length_le (by simp [hlength]), List.takeWhile_append_of_pos hdigit,
      List.takeWhile_cons_of_neg (by decide), List.append_nil, hlength]
  have hrest : (padded 6 n ++ ['Z']).dropWhile Char.isDigit = ['Z'] := by
    rw [List.dropWhile_append_of_pos hdigit]
    rfl
  rw [List.cons_append, nanos?, hdigits]
  simp only [htaken, hrest]

/-- A time to the microsecond is written in the same way once it was read. -/
theorem parse?_toMicroText (h : t.Valid) :
    ∃ t', parse? t.toMicroText = some t' ∧ t'.toMicroText = t.toMicroText := by
  have hmicros : t.nanos % 1000000000 / 1000 < 1000000 := by omega
  have hread := parse?_text h (nanos?_padded hmicros) (by omega)
  refine ⟨_, hread, ?_⟩
  have hseconds : (t.nanos / 1000000000 * 1000000000 + t.nanos % 1000000000 / 1000 * 1000)
      / 1000000000 = t.nanos / 1000000000 := by omega
  have hrest : (t.nanos / 1000000000 * 1000000000 + t.nanos % 1000000000 / 1000 * 1000)
      % 1000000000 / 1000 = t.nanos % 1000000000 / 1000 := by omega
  unfold toMicroText secondsText
  simp only [hseconds, hrest]

end CalendarTime

end NodeFeatureOperator
