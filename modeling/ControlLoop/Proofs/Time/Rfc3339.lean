import ControlLoop.Proofs.Text.Digits
import ControlLoop.Proofs.Text.Scans
import ControlLoop.Time.Rfc3339

/-!
# Times are read as they are written

Reading accepts more than is ever written, but a time that is written is read as the same time, leap
seconds and years beyond four digits included. The parts of the text are read one after the other,
each ahead of whatever follows it.
-/

namespace ControlLoop

theorem Date.day_lt (d : Date) : d.day < 100 := by
  have hday := d.day_ok.2
  have hmonth : daysInMonth d.year d.month ≤ 31 := by
    unfold daysInMonth
    split_ifs <;> omega
  omega

namespace Rfc3339

open Text Scan

variable {width most n : Nat} {c sep : Char} {s rest : List Char}

theorem isBlank_of_isDigit (h : c.isDigit = true) : isBlank c = false := by
  have hrange : 48 ≤ c.toNat ∧ c.toNat ≤ 57 := by
    simpa [Char.isDigit, UInt32.le_iff_toNat_le] using h
  simp [isBlank]
  omega

/-- A padded number ends what takes no digits. -/
theorem ends_padded {accepts : Char → Bool} (h : ∀ c, c.isDigit = true → accepts c = false) :
    Ends accepts ((padded width n).toList ++ rest) := by
  refine Ends.append (fun c hc ↦ h c ?_) padded_ne_nil
  exact isDigit_of_mem_padded (List.mem_of_mem_head? hc)

theorem reads_blanks (h : Ends isBlank rest) : Reads blanks [] () rest := reads_skipWhile h

theorem reads_number (hdigits : ∀ c ∈ s, c.isDigit = true) (hne : s ≠ [])
    (hlength : s.length = most) : Reads (number most) s (ofDigits 10 s) rest := by
  have htake : (s ++ rest).take most = s := by rw [← hlength, List.take_left]
  have hwhile : s.takeWhile Char.isDigit = s := by
    simpa using takeWhile_append_of_ends hdigits ends_nil
  have hempty : s.isEmpty = false := by simpa using hne
  rw [Reads, number]
  simp only [htake, hwhile, hempty, List.drop_left]
  rfl

/-- A number that is padded to its width is read. -/
theorem reads_number_padded (hwidth : 0 < width) (hn : n < Nat.pow 10 width) :
    Reads (number width) (padded width n).toList n rest := by
  have hread : Reads (number width) (padded width n).toList
      (ofDigits 10 (padded width n).toList) rest :=
    reads_number (fun _ ↦ isDigit_of_mem_padded) padded_ne_nil (length_padded hwidth hn)
  rwa [ofDigits_padded] at hread

theorem reads_next (hsep : isBlank sep = false) (hn : n < 100) :
    Reads (next sep) (sep :: (padded 2 n).toList) n rest := by
  have hnumber : Reads (number 2) (padded 2 n).toList n rest := reads_number_padded (by decide) hn
  have hblanks : Reads blanks [] () ((padded 2 n).toList ++ rest) :=
    reads_blanks (ends_padded fun _ ↦ isBlank_of_isDigit)
  have hmark : Reads (char sep) [sep] () ((padded 2 n).toList ++ rest) := reads_char
  exact Reads.bind_left (reads_blanks (ends_cons hsep)) (hmark.bind (hblanks.bind_left hnumber))

theorem isSign_of_isDigit (h : c.isDigit = true) : (c == '+' || c == '-') = false := by
  rw [Bool.or_eq_false_iff, beq_eq_false_iff_ne, beq_eq_false_iff_ne]
  constructor
  · rintro rfl
    exact absurd h (by decide)
  · rintro rfl
    exact absurd h (by decide)

theorem satisfy_eq_none {accepts : Char → Bool} (h : Ends accepts rest) :
    satisfy accepts rest = none := by
  cases rest with
  | nil => rfl
  | cons c rest => exact if_neg (by simp [h c rfl])

/-- A year of four digits, which carries no sign. -/
theorem reads_year_plain (hn : n < 10000) : Reads year (padded 4 n).toList n ('-' :: rest) := by
  have hblanks : Reads blanks [] () ((padded 4 n).toList ++ '-' :: rest) :=
    reads_blanks (ends_padded fun _ ↦ isBlank_of_isDigit)
  have hsign : Reads (maybe (satisfy fun c ↦ c == '+' || c == '-')) [] none
      ((padded 4 n).toList ++ '-' :: rest) :=
    reads_maybe_none (satisfy_eq_none (ends_padded fun _ ↦ isSign_of_isDigit))
  have hnumber : Reads (number 4) (padded 4 n).toList n ('-' :: rest) :=
    reads_number_padded (by decide) hn
  exact hblanks.bind_left (hsign.bind_left (hnumber.bind_right reads_pure))

theorem reads_year_signed (hc : (c == '+' || c == '-') = true) :
    Reads year (c :: (padded 4 n).toList) (if c == '-' then -(n : Int) else n) ('-' :: rest) := by
  have hblank : isBlank c = false := by
    rw [Bool.or_eq_true, beq_iff_eq, beq_iff_eq] at hc
    rcases hc with rfl | rfl
    · rfl
    · rfl
  have hsign : Reads (maybe (satisfy fun c ↦ c == '+' || c == '-')) [c] (some c)
      ((padded 4 n).toList ++ '-' :: rest) := (reads_satisfy hc).maybe
  have hdigits : Reads (takeWhile1 Char.isDigit) (padded 4 n).toList (padded 4 n).toList
      ('-' :: rest) :=
    reads_takeWhile1 (fun _ ↦ isDigit_of_mem_padded) padded_ne_nil (ends_cons rfl)
  unfold year
  refine (reads_blanks (ends_cons hblank)).bind_left (hsign.bind (hdigits.bind_right ?_))
  rw [ofDigits_padded]
  exact reads_pure

/-- A printed year is read, with its sign if it has one. -/
theorem reads_year (y : Int) : Reads year (signedYear y).toList y ('-' :: rest) := by
  unfold signedYear
  split
  · next hplain =>
    have hread : Reads year (padded 4 y.toNat).toList y.toNat ('-' :: rest) :=
      reads_year_plain (by omega)
    rwa [Int.toNat_of_nonneg hplain.1] at hread
  · split
    · next hneg =>
      have hread : Reads year ('-' :: (padded 4 y.natAbs).toList) (-(y.natAbs : Int))
          ('-' :: rest) := reads_year_signed (by decide)
      have hvalue : -(y.natAbs : Int) = y := by omega
      rw [hvalue] at hread
      rw [String.toList_append]
      exact hread
    · next hpos =>
      have hread : Reads year ('+' :: (padded 4 y.natAbs).toList) (y.natAbs : Int)
          ('-' :: rest) := reads_year_signed (by decide)
      have hvalue : (y.natAbs : Int) = y := by omega
      rw [hvalue] at hread
      rw [String.toList_append]
      exact hread

-- The parts of a text are grouped to the right, as the scans read them one after the other.
def dateText (d : Date) : List Char :=
  (signedYear d.year).toList ++
    ('-' :: (padded 2 d.month).toList ++ '-' :: (padded 2 d.day).toList)

/-- A printed date is read. -/
theorem reads_date (d : Date) : Reads date (dateText d) d rest := by
  have hmonth : Reads (next '-') ('-' :: (padded 2 d.month).toList) d.month
      ('-' :: (padded 2 d.day).toList ++ rest) :=
    reads_next rfl (by have := d.month_ok; omega)
  have hday : Reads (next '-') ('-' :: (padded 2 d.day).toList) d.day rest :=
    reads_next rfl d.day_lt
  have hyear : Reads year (signedYear d.year).toList d.year
      ('-' :: (padded 2 d.month).toList ++ '-' :: (padded 2 d.day).toList ++ rest) :=
    reads_year d.year
  unfold date dateText
  refine hyear.bind (hmonth.bind (hday.bind_right ?_))
  exact reads_lift d.ofFields?_self

theorem reads_fraction {places nano : Nat} (hplaces : 0 < places) (hmost : places ≤ 9)
    (hn : n < Nat.pow 10 places) (hvalue : n * Nat.pow 10 (9 - places) = nano) :
    Reads fraction ('.' :: (padded places n).toList) nano ('Z' :: rest) := by
  have hmark : Reads (char '.') ['.'] () ((padded places n).toList ++ 'Z' :: rest) := reads_char
  have hdigits : Reads (takeWhile1 Char.isDigit) (padded places n).toList (padded places n).toList
      ('Z' :: rest) :=
    reads_takeWhile1 (fun _ ↦ isDigit_of_mem_padded) padded_ne_nil (ends_cons rfl)
  have hlength : (padded places n).toList.length = places := length_padded hplaces hn
  have htake : (padded places n).toList.take 9 = (padded places n).toList :=
    List.take_of_length_le (by omega)
  unfold fraction
  refine hmark.bind (hdigits.bind_right ?_)
  simp only [htake, hlength, ofDigits_padded, hvalue]
  exact reads_pure

/-- The digits of a fraction denote it, however many of them are written. -/
theorem reads_fractionText {nano : Nat} (hnano : nano < 1000000000) :
    ∃ read, Reads (maybe fraction) (fractionText nano).toList read ('Z' :: rest) ∧
      read.getD 0 = nano := by
  unfold fractionText
  split
  · next hzero => exact ⟨none, reads_maybe_none rfl, hzero.symm⟩
  · refine ⟨some nano, ?_, rfl⟩
    split
    · next hmilli =>
      have hread : Reads fraction ('.' :: (padded 3 (nano / 1000000)).toList) nano
          ('Z' :: rest) :=
        reads_fraction (by decide) (by decide) (by change _ < 1000; omega)
          (Nat.div_mul_cancel (Nat.dvd_of_mod_eq_zero hmilli))
      rw [String.toList_append]
      exact hread.maybe
    · split
      · next hmicro =>
        have hread : Reads fraction ('.' :: (padded 6 (nano / 1000)).toList) nano
            ('Z' :: rest) :=
          reads_fraction (by decide) (by decide) (by change _ < 1000000; omega)
            (Nat.div_mul_cancel (Nat.dvd_of_mod_eq_zero hmicro))
        rw [String.toList_append]
        exact hread.maybe
      · have hread : Reads fraction ('.' :: (padded 9 nano).toList) nano ('Z' :: rest) :=
          reads_fraction (by decide) (by decide) hnano (Nat.mul_one nano)
        rw [String.toList_append]
        exact hread.maybe

def dayTimeText (t : DayTime) : List Char :=
  (padded 2 t.hour).toList ++ (':' :: (padded 2 t.minute).toList ++
    (':' :: (padded 2 t.secondOfMinute).toList ++ (fractionText t.fraction).toList))

/-- A printed time of day is read, with the digits of its fraction. -/
theorem reads_dayTime (t : DayTime) : Reads dayTime (dayTimeText t) t ('Z' :: rest) := by
  have hsecond : t.second < 86400 := t.second_ok
  have hblanks : Reads blanks [] () (dayTimeText t ++ 'Z' :: rest) := by
    rw [dayTimeText, List.append_assoc]
    exact reads_blanks (ends_padded fun _ ↦ isBlank_of_isDigit)
  have hnano : t.fraction < 1000000000 := Nat.mod_lt _ (by decide)
  obtain ⟨read, hfraction, hread⟩ :
      ∃ read, Reads (maybe fraction) (fractionText t.fraction).toList read ('Z' :: rest) ∧
        read.getD 0 = t.fraction := reads_fractionText hnano
  have hsecondOfMinute : Reads (next ':') (':' :: (padded 2 t.secondOfMinute).toList)
      t.secondOfMinute ((fractionText t.fraction).toList ++ 'Z' :: rest) :=
    reads_next rfl (by unfold DayTime.secondOfMinute; split <;> omega)
  have hminute : Reads (next ':') (':' :: (padded 2 t.minute).toList) t.minute
      (':' :: (padded 2 t.secondOfMinute).toList ++ (fractionText t.fraction).toList ++
        'Z' :: rest) :=
    reads_next rfl (by unfold DayTime.minute; omega)
  have hhour : Reads (number 2) (padded 2 t.hour).toList t.hour
      (':' :: (padded 2 t.minute).toList ++ (':' :: (padded 2 t.secondOfMinute).toList ++
        (fractionText t.fraction).toList) ++ 'Z' :: rest) :=
    reads_number_padded (by decide) (by change _ < 100; unfold DayTime.hour; omega)
  unfold dayTime
  refine hblanks.bind_left (hhour.bind (hminute.bind (hsecondOfMinute.bind
    (hfraction.bind_right ?_))))
  rw [hread]
  exact reads_lift t.ofFields?_self

/-- The mark of universal time, by which every time that is written ends. -/
theorem reads_zulu : Reads (universal <|> zulu <|> offset) ['Z'] 0 rest := by
  have hmark : Reads (satisfy fun c ↦ c == 'Z' || c == 'z') ['Z'] 'Z' rest := reads_satisfy rfl
  have hzulu : Reads zulu ['Z'] 0 rest := hmark.bind_right reads_pure
  exact Reads.orElse_right rfl (Reads.orElse_left hzulu)

theorem toList_print (t : UtcTime) :
    (print t).toList = dateText t.date ++ (['T'] ++ (dayTimeText t.time ++ ['Z'])) := by
  simp [print, dateText, dayTimeText]

/-- A printed time is read to its end. -/
theorem reads_print (t : UtcTime) : Reads utcTime (print t).toList t [] := by
  have hdate : Reads date (dateText t.date) t.date
      (['T'] ++ (dayTimeText t.time ++ ['Z']) ++ []) :=
    reads_date t.date
  have hmark : Reads (satisfy fun c ↦ c == 'T' || c == 't' || c == ' ') ['T'] 'T'
      (dayTimeText t.time ++ ['Z'] ++ []) := reads_satisfy rfl
  have htime : Reads dayTime (dayTimeText t.time) t.time (['Z'] ++ []) := reads_dayTime t.time
  have hblanks : Reads blanks [] () (['Z'] ++ []) := reads_blanks (ends_cons rfl)
  have hzulu : Reads (universal <|> zulu <|> offset) ['Z'] 0 [] := reads_zulu
  have hend : Reads blanks [] () [] := reads_blanks ends_nil
  rw [toList_print]
  unfold utcTime
  refine hdate.bind (hmark.bind (htime.bind (hblanks.bind_left (hzulu.bind_right
    (hend.bind_left ?_)))))
  exact reads_lift (UtcTime.ofLocal?_zero t.date t.time)

/-- A printed time is parsed as the time that it was. -/
theorem parse?_print (t : UtcTime) : parse? (print t) = some t := by
  have hread := reads_print t
  rw [Reads, List.append_nil] at hread
  rw [parse?, readAll_eq_some_iff]
  exact hread

end Rfc3339

end ControlLoop
