import BrunostJudge.FixedWidth
import BrunostJudge.PyUtf8
import Mathlib.Tactic.IntervalCases

namespace Python
open FixedWidth
set_option autoImplicit true

def digitPoint (d : Nat) : CodePoint := .ofChar d.digitChar

theorem digitPoint_val (hd : d < 10) : (digitPoint d).val = 48 + d :=
  Nat.toNat_digitChar_of_lt_ten hd

theorem digitPoint_digits : Digits digitPoint 10 where
  lt := by
    intro i hi j hj
    rw [Fin.lt_def, digitPoint_val hi, digitPoint_val hj]
    omega
  inj := by
    intro i hi j hj h
    have hval := congrArg Fin.val h
    rw [digitPoint_val hi, digitPoint_val hj] at hval
    omega

/-- `"%0*d" % (width, n)`. -/
def zeroPadded (width n : Nat) : PyStr :=
  List.replicate (width - (decimal n).length) 0x30 ++ decimal n

theorem decimal_of_lt (hn : n < 10) : decimal n = [digitPoint n] := by
  rw [decimal, Nat.toDigits_of_lt_base hn]
  rfl

theorem decimal_of_le (hn : 10 ≤ n) : decimal n = decimal (n / 10) ++ [digitPoint (n % 10)] := by
  rw [decimal, Nat.toDigits_of_base_le (by decide) hn, List.map_append]
  rfl

theorem zeroPadded_eq (hn : n < 10 ^ (width + 1)) :
    zeroPadded (width + 1) n = word digitPoint 10 (width + 1) n := by
  induction width generalizing n with
  | zero =>
    have hn : n < 10 := by simpa using hn
    rw [zeroPadded, decimal_of_lt hn, word, word, Nat.mod_eq_of_lt hn]
    rfl
  | succ width ih =>
    have hrest := ih (div_lt_pow hn)
    rw [word, ← hrest, zeroPadded, zeroPadded]
    rcases Nat.lt_or_ge n 10 with hlt | hge
    · rw [decimal_of_lt hlt, Nat.mod_eq_of_lt hlt, Nat.div_eq_of_lt hlt,
        decimal_of_lt (Nat.succ_pos 9), List.length_singleton, List.length_singleton]
      exact congrArg (· ++ [digitPoint n]) List.replicate_succ'
    · rw [decimal_of_le hge, List.length_append, List.length_singleton, List.append_assoc,
        Nat.add_sub_add_right]

theorem zeroPadded_lt {s t : PyStr} (hm : m < 10 ^ (width + 1)) (hn : n < 10 ^ (width + 1)) :
    zeroPadded (width + 1) m ++ s < zeroPadded (width + 1) n ++ t ↔ m < n ∨ m = n ∧ s < t := by
  rw [zeroPadded_eq hm, zeroPadded_eq hn, append_lt (by rw [word_length, word_length]),
    digitPoint_digits.word_lt hm hn, digitPoint_digits.word_eq hm hn]

def isLeap (year : Nat) : Bool := year % 4 = 0 && (year % 100 ≠ 0 || year % 400 = 0)

def daysInMonth (year month : Nat) : Nat :=
  if month = 2 ∧ isLeap year then 29
  else [0, 31, 28, 31, 30, 31, 30, 31, 31, 30, 31, 30, 31].getD month 0

def daysBeforeMonth (year month : Nat) : Nat :=
  [0, 0, 31, 59, 90, 120, 151, 181, 212, 243, 273, 304, 334].getD month 0 +
    (if month > 2 ∧ isLeap year then 1 else 0)

def daysBeforeYear (year : Nat) : Nat :=
  (year - 1) * 365 + (year - 1) / 4 - (year - 1) / 100 + (year - 1) / 400

def ymdToOrdinal (year month day : Nat) : Nat :=
  daysBeforeYear year + daysBeforeMonth year month + day

/-- A `datetime` with `tzinfo=UTC`. -/
structure UtcDatetime where
  year : Nat
  month : Nat
  day : Nat
  hour : Nat
  minute : Nat
  second : Nat
  microsecond : Nat
  year_range : 1 ≤ year ∧ year ≤ 9999
  month_range : 1 ≤ month ∧ month ≤ 12
  day_range : 1 ≤ day ∧ day ≤ daysInMonth year month
  hour_lt : hour < 24
  minute_lt : minute < 60
  second_lt : second < 60
  microsecond_lt : microsecond < 1000000

def UtcDatetime.toordinal (a : UtcDatetime) : Nat := ymdToOrdinal a.year a.month a.day

/-- Microseconds since the beginning of year 1. -/
def UtcDatetime.instant (a : UtcDatetime) : Nat :=
  1000000 * (60 * (60 * (24 * (a.toordinal - 1) + a.hour) + a.minute) + a.second) + a.microsecond

/-- The fraction is left out at whole seconds. -/
def printMicrosecond (microsecond : Nat) : PyStr :=
  if microsecond = 0 then [] else 0x2E :: zeroPadded 6 microsecond

def UtcDatetime.isoformat (a : UtcDatetime) : PyStr :=
  zeroPadded 4 a.year ++ 0x2D :: (zeroPadded 2 a.month ++ 0x2D :: (zeroPadded 2 a.day ++ 0x54 ::
    (zeroPadded 2 a.hour ++ 0x3A :: (zeroPadded 2 a.minute ++ 0x3A :: (zeroPadded 2 a.second ++
      (printMicrosecond a.microsecond ++ PyStr.ofString "+00:00"))))))

def yearDays (year : Nat) : Nat := 365 + (if isLeap year then 1 else 0)

theorem daysBeforeYear_succ (hy : 1 ≤ year) :
    daysBeforeYear (year + 1) = daysBeforeYear year + yearDays year := by
  obtain ⟨y, rfl⟩ := Nat.exists_eq_add_of_le' hy
  rw [daysBeforeYear, daysBeforeYear, yearDays, isLeap, Nat.add_sub_cancel, Nat.add_sub_cancel]
  grind

theorem daysBeforeYear_mono {y y' : Nat} (hy : 1 ≤ y) (h : y < y') :
    daysBeforeYear y + yearDays y ≤ daysBeforeYear y' := by
  induction y', h using Nat.le_induction with
  | base => rw [daysBeforeYear_succ hy]
  | succ y' hle ih =>
    have hnext := daysBeforeYear_succ (Nat.le_trans hy (Nat.le_of_succ_le hle))
    omega

theorem daysInMonth_le (year month : Nat) : daysInMonth year month ≤ 31 := by
  rw [daysInMonth]
  split
  · decide
  · rcases Nat.lt_or_ge month 13 with hlt | hge
    · interval_cases month <;> decide
    · rw [List.getD_eq_getElem?_getD, List.getElem?_eq_none hge]
      decide

theorem daysBeforeMonth_succ (year : Nat) (hm : 1 ≤ month) (h : month < 12) :
    daysBeforeMonth year (month + 1) = daysBeforeMonth year month + daysInMonth year month := by
  rw [daysBeforeMonth, daysBeforeMonth, daysInMonth]
  cases isLeap year <;> interval_cases month <;> rfl

theorem daysBeforeMonth_last (year : Nat) :
    daysBeforeMonth year 12 + daysInMonth year 12 = yearDays year := by
  rw [daysBeforeMonth, daysInMonth, yearDays]
  cases isLeap year <;> rfl

theorem daysBeforeMonth_mono (year : Nat) {m m' : Nat} (hm : 1 ≤ m) (h : m < m') (hm' : m' ≤ 12) :
    daysBeforeMonth year m + daysInMonth year m ≤ daysBeforeMonth year m' := by
  induction m', h using Nat.le_induction with
  | base => rw [daysBeforeMonth_succ year hm hm']
  | succ m' hle ih =>
    have hnext := daysBeforeMonth_succ year
      (Nat.le_trans hm (Nat.le_of_succ_le hle)) hm'
    have hbefore := ih (Nat.le_of_succ_le hm')
    omega

theorem daysBeforeMonth_year (year : Nat) (hm : 1 ≤ month ∧ month ≤ 12) :
    daysBeforeMonth year month + daysInMonth year month ≤ yearDays year := by
  rcases hm.2.lt_or_eq with hlt | rfl
  · have hlast := daysBeforeMonth_last year
    have hmono := daysBeforeMonth_mono year hm.1 hlt (Nat.le_refl 12)
    omega
  · exact Nat.le_of_eq (daysBeforeMonth_last year)

theorem UtcDatetime.toordinal_lt (a b : UtcDatetime) : a.toordinal < b.toordinal ↔
    a.year < b.year ∨ a.year = b.year ∧
      (a.month < b.month ∨ a.month = b.month ∧ a.day < b.day) := by
  have hforward : ∀ a b : UtcDatetime, a.year < b.year ∨ a.year = b.year ∧ a.month < b.month →
      a.toordinal < b.toordinal := by
    intro a b h
    rw [toordinal, toordinal, ymdToOrdinal, ymdToOrdinal]
    have hstart := a.day_range
    have hend := b.day_range
    rcases h with hyear | ⟨hyear, hmonth⟩
    · have hyears := daysBeforeYear_mono a.year_range.1 hyear
      have hmonths := daysBeforeMonth_year a.year a.month_range
      omega
    · have hmonths := daysBeforeMonth_mono a.year a.month_range.1 hmonth b.month_range.2
      rw [← hyear]
      omega
  have hab := hforward a b
  have hba := hforward b a
  by_cases hsame : a.year = b.year ∧ a.month = b.month
  · rw [toordinal, toordinal, ymdToOrdinal, ymdToOrdinal, hsame.1, hsame.2]
    omega
  · omega

theorem UtcDatetime.toordinal_pos (a : UtcDatetime) : 0 < a.toordinal :=
  Nat.add_pos_right _ a.day_range.1

theorem UtcDatetime.instant_lt (a b : UtcDatetime) : a.instant < b.instant ↔
    a.toordinal < b.toordinal ∨ a.toordinal = b.toordinal ∧ (a.hour < b.hour ∨ a.hour = b.hour ∧
      (a.minute < b.minute ∨ a.minute = b.minute ∧ (a.second < b.second ∨
        a.second = b.second ∧ a.microsecond < b.microsecond))) := by
  have hday : 24 * (a.toordinal - 1) + a.hour < 24 * (b.toordinal - 1) + b.hour ↔
      a.toordinal < b.toordinal ∨ a.toordinal = b.toordinal ∧ a.hour < b.hour := by
    have ha := a.toordinal_pos
    have hb := b.toordinal_pos
    rw [place_lt a.hour_lt b.hour_lt]
    omega
  have hdays : 24 * (a.toordinal - 1) + a.hour = 24 * (b.toordinal - 1) + b.hour ↔
      a.toordinal = b.toordinal ∧ a.hour = b.hour := by
    have ha := a.toordinal_pos
    have hb := b.toordinal_pos
    rw [place_eq a.hour_lt b.hour_lt]
    omega
  rw [instant, instant, place_lt a.microsecond_lt b.microsecond_lt,
    place_lt a.second_lt b.second_lt, place_eq a.second_lt b.second_lt,
    place_lt a.minute_lt b.minute_lt, place_eq a.minute_lt b.minute_lt, hday, hdays,
    places_assoc, places_assoc, places_assoc]

theorem printMicrosecond_lt (hm : m < 1000000) (hn : n < 1000000) :
    printMicrosecond m ++ PyStr.ofString "+00:00" <
      printMicrosecond n ++ PyStr.ofString "+00:00" ↔ m < n := by
  have hfirst : ∀ {c d : CodePoint} {s t : PyStr}, c < d → c :: s < d :: t := by
    intro c d s t h
    exact List.cons_lt_cons_iff.2 (.inl h)
  rw [printMicrosecond, printMicrosecond]
  split_ifs with hm' hn' hn'
  · rw [hm', hn']
    exact iff_of_false (lt_irrefl _) (lt_irrefl _)
  · exact iff_of_true (hfirst (by decide)) (by omega)
  · exact iff_of_false (lt_asymm (hfirst (by decide))) (by omega)
  · rw [List.cons_append, List.cons_append, List.cons_lt_cons_self, zeroPadded_lt hm hn]
    simp

theorem UtcDatetime.isoformat_lt (a b : UtcDatetime) : a.isoformat < b.isoformat ↔
    a.year < b.year ∨ a.year = b.year ∧ (a.month < b.month ∨ a.month = b.month ∧
      (a.day < b.day ∨ a.day = b.day ∧ (a.hour < b.hour ∨ a.hour = b.hour ∧
        (a.minute < b.minute ∨ a.minute = b.minute ∧ (a.second < b.second ∨
          a.second = b.second ∧ a.microsecond < b.microsecond))))) := by
  have hyear : ∀ c : UtcDatetime, c.year < 10 ^ (3 + 1) := by
    intro c
    have hle := c.year_range.2
    omega
  have hmonth : ∀ c : UtcDatetime, c.month < 10 ^ (1 + 1) := by
    intro c
    have hle := c.month_range.2
    omega
  have hday : ∀ c : UtcDatetime, c.day < 10 ^ (1 + 1) := by
    intro c
    have hle := c.day_range.2
    have hdays := daysInMonth_le c.year c.month
    omega
  have htime : ∀ {n : Nat}, n < 60 → n < 10 ^ (1 + 1) := by
    intro n h
    omega
  have hhour : ∀ c : UtcDatetime, c.hour < 10 ^ (1 + 1) := by
    intro c
    have hlt := c.hour_lt
    omega
  rw [isoformat, isoformat, zeroPadded_lt (hyear a) (hyear b), List.cons_lt_cons_self,
    zeroPadded_lt (hmonth a) (hmonth b), List.cons_lt_cons_self, zeroPadded_lt (hday a) (hday b),
    List.cons_lt_cons_self, zeroPadded_lt (hhour a) (hhour b), List.cons_lt_cons_self,
    zeroPadded_lt (htime a.minute_lt) (htime b.minute_lt), List.cons_lt_cons_self,
    zeroPadded_lt (htime a.second_lt) (htime b.second_lt),
    printMicrosecond_lt a.microsecond_lt b.microsecond_lt]

theorem UtcDatetime.isoformat_lt_iff (a b : UtcDatetime) :
    a.isoformat < b.isoformat ↔ a.instant < b.instant := by
  have hday : a.toordinal = b.toordinal ↔
      a.year = b.year ∧ a.month = b.month ∧ a.day = b.day := by
    have hab := a.toordinal_lt b
    have hba := b.toordinal_lt a
    omega
  rw [a.isoformat_lt b, a.instant_lt b, a.toordinal_lt b, hday, places_assoc, places_assoc]

theorem zeroPadded_ascii (width n : Nat) : ∀ c ∈ zeroPadded width n, c.val < 0x80 := by
  intro c hc
  rcases List.mem_append.1 hc with hc | hc
  · rw [List.eq_of_mem_replicate hc]
    decide
  · have hdigit := decimal_isDigit n c hc
    rw [CodePoint.isDigit, Bool.and_eq_true, decide_eq_true_eq, decide_eq_true_eq] at hdigit
    omega

theorem printMicrosecond_ascii (n : Nat) : ∀ c ∈ printMicrosecond n, c.val < 0x80 := by
  rw [printMicrosecond]
  split
  · exact fun c hc => absurd hc List.not_mem_nil
  · exact List.forall_mem_cons.2 ⟨by decide, zeroPadded_ascii 6 n⟩

theorem UtcDatetime.isoformat_ascii (a : UtcDatetime) : ∀ c ∈ a.isoformat, c.val < 0x80 := by
  have hzone : (PyStr.ofString "+00:00").all (·.val < 0x80) = true := by decide +kernel
  have hfield : ∀ {width n : Nat} {c : CodePoint} {p : PyStr}, c.val < 0x80 →
      (∀ c ∈ p, c.val < 0x80) → ∀ d ∈ zeroPadded width n ++ c :: p, d.val < 0x80 := by
    intro width n c p hc hp
    exact List.forall_mem_append.2 ⟨zeroPadded_ascii width n, List.forall_mem_cons.2 ⟨hc, hp⟩⟩
  rw [isoformat]
  apply hfield (by decide)
  apply hfield (by decide)
  apply hfield (by decide)
  apply hfield (by decide)
  apply hfield (by decide)
  rw [List.forall_mem_append, List.forall_mem_append]
  exact ⟨zeroPadded_ascii _ _, printMicrosecond_ascii _,
    fun c hc => of_decide_eq_true (List.all_eq_true.1 hzone c hc)⟩

theorem utf8_lt_iff {p q : PyStr} {x y : List UInt8} (hp : ∀ c ∈ p, c.val < 0x80)
    (hq : ∀ c ∈ q, c.val < 0x80) (hx : utf8 p = .ok x) (hy : utf8 q = .ok y) :
    x < y ↔ p < q := by
  rw [utf8_ascii hp] at hx
  rw [utf8_ascii hq] at hy
  obtain rfl := Except.ok.inj hx
  obtain rfl := Except.ok.inj hy
  have hbyte : ∀ {c : CodePoint}, c.val < 0x80 → (UInt8.ofNat c.val).toNat = c.val := by
    intro c hc
    exact UInt8.toNat_ofNat_of_lt' (Nat.lt_trans hc (by decide))
  apply map_lt
  · intro c hc d hd
    rw [UInt8.lt_iff_toNat_lt, hbyte (hp c hc), hbyte (hq d hd)]
    exact Fin.lt_def.symm
  · intro c hc d hd h
    have hval := congrArg UInt8.toNat h
    rw [hbyte (hp c hc), hbyte (hq d hd)] at hval
    exact Fin.ext hval

theorem exists_ymd (hn : n < 3652059) : ∃ year month day, (1 ≤ year ∧ year ≤ 9999) ∧
    (1 ≤ month ∧ month ≤ 12) ∧ (1 ≤ day ∧ day ≤ daysInMonth year month) ∧
      ymdToOrdinal year month day = n + 1 := by
  induction n with
  | zero => exact ⟨1, 1, 1, by decide, by decide, by decide, by decide⟩
  | succ n ih =>
    obtain ⟨year, month, day, hyear, hmonth, hday, hn'⟩ := ih (Nat.lt_of_succ_lt hn)
    rw [ymdToOrdinal] at hn'
    have hfirst : ∀ y m, 1 ≤ daysInMonth y m ∨ m = 0 ∨ 12 < m := by
      intro y m
      rw [daysInMonth]
      rcases Nat.lt_or_ge m 13 with hlt | hge
      · cases isLeap y <;> interval_cases m <;> decide
      · exact .inr (.inr hge)
    rcases hday.2.lt_or_eq with hlt | hlast
    · refine ⟨year, month, day + 1, hyear, hmonth, ⟨Nat.succ_pos _, hlt⟩, ?_⟩
      rw [ymdToOrdinal]
      omega
    · rcases hmonth.2.lt_or_eq with hlt | rfl
      · have hnext := daysBeforeMonth_succ year hmonth.1 hlt
        have hpos := hfirst year (month + 1)
        refine ⟨year, month + 1, 1, hyear, ⟨Nat.succ_pos _, hlt⟩, ⟨Nat.le_refl 1, by omega⟩, ?_⟩
        rw [ymdToOrdinal]
        omega
      · have hyearEnd := daysBeforeMonth_last year
        have hnext := daysBeforeYear_succ hyear.1
        have hjanuary : ∀ y, daysBeforeMonth y 1 = 0 := by
          intro y
          rw [daysBeforeMonth]
          cases isLeap y <;> rfl
        have hyear' : year ≠ 9999 := by
          rintro rfl
          have hend : daysBeforeYear 9999 + yearDays 9999 = 3652059 := by decide
          omega
        refine ⟨year + 1, 1, 1, by omega, by decide, ⟨Nat.le_refl 1, ?_⟩, ?_⟩
        · have hpos := hfirst (year + 1) 1
          omega
        · rw [ymdToOrdinal, hjanuary]
          omega

theorem exists_datetime (t : Nat) (ht : t ≤ 315537897599999999) :
    ∃ a : UtcDatetime, a.instant = t := by
  have hday : t / 86400000000 < 3652059 := by omega
  obtain ⟨year, month, day, hyear, hmonth, hday, hn⟩ := exists_ymd hday
  refine ⟨{ year := year, month := month, day := day, hour := t / 3600000000 % 24,
            minute := t / 60000000 % 60, second := t / 1000000 % 60,
            microsecond := t % 1000000, year_range := hyear, month_range := hmonth,
            day_range := hday, hour_lt := Nat.mod_lt _ (by decide),
            minute_lt := Nat.mod_lt _ (by decide), second_lt := Nat.mod_lt _ (by decide),
            microsecond_lt := Nat.mod_lt _ (by decide) }, ?_⟩
  rw [UtcDatetime.instant, UtcDatetime.toordinal]
  dsimp only
  rw [hn, Nat.add_sub_cancel]
  omega

end Python
