import ServerlessX.Py.Strings
import ServerlessX.Py.Values

/-! UTC times as `datetime` keeps them, with the two formats they are written in
and a reader of the first. -/
namespace ServerlessX.Py

/-- `n` as a decimal of `width` digits. -/
def pad : Nat → Nat → List Char
  | 0, _ => []
  | width + 1, n => pad width (n / 10) ++ [digitChar (n % 10)]

/-- The value of a run of digits. -/
def number (cs : List Char) : Nat := cs.foldl (fun acc c => 10 * acc + (c.toNat - 48)) 0

theorem length_pad (width n : Nat) : (pad width n).length = width := by
  induction width generalizing n with
  | zero => rfl
  | succ width ih => simp [pad, ih]

theorem digitChar_props : ∀ d < 10, isDigit (digitChar d) = true ∧ (digitChar d).toNat - 48 = d := by
  decide

theorem pad_all (width n : Nat) : (pad width n).all isDigit = true := by
  induction width generalizing n with
  | zero => rfl
  | succ width ih => simp [pad, ih, (digitChar_props (n % 10) (Nat.mod_lt _ (by omega))).1]

theorem number_pad {width n : Nat} (h : n < 10 ^ width) : number (pad width n) = n := by
  induction width generalizing n with
  | zero =>
    obtain rfl : n = 0 := by simpa using h
    rfl
  | succ width ih =>
    have hdiv : n / 10 < 10 ^ width := by
      rw [Nat.pow_succ] at h
      exact Nat.div_lt_of_lt_mul (by omega)
    have hlast := (digitChar_props (n % 10) (Nat.mod_lt _ (by omega))).2
    have hstep : number (pad (width + 1) n) =
        10 * number (pad width (n / 10)) + ((digitChar (n % 10)).toNat - 48) := by
      simp [number, pad, List.foldl_append]
    rw [hstep, ih hdiv, hlast]
    omega

/-- A time in UTC with microseconds. -/
structure UtcTime where
  year : Nat
  month : Nat
  day : Nat
  hour : Nat
  minute : Nat
  second : Nat
  microsecond : Nat
  inRange : (1 ≤ year ∧ year ≤ 9999) ∧ (1 ≤ month ∧ month ≤ 12) ∧ (1 ≤ day ∧ day ≤ 31) ∧
    hour ≤ 23 ∧ minute ≤ 59 ∧ second ≤ 59 ∧ microsecond ≤ 999999

namespace UtcTime

/-- Counts microseconds in months of 31 days, which orders times as `datetime` does. -/
def order (t : UtcTime) : Nat :=
  (((((t.year * 12 + t.month) * 31 + t.day) * 24 + t.hour) * 60 + t.minute) * 60 + t.second) *
    1000000 + t.microsecond

/-- `strftime("%Y-%m-%dT%H:%M:%S.%fZ")` for a year of four digits. -/
def isoText (t : UtcTime) : String := String.ofList <|
  pad 4 t.year ++ '-' :: (pad 2 t.month ++ '-' :: (pad 2 t.day ++ 'T' :: (pad 2 t.hour ++
    ':' :: (pad 2 t.minute ++ ':' :: (pad 2 t.second ++ '.' :: (pad 6 t.microsecond ++ ['Z']))))))

/-- `strftime("%Y%m%dT%H%M%S.%fZ")` for a year of four digits. -/
def stampText (t : UtcTime) : List Char :=
  pad 4 t.year ++ pad 2 t.month ++ pad 2 t.day ++ ('T' :: (pad 2 t.hour ++ pad 2 t.minute ++
    pad 2 t.second)) ++ ('.' :: pad 6 t.microsecond) ++ ['Z']

/-- A number of fixed width, and what stands behind the character that ends it. -/
def readField (width : Nat) (cs : List Char) : Nat × List Char :=
  (number (cs.take width), cs.drop (width + 1))

/-- `strptime` on texts with every field at full width. -/
def ofIsoText (s : String) : Except (Raised Builtin) UtcTime :=
  let (year, cs) := readField 4 s.toList
  let (month, cs) := readField 2 cs
  let (day, cs) := readField 2 cs
  let (hour, cs) := readField 2 cs
  let (minute, cs) := readField 2 cs
  let (second, cs) := readField 2 cs
  let (microsecond, cs) := readField 6 cs
  if h : (1 ≤ year ∧ year ≤ 9999) ∧ (1 ≤ month ∧ month ≤ 12) ∧ (1 ≤ day ∧ day ≤ 31) ∧
      hour ≤ 23 ∧ minute ≤ 59 ∧ second ≤ 59 ∧ microsecond ≤ 999999 then
    if cs.isEmpty then .ok ⟨year, month, day, hour, minute, second, microsecond, h⟩
    else .error ⟨.valueError, [.text "unconverted data remains: ", .text (String.ofList cs)]⟩
  else .error ⟨.valueError, [.text "time data does not match format"]⟩

theorem readField_pad {width n : Nat} (hn : n < 10 ^ width) (c : Char) (cs : List Char) :
    readField width (pad width n ++ c :: cs) = (n, cs) := by
  have hlen := length_pad width n
  have hdrop : (pad width n ++ c :: cs).drop (width + 1) = cs := by
    rw [← List.drop_drop, List.drop_left' hlen, List.drop_one, List.tail_cons]
  rw [readField, List.take_left' hlen, number_pad hn, hdrop]

theorem ofIsoText_isoText (t : UtcTime) : ofIsoText t.isoText = .ok t := by
  obtain ⟨year, month, day, hour, minute, second, microsecond, h⟩ := t
  have hyear := @readField_pad 4 year (by omega)
  have hmonth := @readField_pad 2 month (by omega)
  have hday := @readField_pad 2 day (by omega)
  have hhour := @readField_pad 2 hour (by omega)
  have hminute := @readField_pad 2 minute (by omega)
  have hsecond := @readField_pad 2 second (by omega)
  have hmicro := @readField_pad 6 microsecond (by omega)
  simp only [ofIsoText, isoText, String.toList_ofList, hyear, hmonth, hday, hhour, hminute, hsecond,
    hmicro]
  rw [dif_pos h]
  rfl

end UtcTime
end ServerlessX.Py
