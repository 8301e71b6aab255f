/-
A database of zones: those that flows name, from 2018 on, and the regions they are kept in.
-/
import FrontDesk.Calendar.Schedule

namespace FrontDesk

namespace Calendar.Zone

/-- The instant of a date and time of universal time, in seconds. -/
def instantOf (year month day hour minute second : Nat) : Int :=
  (Date.toDay { year, month, day } : Int) * 86400 + hour * 3600 + minute * 60 + second

/-- A zone that follows one yearly rule. -/
def yearly (standard summer : Int) (forward back : Change) : Zone :=
  { first := .yearly standard summer forward back }

/-- The zones of this database, by name. -/
def table : List (String × Zone) := [
  ("UTC", utc),
  ("GMT", utc),
  ("Etc/UTC", utc),
  ("America/Sao_Paulo",
    { first := .fixed (-10800)
      eras := [
        (instantOf 2017 10 15 3 0 0, .fixed (-7200)),
        (instantOf 2018 2 18 2 0 0, .fixed (-10800)),
        (instantOf 2018 11 4 3 0 0, .fixed (-7200)),
        (instantOf 2019 2 17 2 0 0, .fixed (-10800))] }),
  ("America/New_York", yearly (-18000) (-14400) ⟨3, 2, 7200⟩ ⟨11, 1, 7200⟩),
  ("Europe/London", yearly 0 3600 ⟨3, 5, 3600⟩ ⟨10, 5, 7200⟩),
  ("Asia/Tokyo",
    { first := .fixed 33539
      eras := [
        (instantOf 1887 12 31 15 0 0, .fixed 32400),
        (instantOf 1948 5 1 15 0 0, .fixed 36000),
        (instantOf 1948 9 11 15 0 0, .fixed 32400),
        (instantOf 1949 4 2 15 0 0, .fixed 36000),
        (instantOf 1949 9 10 15 0 0, .fixed 32400),
        (instantOf 1950 5 6 15 0 0, .fixed 36000),
        (instantOf 1950 9 9 15 0 0, .fixed 32400),
        (instantOf 1951 5 5 15 0 0, .fixed 36000),
        (instantOf 1951 9 8 15 0 0, .fixed 32400)] }),
  ("Asia/Kolkata",
    { first := .fixed 21208
      eras := [
        (instantOf 1854 6 27 18 6 32, .fixed 21200),
        (instantOf 1869 12 31 18 6 40, .fixed 19270),
        (instantOf 1905 12 31 18 38 50, .fixed 19800),
        (instantOf 1941 9 30 18 30 0, .fixed 23400),
        (instantOf 1942 5 14 17 30 0, .fixed 19800),
        (instantOf 1942 8 31 18 30 0, .fixed 23400),
        (instantOf 1945 10 14 17 30 0, .fixed 19800)] }),
  ("Asia/Kathmandu",
    { first := .fixed 20476
      eras := [
        (instantOf 1919 12 31 18 18 44, .fixed 19800),
        (instantOf 1985 12 31 18 30 0, .fixed 20700)] }),
  ("Australia/Lord_Howe", yearly 37800 39600 ⟨10, 1, 7200⟩ ⟨4, 1, 7200⟩),
  ("Pacific/Auckland", yearly 43200 46800 ⟨9, 5, 7200⟩ ⟨4, 1, 10800⟩),
  ("Pacific/Kiritimati",
    { first := .fixed (-37760)
      eras := [
        (instantOf 1901 1 1 10 29 20, .fixed (-38400)),
        (instantOf 1979 10 1 10 40 0, .fixed (-36000)),
        (instantOf 1994 12 31 10 0 0, .fixed 50400)] }),
  ("Pacific/Pago_Pago",
    { first := .fixed 45432
      eras := [
        (instantOf 1892 7 4 11 22 48, .fixed (-40968)),
        (instantOf 1911 1 1 11 22 48, .fixed (-39600))] }),
  ("Pacific/Chatham", yearly 45900 49500 ⟨9, 5, 9900⟩ ⟨4, 1, 13500⟩),
  ("Etc/GMT+5", fixed (-18000)),
  ("Etc/GMT+3", fixed (-10800)),
  ("Etc/GMT-14", fixed 50400),
  ("America/St_Johns", yearly (-12600) (-9000) ⟨3, 2, 7200⟩ ⟨11, 1, 7200⟩),
  ("Asia/Dubai",
    { first := .fixed 13272
      eras := [(instantOf 1919 12 31 20 18 48, .fixed 14400)] }),
  ("EST", fixed (-18000))]

/-- Names under which the zones of a region are kept, and which are no zones themselves. -/
def regions : List String :=
  ["Africa", "America", "America/Argentina", "America/Indiana", "America/Kentucky",
   "America/North_Dakota", "Antarctica", "Arctic", "Asia", "Atlantic", "Australia", "Brazil",
   "Canada", "Chile", "Etc", "Europe", "Indian", "Mexico", "Pacific", "US"]

/-- The database of the table; case matters, and so does every character. -/
def lookup : Database := fun name =>
  match table.lookup name with
  | some z => .zone z
  | none => if regions.contains name then .region else .unknown

end Calendar.Zone

/-- Whether hours are open by the database. -/
def Schedule.isOpen (s : Option Schedule) (now : Calendar.Moment) : Except Schedule.Fault Bool :=
  Schedule.isOpenBy Calendar.Zone.lookup s now

end FrontDesk
