/-!
# Identifiers and timestamps

The store names new rows and dates them from two counters.  The `n`-th identifier is the number
`n` written as a UUID (eight, four, four, four and twelve lower-case hex digits), and the
`k`-th clock reading is midnight of 2025-01-01 UTC plus `k` seconds, written in ISO 8601 with the
`+00:00` offset.  The two counters run independently and start at one.
-/

namespace Tactician
namespace Store

/-- The counters from which identifiers and timestamps are drawn. -/
structure Stamps where
  /-- Identifiers handed out so far. -/
  issued : Nat := 0
  /-- Clock readings taken so far. -/
  ticks : Nat := 0
  deriving DecidableEq, Repr, Inhabited

/-- The lower-case hex digit of a number below sixteen. -/
def hexDigit (d : Nat) : Char :=
  if d < 10 then Char.ofNat ('0'.toNat + d) else Char.ofNat ('a'.toNat + d - 10)

/-- The last `width` hex digits of `n`, most significant first. -/
def hexDigits (n : Nat) : Nat → List Char
  | 0 => []
  | w + 1 => hexDigits (n / 16) w ++ [hexDigit (n % 16)]

@[simp] theorem length_hexDigits (n w : Nat) : (hexDigits n w).length = w := by
  induction w generalizing n with
  | zero => rfl
  | succ w ih => simp [hexDigits, ih]

/-- How many hex digits the UUID text of `n` has: thirty-two, or as many as `n` needs. -/
def uuidWidth (n : Nat) : Nat := max 32 (n.log2 / 4 + 1)

/-- The UUID text of a number: its hex digits, at least 32, in groups of 8, 4, 4, 4 and 12.  A
number past 128 bits lengthens the first group, so that no two numbers share a text. -/
def uuidText (n : Nat) : String :=
  let ds := hexDigits n (uuidWidth n)
  let lead := ds.length - 24
  String.intercalate "-"
    [String.ofList (ds.take lead), String.ofList ((ds.drop lead).take 4),
     String.ofList ((ds.drop (lead + 4)).take 4), String.ofList ((ds.drop (lead + 8)).take 4),
     String.ofList (ds.drop (lead + 12))]

/-- The proleptic Gregorian date (year, month, day) of a day count from 1970-01-01. -/
def civilOfDays (days : Nat) : Nat × Nat × Nat :=
  let z := days + 719468
  let era := z / 146097
  let doe := z - era * 146097
  let yoe := (doe - doe / 1460 + doe / 36524 - doe / 146096) / 365
  let doy := doe - (365 * yoe + yoe / 4 - yoe / 100)
  let mp := (5 * doy + 2) / 153
  let day := doy - (153 * mp + 2) / 5 + 1
  let month := if mp < 10 then mp + 3 else mp - 9
  let year := yoe + era * 400
  (if month ≤ 2 then year + 1 else year, month, day)

/-- A number in decimal, padded with zeros to `width` digits. -/
def padded (width n : Nat) : String :=
  let s := toString n
  String.ofList (List.replicate (width - s.length) '0') ++ s

/-- The ISO 8601 text of a moment given in seconds from 1970-01-01 UTC. -/
def isoText (seconds : Nat) : String :=
  let (y, m, d) := civilOfDays (seconds / 86400)
  let s := seconds % 86400
  padded 4 y ++ "-" ++ padded 2 m ++ "-" ++ padded 2 d ++ "T" ++ padded 2 (s / 3600) ++ ":" ++
    padded 2 (s / 60 % 60) ++ ":" ++ padded 2 (s % 60) ++ "+00:00"

/-- Midnight of 2025-01-01 UTC, in seconds from 1970-01-01. -/
def clockStart : Nat := 20089 * 86400

namespace Stamps

/-- Hand out the next identifier. -/
def nextId (st : Stamps) : String × Stamps :=
  (uuidText (st.issued + 1), { st with issued := st.issued + 1 })

/-- Read the clock once. -/
def nextTime (st : Stamps) : String × Stamps :=
  (isoText (clockStart + st.ticks + 1), { st with ticks := st.ticks + 1 })

@[simp] theorem nextId_ticks (st : Stamps) : st.nextId.2.ticks = st.ticks := rfl

@[simp] theorem nextTime_issued (st : Stamps) : st.nextTime.2.issued = st.issued := rfl

end Stamps

end Store
end Tactician
