/-! Values of TOML documents. A table keeps its entries in the order of their first mention. -/
namespace ServicePublisher.Toml

structure Date where
  year : Nat
  month : Nat
  day : Nat
deriving DecidableEq, Repr

/-- A time of day; the fraction of a second is in nanoseconds. -/
structure Time where
  hour : Nat
  minute : Nat
  second : Nat
  nanosecond : Nat
deriving DecidableEq, Repr

/-- The distance from universal time: none by name, or in minutes. -/
inductive Offset where
  | universal
  | minutes (n : Int)
deriving DecidableEq, Repr

inductive Datetime where
  | date (d : Date)
  | time (t : Time)
  | both (d : Date) (t : Time) (o : Option Offset)
deriving DecidableEq, Repr

/-- A value. A float is kept as it is written. -/
inductive Value where
  | string (s : String)
  | integer (n : Int)
  | float (text : String)
  | boolean (b : Bool)
  | datetime (d : Datetime)
  | array (elements : List Value)
  | table (entries : List (String × Value))

instance : Inhabited Value := ⟨.boolean false⟩

mutual

def Value.same : Value → Value → Bool
  | .string s, .string t => s == t
  | .integer m, .integer n => m == n
  | .float s, .float t => s == t
  | .boolean b, .boolean c => b == c
  | .datetime d, .datetime e => d == e
  | .array vs, .array ws => sameElements vs ws
  | .table es, .table fs => sameEntries es fs
  | _, _ => false

def sameElements : List Value → List Value → Bool
  | [], [] => true
  | v :: vs, w :: ws => v.same w && sameElements vs ws
  | _, _ => false

def sameEntries : List (String × Value) → List (String × Value) → Bool
  | [], [] => true
  | (k, v) :: es, (l, w) :: fs => k == l && v.same w && sameEntries es fs
  | _, _ => false

end

mutual

theorem Value.same_iff : ∀ {v w : Value}, v.same w = true ↔ v = w
  | .string _, w => by cases w <;> simp [Value.same]
  | .integer _, w => by cases w <;> simp [Value.same]
  | .float _, w => by cases w <;> simp [Value.same]
  | .boolean _, w => by cases w <;> simp [Value.same]
  | .datetime _, w => by cases w <;> simp [Value.same]
  | .array vs, w => by cases w <;> simp [Value.same, @sameElements_iff vs]
  | .table es, w => by cases w <;> simp [Value.same, @sameEntries_iff es]

theorem sameElements_iff : ∀ {vs ws : List Value}, sameElements vs ws = true ↔ vs = ws
  | [], ws => by cases ws <;> simp [sameElements]
  | v :: vs, ws => by cases ws <;> simp [sameElements, @Value.same_iff v, @sameElements_iff vs]

theorem sameEntries_iff : ∀ {es fs : List (String × Value)}, sameEntries es fs = true ↔ es = fs
  | [], fs => by cases fs <;> simp [sameEntries]
  | (k, v) :: es, fs => by
    cases fs <;> simp [sameEntries, @Value.same_iff v, @sameEntries_iff es, Prod.ext_iff]

end

instance : DecidableEq Value := fun _ _ => decidable_of_iff _ Value.same_iff

def padded (width n : Nat) : String :=
  let digits := (toString n).toList
  String.ofList (List.replicate (width - digits.length) '0' ++ digits)

namespace Datetime

def dateText (d : Date) : String :=
  padded 4 d.year ++ "-" ++ padded 2 d.month ++ "-" ++ padded 2 d.day

/-- The fraction of a second without zeros at its end. -/
def fractionText (nanosecond : Nat) : String :=
  if nanosecond = 0 then ""
  else "." ++ String.ofList ((padded 9 nanosecond).toList.reverse.dropWhile (· = '0')).reverse

def timeText (t : Time) : String :=
  padded 2 t.hour ++ ":" ++ padded 2 t.minute ++ ":" ++ padded 2 t.second ++
    fractionText t.nanosecond

def offsetText : Offset → String
  | .universal => "Z"
  | .minutes n =>
    (if n < 0 then "-" else "+") ++ padded 2 (n.natAbs / 60) ++ ":" ++ padded 2 (n.natAbs % 60)

def text : Datetime → String
  | .date d => dateText d
  | .time t => timeText t
  | .both d t o => dateText d ++ "T" ++ timeText t ++ (o.map offsetText).getD ""

end Datetime

end ServicePublisher.Toml
