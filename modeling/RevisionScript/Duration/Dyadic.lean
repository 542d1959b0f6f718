namespace RevisionScript

inductive NotFinite
  | infinite
  | undefined
  deriving DecidableEq, Repr

def NotFinite.message : NotFinite → String
  | infinite => "cannot convert float infinity to integer"
  | undefined => "cannot convert float NaN to integer"

/-- The number `± mantissa * 2 ^ exponent`, the exact value of a finite double. -/
structure Dyadic where
  negative : Bool
  mantissa : Nat
  exponent : Int
  deriving DecidableEq, Repr

namespace Dyadic

/-- Infinities and NaN have no exact value; they are taken as if they were finite. -/
def ofFloat (x : Float) : Dyadic :=
  let bits : Nat := x.toBits.toNat
  let fraction : Nat := bits % 0x10000000000000
  let biased : Nat := bits / 0x10000000000000 % 0x800
  let negative := bits / 0x8000000000000000 = 1
  if biased = 0 then ⟨negative, fraction, -1074⟩
  else ⟨negative, 0x10000000000000 + fraction, (biased : Int) - 1075⟩

def ofFloat? (x : Float) : Except NotFinite Dyadic :=
  let bits : Nat := x.toBits.toNat
  if bits / 0x10000000000000 % 0x800 ≠ 0x7ff then .ok (ofFloat x)
  else .error (if bits % 0x10000000000000 = 0 then .infinite else .undefined)

def quotient (d : Dyadic) : Nat × Nat :=
  match d.exponent with
  | .ofNat e => (d.mantissa * Nat.pow 2 e, 1)
  | .negSucc e => (d.mantissa, Nat.pow 2 (e + 1))

def truncate (d : Dyadic) : Int :=
  let (n, m) := d.quotient
  if d.negative then -((n / m : Nat) : Int) else ((n / m : Nat) : Int)

end Dyadic

/-- The integer nearest to a quotient; halfway it is the even one. -/
def roundDiv (n m : Nat) : Nat :=
  let q := n / m
  let r := n % m
  if 2 * r < m then q else if m < 2 * r then q + 1 else q + q % 2

namespace Dyadic

/-- Two decimals, rounded from the exact value. A negative number keeps its sign even when nothing
else is left of it. -/
def hundredths (d : Dyadic) : String :=
  let (n, m) := d.quotient
  let h := roundDiv (100 * n) m
  let decimals := String.ofList [Char.ofNat (48 + h / 10 % 10), Char.ofNat (48 + h % 10)]
  let sign := if d.negative then "-" else ""
  let whole := h / 100
  s!"{sign}{whole}.{decimals}"

end Dyadic

end RevisionScript
