import KvTables.Decimal.Shortest

/-! Where the digits of a number go: positional or with an exponent. -/

set_option autoImplicit false

namespace KvTables.Decimal

/-- A way to write numbers. An exponent carries its sign; a positional number always has a point. -/
structure Layout where
  /-- Exponents of the leading digit that are written positionally. -/
  positional : Int → Bool

namespace Layout

/-- JSON output is positional from `0.00001` up to, and without, `1e+16`. -/
def json : Layout := ⟨fun e => decide (-5 ≤ e ∧ e < 16)⟩

def plain : Layout := ⟨fun _ => true⟩

def positionalText (d : Digits) : List Char :=
  let point := d.point.toNat
  if d.point ≤ 0 then
    '0' :: '.' :: (List.replicate (-d.point).toNat '0' ++ d.digits)
  else if d.digits.length ≤ point then
    d.digits ++ List.replicate (point - d.digits.length) '0' ++ ['.', '0']
  else
    d.digits.take point ++ '.' :: d.digits.drop point

def exponentText (d : Digits) : List Char :=
  let exponent := d.point - 1
  let fraction := match d.digits.drop 1 with
    | [] => []
    | more => '.' :: more
  let sign := if exponent < 0 then '-' else '+'
  d.digits.take 1 ++ fraction ++ 'e' :: sign :: Nat.toDigits 10 exponent.natAbs

def write (layout : Layout) (x : Double) : String :=
  let sign := if x.negative then ['-'] else []
  let body :=
    if x.isZero then ['0', '.', '0']
    else
      let d := x.shortest
      if layout.positional (d.point - 1) then positionalText d else exponentText d
  String.ofList (sign ++ body)

end Layout

end KvTables.Decimal
