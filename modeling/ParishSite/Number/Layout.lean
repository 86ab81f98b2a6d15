import ParishSite.Number.Shortest

/-! How numbers are written out: the fewest digits that read back, laid out by position or with a
power of ten. -/

namespace ParishSite.Number

/-- The decisions of one way of writing numbers: which powers of ten of the leading digit are written
by position, and whether a whole number keeps `.0`. -/
structure Layout where
  positionalFrom : Option Int
  positionalTo : Option Int
  keepsPoint : Bool

namespace Layout

/-- Data formats write by position from `0.00001` to below `1e+16`, and keep `.0`. -/
def data : Layout := ⟨some (-5), some 15, true⟩

/-- Plain text is always by position, without `.0`. -/
def plain : Layout := ⟨none, none, false⟩

private def digitsOf (n : Nat) : List Char := Nat.toDigits 10 n

private def zeros (n : Nat) : List Char := List.replicate n '0'

private def positional (ds : List Char) (exponent : Int) (keepsPoint : Bool) : List Char :=
  if 0 ≤ exponent then
    ds ++ zeros exponent.toNat ++ (if keepsPoint then ['.', '0'] else [])
  else
    let places := (-exponent).toNat
    if places < ds.length then
      ds.take (ds.length - places) ++ '.' :: ds.drop (ds.length - places)
    else '0' :: '.' :: zeros (places - ds.length) ++ ds

private def scientific (ds : List Char) (lead : Int) : List Char :=
  let fraction := match ds with
    | d :: [] => [d]
    | d :: more => d :: '.' :: more
    | [] => []
  fraction ++ 'e' :: (if 0 ≤ lead then '+' else '-') :: digitsOf lead.natAbs

def render (layout : Layout) (x : Binary64) : String :=
  let s := x.shortest
  let ds := digitsOf s.digits
  let lead : Int := s.exponent + ds.length - 1
  let byPosition :=
    (layout.positionalFrom.all fun low => low ≤ lead) &&
      layout.positionalTo.all fun high => lead ≤ high
  let body := if byPosition then positional ds s.exponent layout.keepsPoint else scientific ds lead
  String.ofList (if x.negative then '-' :: body else body)

/-- Digits by position: with zeros behind them, with a point among them, or behind the point. -/
inductive Positional (digits : List Char) : List Char → Prop
  | whole (n : Nat) : Positional digits (digits ++ List.replicate n '0')
  | pointed {whole fraction} (cut : whole ++ fraction = digits) (filled : whole ≠ []) :
      Positional digits (whole ++ '.' :: fraction)
  | small (n : Nat) : Positional digits ('0' :: '.' :: (List.replicate n '0' ++ digits))

private theorem positional_plain (ds : List Char) (exponent : Int) :
    Positional ds (positional ds exponent false) := by
  rw [positional]
  split
  · rw [if_neg (by decide), List.append_nil]
    exact .whole _
  dsimp only
  split
  · next inside =>
    refine .pointed (List.take_append_drop _ _) fun empty => ?_
    rcases List.take_eq_nil_iff.mp empty with none | rfl
    · omega
    · cases inside
  · exact .small _

/-- Plain text of a number has no other characters than its sign, its digits and a point. -/
theorem plain_render (x : Binary64) :
    ∃ body, Positional (Nat.toDigits 10 x.shortest.digits) body ∧
      (plain.render x).toList = if x.negative then '-' :: body else body :=
  ⟨_, positional_plain _ x.shortest.exponent, String.toList_ofList⟩

end Layout
end ParishSite.Number
