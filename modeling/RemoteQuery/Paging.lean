set_option autoImplicit false

/-! Pages of a ranking.  A window asks for a page of `limit` rows; the offset names the
page that it falls into.  Row numbers have 64 bits, and a page that would end beyond them
is an overflow. -/

namespace RemoteQuery

/-- Arithmetic on row numbers that leaves 64 bits. -/
inductive Overflow where
  | add
  | multiply
  deriving Repr, DecidableEq, Inhabited

def Overflow.message : Overflow → String
  | .add => "attempt to add with overflow"
  | .multiply => "attempt to multiply with overflow"

structure Window where
  limit : Option UInt64
  offset : UInt64
  deriving Repr, DecidableEq, Inhabited

namespace Window

def checkedAdd (left right : UInt64) : Except Overflow UInt64 :=
  if left.toNat + right.toNat < UInt64.size then .ok (left + right) else .error .add

def checkedMultiply (left right : UInt64) : Except Overflow UInt64 :=
  if left.toNat * right.toNat < UInt64.size then .ok (left * right) else .error .multiply

def pageOf (limit offset : UInt64) : Except Overflow (UInt64 × UInt64) := do
  let page ← checkedAdd (offset / limit) 1
  let first ← checkedAdd (← checkedMultiply limit (page - 1)) 1
  let last ← checkedMultiply limit page
  return (first, last)

/-- The row numbers of the page; nothing without a limit and for the limit zero. -/
def rowRange (window : Window) : Except Overflow (Option (UInt64 × UInt64)) :=
  match window.limit with
  | none => .ok none
  | some limit => if limit = 0 then .ok none else (pageOf limit window.offset).map some

end Window

end RemoteQuery
