/-! # Capacities: how many identifiers there are

    A bounded capacity is a count that stops growing at `Capacity.largest`;
    an unbounded one never runs out. -/

namespace OpaqueId

/-- The number of identifiers of a scheme. -/
inductive Capacity where
  | bounded (count : Nat)
  | unbounded
deriving DecidableEq

namespace Capacity

/-- The largest count that is written out, which has 128 bits. -/
def largest : Nat := 340282366920938463463374607431768211455

/-- The capacity of positions with the given bases.  The product stays at
    the largest count once it gets there. -/
def ofBases (bases : List Nat) : Capacity :=
  .bounded (bases.foldl (fun count base => min (count * base) largest) 1)

/-- Whether a sequence value has an identifier. -/
def contains : Capacity → (value : Nat) → Bool
  | .bounded count, value => value < count
  | .unbounded, _ => true

/-- The count, if there is one. -/
def count? : Capacity → Option Nat
  | .bounded count => some count
  | .unbounded => none

def text : Capacity → String
  | .bounded count => toString count
  | .unbounded => "unbounded"

end Capacity

end OpaqueId
