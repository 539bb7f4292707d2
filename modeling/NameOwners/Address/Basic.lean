/-!
Addresses of network services: an IP address of either version with the number of a socket, and for
version 6 the number of the interface that the address belongs to, if it is not zero.
-/

namespace NameOwners

structure AddressV4 where
  a : UInt8
  b : UInt8
  c : UInt8
  d : UInt8
deriving DecidableEq, Repr

structure AddressV6 where
  groups : List UInt16
  length_groups : groups.length = 8
deriving DecidableEq

inductive SocketAddress where
  | v4 (address : AddressV4) (socket : UInt16)
  | v6 (address : AddressV6) (scope : UInt32) (socket : UInt16)
deriving DecidableEq

namespace AddressV4

def groups (x : AddressV4) : List UInt16 :=
  [x.a.toUInt16 * 256 + x.b.toUInt16, x.c.toUInt16 * 256 + x.d.toUInt16]

def ofGroups (high low : UInt16) : AddressV4 :=
  ⟨(high / 256).toUInt8, high.toUInt8, (low / 256).toUInt8, low.toUInt8⟩

@[simp] theorem length_groups (x : AddressV4) : x.groups.length = 2 := rfl

end AddressV4

namespace AddressV6

/-- The address with the given groups at its ends and zeros between them. -/
def ofEnds? (front back : List UInt16) : Option AddressV6 :=
  let groups := front ++ List.replicate (8 - front.length - back.length) 0 ++ back
  if h : groups.length = 8 then some ⟨groups, h⟩ else none

/-- The address of version 4 that an address of version 6 stands for: all groups before its own are
zero but the last, which has all bits set. -/
def mapped? (x : AddressV6) : Option AddressV4 :=
  match x.groups with
  | [0, 0, 0, 0, 0, 0xffff, high, low] => some (.ofGroups high low)
  | _ => none

end AddressV6

end NameOwners
