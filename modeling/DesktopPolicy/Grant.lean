-- Grants: named capabilities of the API, one bit each, and sets of them packed into one number.
-- Bits that no grant has are kept. A negative number stands for all bits from its top bit up, and
-- is cut down to the bits below a power of two that holds both it and every named bit.
namespace DesktopPolicy

inductive Grant where
  | readUsers
  | writeUsers
  | readRoles
  | writeRoles
  | readTemplates
  | writeTemplates
  | launchTemplates
  | readDesktopSessions
  deriving DecidableEq, Repr

namespace Grant

/-- The grants by their bits, from the lowest up. -/
def declared : List Grant := [
  readUsers, writeUsers, readRoles, writeRoles,
  readTemplates, writeTemplates, launchTemplates, readDesktopSessions]

def bit : Grant → Nat
  | readUsers => 0
  | writeUsers => 1
  | readRoles => 2
  | writeRoles => 3
  | readTemplates => 4
  | writeTemplates => 5
  | launchTemplates => 6
  | readDesktopSessions => 7

def name : Grant → String
  | readUsers => "ReadUsers"
  | writeUsers => "WriteUsers"
  | readRoles => "ReadRoles"
  | writeRoles => "WriteRoles"
  | readTemplates => "ReadTemplates"
  | writeTemplates => "WriteTemplates"
  | launchTemplates => "LaunchTemplates"
  | readDesktopSessions => "ReadDesktopSessions"

/-- The name of the grant in code. -/
def memberName : Grant → String
  | readUsers => "READ_USERS"
  | writeUsers => "WRITE_USERS"
  | readRoles => "READ_ROLES"
  | writeRoles => "WRITE_ROLES"
  | readTemplates => "READ_TEMPLATES"
  | writeTemplates => "WRITE_TEMPLATES"
  | launchTemplates => "LAUNCH_TEMPLATES"
  | readDesktopSessions => "READ_DESKTOP_SESSIONS"

def ofName? (name : String) : Option Grant := declared.find? fun grant => grant.name == name

/-- The name that stands for all grants together. -/
def allName : String := "All"

def width : Nat := declared.length

end Grant

/-- A set of grants. The set bits of the mask are its members. -/
structure Grants where
  mask : Nat
  deriving DecidableEq, Repr

namespace Grants

/-! ## Whole numbers as rows of bits -/

/-- A bit of a number. The bits of a negative number are set without end above its size. -/
def bitOf (n : Int) (i : Nat) : Bool :=
  match n with
  | .ofNat m => m.testBit i
  | .negSucc m => !m.testBit i

/-- The bits of the mask that are also bits of the number. -/
def meet (mask : Nat) : Int → Nat
  | .ofNat n => mask &&& n
  | .negSucc n => mask ^^^ (mask &&& n)

/-- The bits of the mask and the bits of the number together. -/
def join (mask : Nat) : Int → Int
  | .ofNat n => .ofNat (mask ||| n)
  | .negSucc n => .negSucc (n ^^^ (n &&& mask))

/-- How many bits a number needs. -/
def bitLength (n : Nat) : Nat := if n == 0 then 0 else n.log2 + 1

/-! ## Sets -/

def empty : Grants := ⟨0⟩

def all : Grants := ⟨(1 <<< Grant.width) - 1⟩

/-- The set with these bits. A negative number is cut down to a row of bits that holds its top bit
and every named bit. -/
def ofInt (n : Int) : Grants :=
  match n with
  | .ofNat m => ⟨m⟩
  | .negSucc m =>
    let size := m + 1
    if size ≤ 1 <<< Grant.width then ⟨(1 <<< Grant.width) - size⟩
    else ⟨max (1 <<< Grant.width) (1 <<< bitLength size) - size⟩

def single (grant : Grant) : Grants := ⟨1 <<< grant.bit⟩

def contains (grants : Grants) (grant : Grant) : Bool := grants.mask.testBit grant.bit

/-- Some bit of the number is in the set. -/
def has (grants : Grants) (bits : Int) : Bool := meet grants.mask bits != 0

/-- Every bit of the number is in the set. -/
def hasAll (grants : Grants) (bits : Int) : Bool := (meet grants.mask bits : Int) == bits

def members (grants : Grants) : List Grant := Grant.declared.filter grants.contains

/-- The names of the grants of the set, by their bits. -/
def names (grants : Grants) : List String := grants.members.map Grant.name

/-- The set with the bits of a number added. -/
def add (grants : Grants) (bits : Int) : Grants := ofInt (join grants.mask bits)

def union (a b : Grants) : Grants := ⟨a.mask ||| b.mask⟩

def ofName? (name : String) : Option Grants :=
  if name == Grant.allName then some all else (Grant.ofName? name).map single

/-- `aggregate_grants`: all the masks together. -/
def combine (masks : List Int) : Grants := masks.foldl add empty

def unions (sets : List Grants) : Grants := sets.foldl union empty

end Grants

end DesktopPolicy
