/-!
# Access flags

The flags of a field in a class file. A field keeps one value for the whole run of a program if it is
static, final and not volatile.
-/

namespace ConstProp

/-- An access flag of a field. -/
inductive AccessFlag where
  | accPublic | accPrivate | accProtected | accStatic | accFinal | accVolatile | accTransient
  | accSynthetic | accEnum
  deriving DecidableEq, Repr

namespace AccessFlag

/-- Every flag once, in ascending order of the bits. -/
def all : List AccessFlag :=
  [.accPublic, .accPrivate, .accProtected, .accStatic, .accFinal, .accVolatile, .accTransient,
   .accSynthetic, .accEnum]

/-- The bit of a flag. -/
def mask : AccessFlag → UInt16
  | .accPublic => 0x0001
  | .accPrivate => 0x0002
  | .accProtected => 0x0004
  | .accStatic => 0x0008
  | .accFinal => 0x0010
  | .accVolatile => 0x0040
  | .accTransient => 0x0080
  | .accSynthetic => 0x1000
  | .accEnum => 0x4000

/-- The name of a flag. -/
def display : AccessFlag → String
  | .accPublic => "PUBLIC"
  | .accPrivate => "PRIVATE"
  | .accProtected => "PROTECTED"
  | .accStatic => "STATIC"
  | .accFinal => "FINAL"
  | .accVolatile => "VOLATILE"
  | .accTransient => "TRANSIENT"
  | .accSynthetic => "SYNTHETIC"
  | .accEnum => "ENUM"

instance : ToString AccessFlag := ⟨display⟩

end AccessFlag

/-- The access flags of a field, as bits. -/
structure Access where
  bits : UInt16
  deriving DecidableEq, Repr, Inhabited

namespace Access

/-- The bits of all flags together. -/
def knownBits : UInt16 :=
  AccessFlag.all.foldl (fun bits flag => bits ||| flag.mask) 0

/-- Whether only bits of flags are set. -/
def isExact (access : Access) : Bool :=
  access.bits &&& knownBits == access.bits

/-- The flags alone, without any other bits. -/
def truncate (access : Access) : Access :=
  ⟨access.bits &&& knownBits⟩

/-- Whether a flag is set. -/
def has (access : Access) (flag : AccessFlag) : Bool :=
  access.bits &&& flag.mask == flag.mask

/-- The flags that are set, in ascending order. -/
def flags (access : Access) : List AccessFlag :=
  AccessFlag.all.filter access.has

/-- Whether a field with these flags keeps one value once its class is initialized. -/
def isConstant (access : Access) : Bool :=
  access.has .accStatic && access.has .accFinal && !access.has .accVolatile

end Access

end ConstProp
