import Mathlib

/-! The addresses of `std::net`, their classes and their texts. A reader returns what it has read
and the rest of the text; where it fails nothing is taken. -/
namespace CursorProxy.IpAddresses

structure Ipv4Addr where
 a : UInt8
 b : UInt8
 c : UInt8
 d : UInt8
 deriving DecidableEq

structure Ipv6Addr where
 s0 : UInt16
 s1 : UInt16
 s2 : UInt16
 s3 : UInt16
 s4 : UInt16
 s5 : UInt16
 s6 : UInt16
 s7 : UInt16
 deriving DecidableEq

inductive IpAddr where
 | v4 (addr:Ipv4Addr)
 | v6 (addr:Ipv6Addr)
 deriving DecidableEq

namespace Ipv4Addr

def isLoopback (addr:Ipv4Addr) : Bool := addr.a==127

def isUnspecified (addr:Ipv4Addr) : Bool := addr==⟨0,0,0,0⟩

def isBroadcast (addr:Ipv4Addr) : Bool := addr==⟨255,255,255,255⟩

def isLinkLocal (addr:Ipv4Addr) : Bool := addr.a==169&&addr.b==254

def isPrivate (addr:Ipv4Addr) : Bool :=
 addr.a==10||(addr.a==172&&decide (16 ≤ addr.b)&&decide (addr.b ≤ 31)) ||
  (addr.a==192&&addr.b==168)

def high (addr:Ipv4Addr) : UInt16 := UInt16.ofNat (addr.a.toNat*256+addr.b.toNat)

def low (addr:Ipv4Addr) : UInt16 := UInt16.ofNat (addr.c.toNat*256+addr.d.toNat)

/-- `::ffff:a.b.c.d` -/
def toIpv6Mapped (addr:Ipv4Addr) : Ipv6Addr := ⟨0,0,0,0,0,0xffff,addr.high,addr.low⟩

end Ipv4Addr

namespace Ipv6Addr

def isLoopback (addr:Ipv6Addr) : Bool := addr==⟨0,0,0,0,0,0,0,1⟩

def isUnspecified (addr:Ipv6Addr) : Bool := addr==⟨0,0,0,0,0,0,0,0⟩

def isUnicastLinkLocal (addr:Ipv6Addr) : Bool := addr.s0 &&& 0xffc0==0xfe80

def isUniqueLocal (addr:Ipv6Addr) : Bool := addr.s0 &&& 0xfe00==0xfc00

def toIpv4Mapped (addr:Ipv6Addr) : Option Ipv4Addr :=
 if addr=⟨0,0,0,0,0,0xffff,addr.s6,addr.s7⟩ then
  some ⟨UInt8.ofNat (addr.s6.toNat / 256),UInt8.ofNat (addr.s6.toNat % 256),
   UInt8.ofNat (addr.s7.toNat / 256),UInt8.ofNat (addr.s7.toNat % 256)⟩
 else none

end Ipv6Addr

theorem segment_halves (high low:UInt8) :
 UInt8.ofNat ((UInt16.ofNat (high.toNat*256+low.toNat)).toNat / 256)=high ∧
  UInt8.ofNat ((UInt16.ofNat (high.toNat*256+low.toNat)).toNat % 256)=low:=by
 have hhigh:=high.toNat_lt
 have hlow:=low.toNat_lt
 rw [UInt16.toNat_ofNat',Nat.mod_eq_of_lt (by omega)]
 constructor
 · rw [show (high.toNat*256+low.toNat) / 256=high.toNat by omega]
   exact UInt8.ofNat_toNat
 · rw [show (high.toNat*256+low.toNat) % 256=low.toNat by omega]
   exact UInt8.ofNat_toNat

theorem toIpv4Mapped_toIpv6Mapped (addr:Ipv4Addr) : addr.toIpv6Mapped.toIpv4Mapped=some addr:=by
 obtain ⟨ha,hb⟩:=segment_halves addr.a addr.b
 obtain ⟨hc,hd⟩:=segment_halves addr.c addr.d
 have hmapped:addr.toIpv6Mapped = ⟨0,0,0,0,0,0xffff,addr.toIpv6Mapped.s6,addr.toIpv6Mapped.s7⟩ := rfl
 unfold Ipv6Addr.toIpv4Mapped
 rw [if_pos hmapped]
 change some (Ipv4Addr.mk (UInt8.ofNat (addr.high.toNat / 256))
  (UInt8.ofNat (addr.high.toNat % 256)) (UInt8.ofNat (addr.low.toNat / 256))
  (UInt8.ofNat (addr.low.toNat % 256)))=some addr
 unfold Ipv4Addr.high Ipv4Addr.low
 rw [ha,hb,hc,hd]

def toDigit (radix:ℕ) (char:Char) : Option ℕ :=
 let code:=char.toNat
 let digit :=
  if 48 ≤ code ∧ code ≤ 57 then some (code-48)
  else if 97 ≤ code ∧ code ≤ 122 then some (code-87)
  else if 65 ≤ code ∧ code ≤ 90 then some (code-55)
  else none
 digit.filter (· < radix)

def spanDigits (radix:ℕ) : List Char → List ℕ×List Char
 | []=>([],[])
 | char::chars=>
  match toDigit radix char with
  | none=>([],char::chars)
  | some digit=>
   let (digits,rest):=spanDigits radix chars
   (digit::digits,rest)

/-- `bound` is one more than the largest number of the type. -/
def readNumber (radix maxDigits bound:ℕ) (allowZeroPrefix:Bool) (chars:List Char) : Option (ℕ×List Char) :=
 let (digits,rest):=spanDigits radix chars
 let number:=digits.foldl (fun number digit=>number*radix+digit) 0
 if maxDigits<digits.length ∨ bound ≤ number ∨ digits=[] then none
 else if !allowZeroPrefix&&digits.head?==some 0&&decide (1<digits.length) then none
 else some (number,rest)

/-- The separator stands in front of all but the first. -/
def readSeparator {α:Type*} (separator:Char) (index:ℕ)
 (inner:List Char → Option (α×List Char)) (chars:List Char) : Option (α×List Char) :=
 if index=0 then inner chars
 else
  match chars with
  | []=>none
  | char::rest=>if char=separator then inner rest else none

def readOctet (index:ℕ) (chars:List Char) : Option (ℕ×List Char) :=
 readSeparator '.' index (readNumber 10 3 256 false) chars

def readIpv4 (chars:List Char) : Option (Ipv4Addr×List Char) :=
 (readOctet 0 chars).bind fun (a,chars)=>(readOctet 1 chars).bind fun (b,chars)=>
  (readOctet 2 chars).bind fun (c,chars)=>(readOctet 3 chars).map fun (d,chars)=>
   (⟨UInt8.ofNat a,UInt8.ofNat b,UInt8.ofNat c,UInt8.ofNat d⟩,chars)

/-- Up to `limit` groups, and whether an IPv4 address stood for the last two. -/
def readGroups : ℕ → ℕ → List Char → List UInt16×Bool×List Char
 | 0,_,chars=>([],false,chars)
 | limit+1,index,chars=>
  match if 0<limit then readSeparator ':' index readIpv4 chars else none with
  | some (addr,rest)=>([addr.high,addr.low],true,rest)
  | none=>
   match readSeparator ':' index (readNumber 16 4 65536 true) chars with
   | some (group,rest)=>
    let (groups,embedded,rest):=readGroups limit (index+1) rest
    (UInt16.ofNat group::groups,embedded,rest)
   | none=>([],false,chars)

def ofGroups (groups:List UInt16) : Ipv6Addr :=
 ⟨groups.getD 0 0,groups.getD 1 0,groups.getD 2 0,groups.getD 3 0,groups.getD 4 0,
  groups.getD 5 0,groups.getD 6 0,groups.getD 7 0⟩

/-- Eight groups, or some in front of `::` and some behind it. -/
def readIpv6 (chars:List Char) : Option (Ipv6Addr×List Char) :=
 let (head,embedded,rest):=readGroups 8 0 chars
 if head.length=8 then some (ofGroups head,rest)
 else if embedded then none
 else
  match rest with
  | ':' :: ':' :: rest=>
   let (tail,_,rest):=readGroups (8-(head.length+1)) 0 rest
   some (ofGroups (head++List.replicate (8-head.length-tail.length) 0++tail),rest)
  | _=>none

def parseIpAddr (chars:List Char) : Option IpAddr :=
 let read :=
  match readIpv4 chars with
  | some (addr,rest)=>some (IpAddr.v4 addr,rest)
  | none=>(readIpv6 chars).map fun (addr,rest)=>(IpAddr.v6 addr,rest)
 (read.filter fun (_,rest)=>rest.isEmpty).map Prod.fst

example : parseIpAddr "::ffff:10.0.0.1".toList=some (.v6 (Ipv4Addr.toIpv6Mapped ⟨10,0,0,1⟩)) ∧
 parseIpAddr "010.0.0.1".toList=none := by decide +kernel

end CursorProxy.IpAddresses
