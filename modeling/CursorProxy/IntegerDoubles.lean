import Mathlib

/-! Floating-point numbers of double precision, and the integers that they hold exactly. -/
namespace CursorProxy.IntegerDoubles

structure F64 where
 negative : Bool
 exponent : Fin 2048
 mantissa : Fin (2 ^ 52)
deriving DecidableEq

namespace F64

def isFinite (x:F64) : Bool := x.exponent.val≠2047

def bits (x:F64) : ℕ :=
 (if x.negative then 2 ^ 63 else 0)+x.exponent.val*2 ^ 52+x.mantissa.val

/-- The significand of a finite number, and the power of two it is scaled by, with an offset of
1075. -/
def significand (x:F64) : ℕ×ℕ :=
 if x.exponent.val=0 then (x.mantissa.val,1) else (2 ^ 52+x.mantissa.val,x.exponent.val)

def wholeSize (x:F64) : Option ℕ :=
 let (size,scale):=x.significand
 if 1075 ≤ scale then some (size*2 ^ (scale-1075))
 else if size % 2 ^ (1075-scale)=0 then some (size / 2 ^ (1075-scale))
 else none

/-- The value of a finite number without a fraction. -/
def whole (x:F64) : Option ℤ :=
 if x.isFinite then x.wholeSize.map fun (size:ℕ)=>if x.negative then -(size:ℤ) else size
 else none

def zero : F64 := ⟨false,0,0⟩

/-- The number nearest to an integer, where that is exact. -/
def ofSize (negative:Bool) (size:ℕ) : F64 :=
 let power:=Nat.log 2 size
 if size=0 then zero
 else if power ≤ 52 then
  ⟨negative,Fin.ofNat 2048 (1023+power),Fin.ofNat (2 ^ 52) (size*2 ^ (52-power)-2 ^ 52)⟩
 else
  ⟨negative,Fin.ofNat 2048 (1023+power),Fin.ofNat (2 ^ 52) (size / 2 ^ (power-52)-2 ^ 52)⟩

def ofInt (n:ℤ) : F64 := ofSize (decide (n<0)) n.natAbs

theorem scaled_bounds {size power:ℕ} (hlow:2 ^ power ≤ size) (hhigh:size<2 ^ (power+1))
 (hpower:power ≤ 52) : 2 ^ 52 ≤ size*2 ^ (52-power) ∧ size*2 ^ (52-power)<2 ^ 53:=by
 have hsplit:2 ^ power*2 ^ (52-power)=2 ^ 52:=by
  rw [← Nat.pow_add,Nat.add_sub_cancel' hpower]
 have hsplit':2 ^ (power+1)*2 ^ (52-power)=2 ^ 53:=by
  rw [Nat.pow_succ,Nat.mul_right_comm,hsplit,← Nat.pow_succ]
 constructor
 · rw [← hsplit]
   exact Nat.mul_le_mul_right _ hlow
 · rw [← hsplit']
   exact Nat.mul_lt_mul_of_pos_right hhigh (by positivity)

theorem ofSize_whole (negative:Bool) {size:ℕ} (h:size ≤ 2 ^ 53) (hne:size≠0) :
 (ofSize negative size).isFinite=true ∧ (ofSize negative size).wholeSize=some size ∧
  (ofSize negative size).negative=negative:=by
 have hlow:2 ^ Nat.log 2 size ≤ size:=Nat.pow_log_le_self 2 hne
 have hhigh:size<2 ^ (Nat.log 2 size+1):=Nat.lt_pow_succ_log_self (by decide) size
 generalize hpower : Nat.log 2 size=power at hlow hhigh
 unfold ofSize
 rw [if_neg hne,hpower]
 by_cases hsmall:power ≤ 52
 · obtain ⟨hmin,hmax⟩:=scaled_bounds hlow hhigh hsmall
   have hexponent:(1023+power) % 2048=1023+power:=Nat.mod_eq_of_lt (by omega)
   have hmantissa:(size*2 ^ (52-power)-2 ^ 52) % 2 ^ 52 = size*2 ^ (52-power)-2 ^ 52 := Nat.mod_eq_of_lt (by omega)
   have hsignificand:2 ^ 52+(size*2 ^ (52-power)-2 ^ 52)=size*2 ^ (52-power) :=
    Nat.add_sub_cancel' hmin
   rw [if_pos hsmall]
   refine ⟨?_,?_,rfl⟩
   · unfold isFinite
     simp only [Fin.ofNat,hexponent]
     exact decide_eq_true (by omega)
   · unfold wholeSize significand
     simp only [Fin.ofNat,hexponent,hmantissa,hsignificand]
     have hnormal:¬1023+power=0:=by omega
     rw [if_neg hnormal]
     dsimp only
     have hscale:1075-(1023+power)=52-power:=by omega
     by_cases htop:power=52
     · subst htop
       simp
     · rw [if_neg (by omega),hscale,if_pos (Nat.mul_mod_left _ _),
        Nat.mul_div_cancel _ (by positivity)]
 · have hsize:size=2 ^ 53:=by
    have hpow:2 ^ 53 ≤ 2 ^ power:=Nat.pow_le_pow_right (by decide) (by omega)
    omega
   have hpower:power=53:=by
    have hle:power ≤ 53:=(Nat.pow_le_pow_iff_right (by decide)).mp (hsize ▸ hlow)
    omega
   rw [if_neg hsmall,hsize,hpower]
   cases negative
   · exact ⟨by decide,by decide,rfl⟩
   · exact ⟨by decide,by decide,rfl⟩

theorem ofInt_whole {n:ℤ} (h:n.natAbs ≤ 2 ^ 53) : (ofInt n).whole=some n:=by
 unfold ofInt
 by_cases hzero:n=0
 · subst hzero
   change (zero.wholeSize.map fun (size:ℕ)=>(size:ℤ))=some 0
   have hsize:zero.wholeSize=some 0:=by
    have hsignificand:zero.significand=(0,1):=rfl
    unfold wholeSize
    rw [hsignificand]
    dsimp only
    rw [if_neg (by decide),Nat.zero_mod,if_pos rfl,Nat.zero_div]
   rw [hsize]
   rfl
 · obtain ⟨hfinite,hsize,hnegative⟩ :=
    ofSize_whole (decide (n<0)) h (Int.natAbs_ne_zero.mpr hzero)
   unfold whole
   rw [hfinite,hsize,hnegative,if_pos rfl,Option.map_some]
   by_cases hneg:n<0
   · simp only [hneg,decide_true,if_true]
     exact congrArg some (by omega)
   · simp only [hneg,decide_false,Bool.false_eq_true,if_false]
     exact congrArg some (by omega)

example : (ofInt (-3)).bits=0xc008000000000000 := by decide

end F64

end CursorProxy.IntegerDoubles
