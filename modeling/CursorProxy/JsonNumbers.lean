import CursorProxy.JsonValues

namespace CursorProxy.JsonNumbers
open CursorProxy.JsonValues

theorem digitsToNat_toDigits (n:ℕ) : digitsToNat (Nat.toDigits 10 n)=some n:=by
 have hfull:(Nat.toDigits 10 n).isEmpty=false:=by
  rw [List.isEmpty_eq_false_iff]
  exact Nat.toDigits_ne_nil
 have hdigits:(Nat.toDigits 10 n).all Char.isDigit=true :=
  List.all_eq_true.mpr fun _ hmem=>Nat.isDigit_of_mem_toDigits (by decide) (by decide) hmem
 unfold digitsToNat
 rw [hfull,hdigits]
 exact congrArg some Nat.ofDigitChars_ten_toDigits

theorem toList_natRepr (n:ℕ) : ((n:ℤ).repr).toList=Nat.toDigits 10 n := Nat.toList_repr

theorem toList_negRepr (n:ℕ) : (Int.repr (.negSucc n)).toList = '-' :: Nat.toDigits 10 (n+1):=by
 change ("-" ++ (n+1).repr).toList=_
 rw [String.toList_append,Nat.toList_repr]
 rfl

theorem toDigits_unsigned {n:ℕ} {digits:List Char} : Nat.toDigits 10 n ≠ '-' :: digits:=by
 intro hdigits
 have hminus : '-' ∈ Nat.toDigits 10 n:=hdigits ▸ List.mem_cons_self
 exact absurd (Nat.isDigit_of_mem_toDigits (by decide) (by decide) hminus) (by decide)

theorem asU64_natRepr {n:ℕ} (h:n<2 ^ 64) : JsonValue.asU64 (.number (n:ℤ).repr)=some n:=by
 unfold JsonValue.asU64
 dsimp only
 rw [toList_natRepr,digitsToNat_toDigits,Option.filter_some,if_pos (decide_eq_true h)]

theorem asU64_negRepr (n:ℕ) : JsonValue.asU64 (.number (Int.negSucc n).repr)=none:=by
 unfold JsonValue.asU64
 dsimp only
 rw [toList_negRepr]
 rfl

theorem asI64_natRepr {n:ℕ} (h:n<2 ^ 63) : JsonValue.asI64 (.number (n:ℤ).repr)=some (n:ℤ):=by
 unfold JsonValue.asI64
 dsimp only
 rw [toList_natRepr]
 split
 · rename_i digits hdigits
   exact absurd hdigits toDigits_unsigned
 · rw [digitsToNat_toDigits,Option.filter_some,if_pos (decide_eq_true h)]
   rfl

theorem asI64_negRepr {n:ℕ} (h:n+1 ≤ 2 ^ 63) : JsonValue.asI64 (.number (Int.negSucc n).repr)=some (Int.negSucc n):=by
 have hsize:n+1≠0 ∧ n+1 ≤ 2 ^ 63:=⟨Nat.succ_ne_zero n,h⟩
 unfold JsonValue.asI64
 dsimp only
 rw [toList_negRepr]
 simp only [digitsToNat_toDigits,Option.filter_some,if_pos (decide_eq_true hsize)]
 rfl

end CursorProxy.JsonNumbers
