import CursorProxy.DelimitedWords

/-! Words written behind their weight: the digits of the weight, a separator, the word. Whatever
follows such a frame, its word is read back. -/
namespace CursorProxy.LengthFrames
open DelimitedWords

variable {χ:Type*} (weight:χ → ℕ)

def size (word:List χ) : ℕ := (word.map weight).sum

@[simp] theorem size_nil : size weight []=0 := rfl

@[simp] theorem size_cons (symbol:χ) (word:List χ) : size weight (symbol::word)=weight symbol+size weight word:=by
 unfold size
 rw [List.map_cons,List.sum_cons]

/-- The first symbols of weight `n`, where the text can be cut there. -/
def take : ℕ → List χ → Option (List χ)
 | 0,_=>some []
 | _+1,[]=>none
 | n+1,symbol::rest=>
  if weight symbol ≤ n+1 then (take (n+1-weight symbol) rest).map (symbol :: ·) else none

variable {weight}

theorem take_append (hweight:∀ symbol,0<weight symbol) (word rest:List χ) :
 take weight (size weight word) (word++rest)=some word:=by
 induction word with
 | nil=>rw [size_nil,take]
 | cons symbol word ih=>
  have hpositive:=hweight symbol
  obtain ⟨n,hn⟩ : ∃ n,weight symbol+size weight word=n+1 :=
   ⟨weight symbol+size weight word-1,by omega⟩
  have htail:n+1-weight symbol=size weight word:=by omega
  rw [size_cons,hn,List.cons_append,take,if_pos (by omega),htail,ih]
  rfl

theorem append_inj_of_size (hweight:∀ symbol,0<weight symbol) {word other u v:List χ}
 (hsize:size weight word=size weight other) (heq:word++u=other++v) : word=other ∧ u=v:=by
 have hword:=take_append hweight word u
 rw [heq,hsize,take_append hweight other v] at hword
 have hsame:=Option.some.inj hword
 subst hsame
 exact ⟨rfl,List.append_cancel_left heq⟩

section Frames

variable (weight) (digits:ℕ → List χ) (separator:χ)

def frame (word:List χ) : List χ := digits (size weight word)++separator::word

variable {weight digits separator}

theorem frame_append (word rest:List χ) :
 frame weight digits separator word++rest = digits (size weight word)++separator::(word++rest):=by
 unfold frame
 rw [List.append_assoc,List.cons_append]

theorem frame_append_inj (hweight:∀ symbol,0<weight symbol)
 (hdigits:Function.Injective digits) (hseparator:∀ n,separator ∉ digits n) {word other u v:List χ}
 (heq:frame weight digits separator word++u=frame weight digits separator other++v) : word=other ∧ u=v:=by
 have hclosed:∀ rest:List χ,Closed (·=separator) (separator::rest) :=
  fun rest=>closed_cons rfl
 have halphabet:∀ n,∀ symbol∈digits n,symbol≠separator :=
  fun n symbol hmem hsame=>hseparator n (hsame ▸ hmem)
 rw [frame_append,frame_append] at heq
 have hinner:∀ symbol,symbol≠separator → ¬symbol=separator:=fun _ h=>h
 have hparts:=alphabet_reads hinner _ _ _ _ (halphabet _) (halphabet _) (hclosed _) (hclosed _) heq
 exact append_inj_of_size hweight (hdigits hparts.1) (List.cons.inj hparts.2).2

theorem frame_inj (hweight:∀ symbol,0<weight symbol) (hdigits:Function.Injective digits)
 (hseparator:∀ n,separator ∉ digits n) {word other:List χ}
 (heq:frame weight digits separator word=frame weight digits separator other) : word=other:=by
 have happend:frame weight digits separator word++[] = frame weight digits separator other++[]:=by
  rw [List.append_nil,List.append_nil,heq]
 exact (frame_append_inj hweight hdigits hseparator happend).1

end Frames

end CursorProxy.LengthFrames
