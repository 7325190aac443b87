import Mathlib

/-! A stream opens blocks with the numbers `0, 1, 2, ..`, adds to open blocks and closes each of
them once. Several blocks may be open at a time. -/
namespace CursorProxy.BlockBrackets

variable {κ:Type} [DecidableEq κ]

inductive Bracket (κ:Type) where
 | start (index:ℕ) (kind:κ)
 | delta (index:ℕ) (kind:κ)
 | stop (index:ℕ) (kind:κ)
 deriving DecidableEq

/-- The number of the next block, and the kind of each block that is open. -/
@[ext]
structure Blocks (κ:Type) where
 next : ℕ
 opened : ℕ → Option κ

namespace Blocks

def none : Blocks κ := ⟨0,fun _=>.none⟩

def read (b:Blocks κ) : Bracket κ → Option (Blocks κ)
 | .start index kind=>
  if index=b.next then some ⟨b.next+1,Function.update b.opened index (some kind)⟩
  else .none
 | .delta index kind=>if b.opened index=some kind then some b else .none
 | .stop index kind=>
  if b.opened index=some kind then some ⟨b.next,Function.update b.opened index .none⟩
  else .none

def readAll (b:Blocks κ) (brackets:List (Bracket κ)) : Option (Blocks κ) :=
 brackets.foldlM read b

theorem readAll_append (b:Blocks κ) (first second:List (Bracket κ)) :
 b.readAll (first++second)=(b.readAll first).bind fun b=>b.readAll second :=
 List.foldlM_append

variable {b c:Blocks κ}

theorem readAll_then {d:Blocks κ} {first second:List (Bracket κ)} (h:b.readAll first=some c)
 (h':c.readAll second=some d) : b.readAll (first++second)=some d:=by
 rw [readAll_append,h]
 exact h'

theorem readAll_single {bracket:Bracket κ} (h:b.read bracket=some c) : b.readAll [bracket]=some c:=by
 unfold readAll
 rw [List.foldlM_cons,h]
 rfl

theorem read_start (b:Blocks κ) (kind:κ) : b.read (.start b.next kind) =
 some ⟨b.next+1,Function.update b.opened b.next (some kind)⟩ := if_pos rfl

variable {index:ℕ} {kind:κ}

theorem read_delta (h:b.opened index=some kind) : b.read (.delta index kind)=some b := if_pos h

theorem read_stop (h:b.opened index=some kind) :
 b.read (.stop index kind)=some ⟨b.next,Function.update b.opened index .none⟩ := if_pos h

theorem of_read_start (h:b.read (.start index kind)=some c) :
 index=b.next ∧ c=⟨b.next+1,Function.update b.opened index (some kind)⟩:=by
 unfold read at h
 dsimp only at h
 split_ifs at h with hindex
 exact ⟨hindex,(Option.some.inj h).symm⟩

theorem of_read_delta (h:b.read (.delta index kind)=some c) : b.opened index=some kind ∧ c=b:=by
 unfold read at h
 dsimp only at h
 split_ifs at h with hopen
 exact ⟨hopen,(Option.some.inj h).symm⟩

theorem of_read_stop (h:b.read (.stop index kind)=some c) :
 b.opened index=some kind ∧ c=⟨b.next,Function.update b.opened index .none⟩:=by
 unfold read at h
 dsimp only at h
 split_ifs at h with hopen
 exact ⟨hopen,(Option.some.inj h).symm⟩

theorem readAll_block (b:Blocks κ) (kind:κ) (hfree:b.opened b.next=.none)
 (deltas:List (Bracket κ)) (hdeltas:∀ bracket∈deltas,bracket=.delta b.next kind) :
 b.readAll (.start b.next kind::(deltas++[.stop b.next kind])) = some ⟨b.next+1,b.opened⟩:=by
 have hopen:Function.update b.opened b.next (some kind) b.next=some kind :=
  Function.update_self _ _ _
 have hstop:Blocks.readAll ⟨b.next+1,Function.update b.opened b.next (some kind)⟩
  [.stop b.next kind]=some ⟨b.next+1,b.opened⟩:=by
  refine readAll_single ((read_stop hopen).trans (congrArg some (Blocks.ext rfl ?_)))
  dsimp only
  rw [Function.update_idem,← hfree,Function.update_eq_self]
 have hrest:Blocks.readAll ⟨b.next+1,Function.update b.opened b.next (some kind)⟩
  (deltas++[.stop b.next kind])=some ⟨b.next+1,b.opened⟩:=by
  induction deltas with
  | nil=>exact hstop
  | cons bracket deltas ih=>
   obtain rfl:=hdeltas bracket List.mem_cons_self
   have hread:Blocks.readAll ⟨b.next+1,Function.update b.opened b.next (some kind)⟩
    [.delta b.next kind]=some ⟨b.next+1,Function.update b.opened b.next (some kind)⟩ :=
    readAll_single (read_delta hopen)
   have hall:=readAll_then hread (ih fun other hmem=>hdeltas other (List.mem_cons_of_mem _ hmem))
   exact hall
 have hall:=readAll_then (readAll_single (read_start b kind)) hrest
 exact hall

end Blocks

def Balanced (brackets:List (Bracket κ)) : Prop :=
 ∃ count,Blocks.none.readAll brackets=some ⟨count,fun _=>none⟩

def starts (brackets:List (Bracket κ)) : List ℕ :=
 brackets.filterMap fun bracket=>match bracket with
  | .start index _=>some index
  | _=>none

theorem starts_of_read (brackets:List (Bracket κ)) {b c:Blocks κ} (h:b.readAll brackets=some c) :
 b.next ≤ c.next ∧ starts brackets=List.range' b.next (c.next-b.next):=by
 induction brackets generalizing b with
 | nil=>
  obtain rfl:=Option.some.inj h
  exact ⟨Nat.le_refl _,by rw [Nat.sub_self]; rfl⟩
 | cons bracket brackets ih=>
  unfold Blocks.readAll at h
  rw [List.foldlM_cons] at h
  obtain ⟨d,hread,hrest⟩:=Option.bind_eq_some_iff.mp h
  obtain ⟨hle,hstarts⟩:=ih hrest
  cases bracket with
  | start index kind=>
   obtain ⟨hindex,rfl⟩:=Blocks.of_read_start hread
   dsimp only at hle hstarts
   refine ⟨by omega,?_⟩
   change index::starts brackets=_
   have hcount:c.next-b.next=(c.next-(b.next+1))+1:=by omega
   rw [hstarts,hcount,List.range'_succ,hindex]
  | delta index kind=>
   obtain ⟨-,rfl⟩:=Blocks.of_read_delta hread
   exact ⟨hle,hstarts⟩
  | stop index kind=>
   obtain ⟨-,rfl⟩:=Blocks.of_read_stop hread
   exact ⟨hle,hstarts⟩

theorem Balanced.starts_eq {brackets:List (Bracket κ)} (h:Balanced brackets) :
 ∃ count,starts brackets=List.range count:=by
 obtain ⟨count,hread⟩:=h
 refine ⟨count,?_⟩
 rw [(starts_of_read brackets hread).2,List.range_eq_range']
 rfl

/-- Of the blocks that `solo` tells, the one that is open. -/
def readSolo (solo:κ → Bool) (held:Option ℕ) : Bracket κ → Option (Option ℕ)
 | .start index kind=>
  if solo kind then (if held=none then some (some index) else none) else some held
 | .delta _ _=>some held
 | .stop index kind=>
  if solo kind then (if held=some index then some none else none) else some held

def readSoloAll (solo:κ → Bool) (held:Option ℕ) (brackets:List (Bracket κ)) : Option (Option ℕ) :=
 brackets.foldlM (readSolo solo) held

def Alone (solo:κ → Bool) (brackets:List (Bracket κ)) : Prop :=
 (readSoloAll solo none brackets).isSome=true

omit [DecidableEq κ] in
theorem readSoloAll_then {solo:κ → Bool} {held held' held'':Option ℕ}
 {first second:List (Bracket κ)} (h:readSoloAll solo held first=some held')
 (h':readSoloAll solo held' second=some held'') : readSoloAll solo held (first++second)=some held'':=by
 unfold readSoloAll at h h' ⊢
 rw [List.foldlM_append,h]
 exact h'

end CursorProxy.BlockBrackets
