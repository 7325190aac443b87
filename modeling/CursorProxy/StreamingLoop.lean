import Mathlib

/-! A source loop is a body that either goes round again or stops with an exit value; a measure
bounds its rounds. Such a loop is resumable when the input that arrives after it stopped can be
appended to the state it left behind. -/
namespace CursorProxy.StreamingLoop

variable {σ α ε ω:Type*}

/-- One round of a loop: go round again or stop, with what the round emitted. -/
inductive Turn (σ ε ω:Type*) where
 | again (next:σ) (out:List ε)
 | done (last:σ) (out:List ε) (exit:ω)

structure MeasuredLoop (σ ε ω:Type*) where
 body : σ → Turn σ ε ω
 measure : σ → ℕ
 decreases : ∀ s s' out,body s=.again s' out → measure s' < measure s

/-- What a finished loop leaves: its state, everything emitted and the exit. -/
structure Finished (σ ε ω:Type*) where
 state : σ
 out : List ε
 exit : ω

namespace Finished

def emitBefore (out:List ε) (r:Finished σ ε ω) : Finished σ ε ω :=
 { r with out := out++r.out }

@[simp] theorem emitBefore_nil (r:Finished σ ε ω) : r.emitBefore []=r := rfl

@[simp] theorem emitBefore_state (out:List ε) (r:Finished σ ε ω) : (r.emitBefore out).state=r.state := rfl

@[simp] theorem emitBefore_out (out:List ε) (r:Finished σ ε ω) : (r.emitBefore out).out=out++r.out := rfl

@[simp] theorem emitBefore_exit (out:List ε) (r:Finished σ ε ω) : (r.emitBefore out).exit=r.exit := rfl

theorem emitBefore_append (xs ys:List ε) (r:Finished σ ε ω) :
 r.emitBefore (xs++ys)=(r.emitBefore ys).emitBefore xs:=by
 simp [emitBefore,List.append_assoc]

end Finished

/-- Run at most `fuel` rounds; `none` when the loop has not stopped by then. -/
def rounds (body:σ → Turn σ ε ω) : ℕ → σ → Option (Finished σ ε ω)
 | 0,_=>none
 | fuel+1,s=>
  match body s with
  | .done last out exit=>some ⟨last,out,exit⟩
  | .again next out=>(rounds body fuel next).map (Finished.emitBefore out)

theorem rounds_total (L:MeasuredLoop σ ε ω) (fuel:ℕ) (s:σ) (h:L.measure s<fuel) : (rounds L.body fuel s).isSome:=by
 induction fuel generalizing s with
 | zero=>omega
 | succ fuel ih=>
  unfold rounds
  cases hb:L.body s with
  | done last out exit=>rfl
  | again next out=>
   have hd:=L.decreases s next out hb
   simpa using ih next (by omega)

theorem rounds_mono (body:σ → Turn σ ε ω) (fuel more:ℕ) (s:σ) (r:Finished σ ε ω)
 (h:rounds body fuel s=some r) (hle:fuel ≤ more) : rounds body more s=some r:=by
 induction fuel generalizing more s r with
 | zero=>simp [rounds] at h
 | succ fuel ih=>
  obtain ⟨more,rfl⟩ : ∃ m,more=m+1:=⟨more-1,by omega⟩
  unfold rounds at h ⊢
  cases hb:body s with
  | done last out exit=>simpa [hb] using h
  | again next out=>
   simp only [hb,Option.map_eq_some_iff] at h ⊢
   obtain ⟨r',hr',rfl⟩:=h
   exact ⟨r',ih more next r' hr' (by omega),rfl⟩

namespace MeasuredLoop

/-- The measure is enough fuel, so the loop always finishes. -/
def run (L:MeasuredLoop σ ε ω) (s:σ) : Finished σ ε ω :=
 (rounds L.body (L.measure s+1) s).get (rounds_total L _ s (Nat.lt_succ_self _))

theorem rounds_eq_run (L:MeasuredLoop σ ε ω) (fuel:ℕ) (s:σ)
 (h:L.measure s<fuel) : rounds L.body fuel s=some (L.run s) :=
 rounds_mono L.body (L.measure s+1) fuel s _ (Option.some_get _).symm h

theorem run_done (L:MeasuredLoop σ ε ω) {s last:σ} {out:List ε} {exit:ω}
 (h:L.body s=.done last out exit) : L.run s=⟨last,out,exit⟩:=by
 have hr:=L.rounds_eq_run (L.measure s+1) s (Nat.lt_succ_self _)
 simp only [rounds,h,Option.some.injEq] at hr
 exact hr.symm

theorem run_again (L:MeasuredLoop σ ε ω) {s next:σ} {out:List ε}
 (h:L.body s=.again next out) : L.run s=(L.run next).emitBefore out:=by
 have hr:=L.rounds_eq_run (L.measure s+1) s (Nat.lt_succ_self _)
 simp only [rounds,h,L.rounds_eq_run _ next (L.decreases s next out h),Option.map_some,Option.some.injEq] at hr
 exact hr.symm

theorem run_induction (L:MeasuredLoop σ ε ω) {P:σ → Prop} (hdone:∀ s last out exit,L.body s=.done last out exit → P s)
 (hagain:∀ s next out,L.body s=.again next out → P next → P s) (s:σ) : P s:=by
 induction hm : L.measure s using Nat.strongRecOn generalizing s with
 | _ m ih=>
  subst hm
  cases hb:L.body s with
  | done last out exit=>exact hdone s last out exit hb
  | again next out=>exact hagain s next out hb (ih _ (L.decreases s next out hb) next rfl)

theorem run_stopped (L:MeasuredLoop σ ε ω) (s:σ) :
 ∃ prior out,L.body prior=.done (L.run s).state out (L.run s).exit:=by
 refine L.run_induction (P := fun s=>∃ prior out,
  L.body prior=.done (L.run s).state out (L.run s).exit) ?_ ?_ s
 · intro s last out exit hb
   rw [L.run_done hb]
   exact ⟨s,out,hb⟩
 · intro s next out hb ih
   rw [L.run_again hb]
   exact ih

def lastWithin (body:σ → Turn σ ε ω) : ℕ → σ → σ
 | 0,s=>s
 | fuel+1,s=>
  match body s with
  | .done _ _ _=>s
  | .again next _=>lastWithin body fuel next

def last (L:MeasuredLoop σ ε ω) (s:σ) : σ := lastWithin L.body (L.measure s+1) s

theorem lastWithin_eq (L:MeasuredLoop σ ε ω) (fuel more:ℕ) (s:σ) (h:L.measure s<fuel)
 (hmore:L.measure s < more) : lastWithin L.body fuel s=lastWithin L.body more s:=by
 induction fuel generalizing more s with
 | zero=>omega
 | succ fuel ih=>
  obtain ⟨more,rfl⟩ : ∃ m,more=m+1:=⟨more-1,by omega⟩
  unfold lastWithin
  cases hb:L.body s with
  | done last out exit=>rfl
  | again next out=>
   have hd:=L.decreases s next out hb
   exact ih more next (by omega) (by omega)

theorem last_done (L:MeasuredLoop σ ε ω) {s last:σ} {out:List ε} {exit:ω}
 (h:L.body s=.done last out exit) : L.last s=s:=by
 unfold MeasuredLoop.last lastWithin
 rw [h]

theorem last_again (L:MeasuredLoop σ ε ω) {s next:σ} {out:List ε}
 (h:L.body s=.again next out) : L.last s=L.last next:=by
 have hd:=L.decreases s next out h
 conv_lhs=>unfold MeasuredLoop.last lastWithin
 rw [h]
 exact L.lastWithin_eq _ _ next hd (Nat.lt_succ_self _)

end MeasuredLoop

section
variable {δ:Type*} (f:ε → Option δ)

def Turn.project : Turn σ ε ω → Turn σ δ ω
 | .again next out=>.again next (out.filterMap f)
 | .done last out exit=>.done last (out.filterMap f) exit

theorem Turn.project_again {turn:Turn σ ε ω} {next:σ} {kept:List δ}
 (h:turn.project f=.again next kept) : ∃ out,turn=.again next out ∧ kept=out.filterMap f:=by
 cases turn with
 | again next' out=>
  obtain ⟨rfl,rfl⟩:=Turn.again.inj h
  exact ⟨out,rfl,rfl⟩
 | done last out exit=>exact absurd h (by simp [Turn.project])

theorem Turn.project_done {turn:Turn σ ε ω} {last:σ} {kept:List δ} {exit:ω} (h:turn.project f=.done last kept exit) :
 ∃ out,turn=.done last out exit ∧ kept=out.filterMap f:=by
 cases turn with
 | again next out=>exact absurd h (by simp [Turn.project])
 | done last' out exit'=>
  obtain ⟨rfl,rfl,rfl⟩:=Turn.done.inj h
  exact ⟨out,rfl,rfl⟩

namespace MeasuredLoop

def project (L:MeasuredLoop σ ε ω) : MeasuredLoop σ δ ω where
 body s := (L.body s).project f
 measure := L.measure
 decreases s s' _ h:=by
  obtain ⟨out,hbody,_⟩:=Turn.project_again f h
  exact L.decreases s s' out hbody

theorem run_project (L:MeasuredLoop σ ε ω) (s:σ) :
 (L.project f).run s=⟨(L.run s).state,(L.run s).out.filterMap f,(L.run s).exit⟩:=by
 refine L.run_induction (P := fun s=>(L.project f).run s =
  ⟨(L.run s).state,(L.run s).out.filterMap f,(L.run s).exit⟩) ?_ ?_ s
 · intro s last out exit hb
   have hkept:(L.project f).body s=.done last (out.filterMap f) exit :=
    congrArg (Turn.project f) hb
   rw [L.run_done hb,(L.project f).run_done hkept]
 · intro s next out hb ih
   have hkept:(L.project f).body s=.again next (out.filterMap f) :=
    congrArg (Turn.project f) hb
   rw [L.run_again hb,(L.project f).run_again hkept,ih]
   simp [Finished.emitBefore,List.filterMap_append]

end MeasuredLoop
end

/-- A loop whose state takes further input at its end. A round that goes on is
not disturbed by later input, and stopping loses nothing of it. -/
structure Resumable (α:Type*) (L:MeasuredLoop σ ε ω) where
 extend : σ → List α → σ
 extend_nil : ∀ s,extend s []=s
 extend_append : ∀ s xs ys,extend s (xs++ys)=extend (extend s xs) ys
 again_extend : ∀ s s' out xs,L.body s=.again s' out → L.body (extend s xs)=.again (extend s' xs) out
 done_extend : ∀ s s' out exit xs,L.body s=.done s' out exit →
  L.run (extend s xs)=(L.run (extend s' xs)).emitBefore out

namespace Resumable

variable {L:MeasuredLoop σ ε ω}

theorem run_extend (R:Resumable α L) (s:σ) (xs:List α) :
 L.run (R.extend s xs)=(L.run (R.extend (L.run s).state xs)).emitBefore (L.run s).out:=by
 refine L.run_induction (P := fun s=>L.run (R.extend s xs) =
  (L.run (R.extend (L.run s).state xs)).emitBefore (L.run s).out) ?_ ?_ s
 · intro s last out exit hb
   rw [L.run_done hb]
   exact R.done_extend s last out exit xs hb
 · intro s next out hb ih
   rw [L.run_again (R.again_extend s next out xs hb),L.run_again hb,ih,
    Finished.emitBefore_state,Finished.emitBefore_out,Finished.emitBefore_append]

/-- Push one chunk: append it to the state and run the loop. -/
def push (R:Resumable α L) (s:σ) (chunk:List α) : Finished σ ε ω :=
 L.run (R.extend s chunk)

theorem push_push (R:Resumable α L) (s:σ) (xs ys:List α) :
 R.push s (xs++ys)=(R.push (R.push s xs).state ys).emitBefore (R.push s xs).out:=by
 unfold push
 rw [R.extend_append]
 exact R.run_extend (R.extend s xs) ys

/-- Push the chunks in turn, collecting what each push emits. -/
def feed (R:Resumable α L) : σ → List (List α) → σ×List ε
 | s,[]=>(s,[])
 | s,chunk::chunks=>
  let first:=R.push s chunk
  let rest:=feed R first.state chunks
  (rest.1,first.out++rest.2)

theorem feed_eq_push (R:Resumable α L) (s:σ) (chunk:List α) (chunks:List (List α)) :
 R.feed s (chunk::chunks) = ((R.push s (chunk::chunks).flatten).state,(R.push s (chunk::chunks).flatten).out):=by
 induction chunks generalizing s chunk with
 | nil=>simp [feed]
 | cons next chunks ih=>
  have hrest:=ih (R.push s chunk).state next
  rw [List.flatten_cons,push_push]
  change ((R.feed (R.push s chunk).state (next::chunks)).1,
   (R.push s chunk).out++(R.feed (R.push s chunk).state (next::chunks)).2)=_
  rw [hrest]
  rfl

end Resumable
end CursorProxy.StreamingLoop
