import Mathlib

/-! Finite traces of a labelled transition relation, and the rules by which a
fact about one step becomes a fact about every run. -/
namespace CursorProxy.Traces

variable {σ α γ:Type*} {Tr:σ → α → σ → Prop}

inductive Trace (Tr:σ → α → σ → Prop) : σ → List α → σ → Prop where
 | nil (s:σ) : Trace Tr s [] s
 | cons {s u t:σ} {a:α} {as:List α} (head:Tr s a u) (tail:Trace Tr u as t) :
  Trace Tr s (a::as) t

theorem Trace.single {s t:σ} {a:α} (h:Tr s a t) : Trace Tr s [a] t :=
 .cons h (.nil t)

theorem Trace.mono {Tr':σ → α → σ → Prop} {s t:σ} {as:List α} (h:Trace Tr s as t)
 (hle:∀ s a t,Tr s a t → Tr' s a t) : Trace Tr' s as t:=by
 induction h with
 | nil s=>exact .nil s
 | cons head _ ih=>exact .cons (hle _ _ _ head) ih

theorem Trace.append {s u t:σ} {as bs:List α} (h:Trace Tr s as u) (h':Trace Tr u bs t) : Trace Tr s (as++bs) t:=by
 induction h with
 | nil _=>exact h'
 | cons head _ ih=>exact .cons head (ih h')

theorem Trace.split {s t:σ} {as bs:List α} (h:Trace Tr s (as++bs) t) : ∃ u,Trace Tr s as u ∧ Trace Tr u bs t:=by
 induction as generalizing s with
 | nil=>exact ⟨s,.nil s,h⟩
 | cons a as ih=>
  cases h with
  | cons head tail=>
   obtain ⟨u,first,second⟩:=ih tail
   exact ⟨u,.cons head first,second⟩

theorem Trace.unique {s t u:σ} {as:List α} (hdet:∀ s a t u,Tr s a t → Tr s a u → t=u)
 (h:Trace Tr s as t) (h':Trace Tr s as u) : t=u:=by
 induction h with
 | nil _=>
  cases h'
  rfl
 | cons head _ ih=>
  cases h' with
  | cons head' tail'=>
   obtain rfl:=hdet _ _ _ _ head head'
   exact ih tail'

theorem Trace.invariant {s t:σ} {as:List α} (Inv:σ → Prop) (h:Trace Tr s as t)
 (hstep:∀ s a u,a∈as → Inv s → Tr s a u → Inv u) (hs:Inv s) : Inv t:=by
 induction h with
 | nil _=>exact hs
 | cons head _ ih=>
  exact ih (fun s a u ha=>hstep s a u (List.mem_cons_of_mem _ ha))
   (hstep _ _ _ List.mem_cons_self hs head)

/-- A run stays out of the bad states exactly if none of its steps breaks, where
from a good state the steps that break are those that lead into a bad one. -/
theorem Trace.avoids_iff {s t:σ} {as:List α} (Inv Bad:σ → Prop) (Breaks:σ → α → Prop)
 (hdet:∀ s a t u,Tr s a t → Tr s a u → t=u) (h:Trace Tr s as t) (hinv:∀ s a u,Inv s → Tr s a u → Inv u)
 (hbad:∀ s a u,Inv s → ¬Bad s → Tr s a u → (Bad u ↔ Breaks s a)) (hs:Inv s) (hgood:¬Bad s) :
 (∀ before after mid,as=before++after → Trace Tr s before mid → ¬Bad mid) ↔
  ∀ before a after mid,as=before++a::after → Trace Tr s before mid → ¬Breaks mid a:=by
 constructor
 · intro havoids before a after mid hsplit hrun hbreaks
   subst hsplit
   obtain ⟨mid',hrun',hrest⟩:=h.split
   obtain rfl:=hrun.unique hdet hrun'
   cases hrest with
   | @cons _ u _ _ _ head _=>
    have hmid:Inv mid:=hrun.invariant Inv (fun s a u _=>hinv s a u) hs
    have hbefore:¬Bad mid:=havoids before (a::after) mid rfl hrun
    refine havoids (before++[a]) after u ?_ (hrun.append (.single head)) ?_
    · rw [List.append_assoc,List.singleton_append]
    · exact (hbad mid a u hmid hbefore head).mpr hbreaks
 · intro hkeeps before
   induction before using List.reverseRecOn with
   | nil=>
    intro after mid _ hrun
    cases hrun
    exact hgood
   | append_singleton before a ih=>
    intro after mid hsplit hrun hmid
    obtain ⟨prior,hprior,hlast⟩:=hrun.split
    rw [List.append_assoc,List.singleton_append] at hsplit
    cases hlast with
    | cons head tail=>
     cases tail
     have hinvPrior:Inv prior:=hprior.invariant Inv (fun s a u _=>hinv s a u) hs
     have hgoodPrior:¬Bad prior:=ih (a::after) prior hsplit hprior
     exact hkeeps before a after prior hsplit hprior ((hbad prior a mid hinvPrior hgoodPrior head).mp hmid)

/-- A ghost value follows the labels. As long as no step breaks off, the
invariant holds at the ghost value reached; otherwise the first step that
breaks off is exhibited with the run in front of it. -/
theorem Trace.until {s t:σ} {as:List α} (Inv:γ → σ → Prop) (ghost:γ → α → γ)
 (Breaks:γ → σ → α → Prop) (h:Trace Tr s as t)
 (hstep:∀ x s a u,a∈as → Inv x s → Tr s a u → Breaks x s a ∨ Inv (ghost x a) u) (x:γ) (hs:Inv x s) :
 Inv (as.foldl ghost x) t ∨ ∃ before a after mid,as=before++a::after ∧
  Trace Tr s before mid ∧ Inv (before.foldl ghost x) mid ∧ Breaks (before.foldl ghost x) mid a:=by
 induction h generalizing x with
 | nil _=>exact .inl hs
 | @cons s u t a as head _ ih=>
  rcases hstep x s a u List.mem_cons_self hs head with hbreak | hnext
  · exact .inr ⟨[],a,as,s,rfl,.nil s,hs,hbreak⟩
  · rcases ih (fun x s a u ha=>hstep x s a u (List.mem_cons_of_mem _ ha)) (ghost x a) hnext with
     hinv | ⟨before,b,after,mid,rfl,run,hmid,hbreak⟩
    · exact .inl hinv
    · exact .inr ⟨a::before,b,after,mid,rfl,.cons head run,hmid,hbreak⟩

/-- Each entry of a log is allowed by what stands in front of it. -/
def Ordered (allowed:List α → α → Prop) (log:List α) : Prop :=
 ∀ before a after,log=before++a::after → allowed before a

theorem Ordered.nil {allowed:List α → α → Prop} : Ordered allowed []:=by
 intro before a after h
 simp at h

theorem Ordered.push {allowed:List α → α → Prop} {log:List α} {a:α}
 (h:Ordered allowed log) (ha:allowed log a) : Ordered allowed (log++[a]):=by
 intro before last after hlog
 cases after using List.reverseRecOn with
 | nil=>
  obtain ⟨rfl,hlast⟩:=List.append_inj' hlog rfl
  obtain rfl:=(List.cons.inj hlast).1
  exact ha
 | append_singleton after final=>
  rw [← List.cons_append,← List.append_assoc] at hlog
  exact h before last after (List.append_inj' hlog rfl).1

/-- The steps one after the other, as long as each is possible. -/
def perform (step:σ → α → Option σ) (s:σ) (as:List α) : Option σ := as.foldlM step s

theorem perform_trace {step:σ → α → Option σ} {s t:σ} {as:List α}
 (h:perform step s as=some t) : Trace (fun s a t=>step s a=some t) s as t:=by
 induction as generalizing s with
 | nil=>
  obtain rfl:=Option.some.inj h
  exact .nil s
 | cons a as ih=>
  obtain ⟨u,head,rest⟩:=Option.bind_eq_some_iff.mp h
  exact .cons head (ih rest)

end CursorProxy.Traces
