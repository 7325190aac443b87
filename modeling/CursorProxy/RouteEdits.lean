import CursorProxy.RoutePersistence

/-! An edit removes the literal rules for the spellings of a model, and puts one rule in front. -/
namespace CursorProxy.RouteEdits
open ModelRoutes RouteLookup RoutePersistence

def equivalentModelCandidates (resolve:String → Option String) (model:String) : List String :=
 let candidates:=resolvedModelCandidates resolve model
 candidates.foldl (fun all candidate=>
  let base:=(withoutPreview candidate).getD candidate
  pushUnique (pushUnique all base) (base ++ "-preview")) candidates

def keptRules (resolve:String → Option String) (routes:List CursorModelAccountRule)
  (normalized:String) : List CursorModelAccountRule :=
 let candidates:=equivalentModelCandidates resolve normalized
 routes.filter fun rule=>
  if modelPatternHasWildcards normalized then rule.model≠normalized
  else modelPatternHasWildcards rule.model||rule.model ∉ candidates

def withModelAssignment (resolve:String → Option String) (routes:List CursorModelAccountRule)
  (model:String) (account:Option String) : List CursorModelAccountRule :=
 let normalized:=normalizeSandModel model
 if normalized = "" then routes
 else match (account.map trimmed).filter (· ≠ "") with
  | some account=>newPolicy (⟨normalized,account⟩::keptRules resolve routes normalized)
  | none=>newPolicy (keptRules resolve routes normalized)

theorem bytesOf_injective {text other:List Char} (h:SseEvents.bytesOf text=SseEvents.bytesOf other) : text=other:=by
 have hbytes:List.utf8Encode text=List.utf8Encode other:=by
  unfold List.utf8Encode
  exact congrArg List.toByteArray h
 have hstring:String.ofList text=String.ofList other:=String.toByteArray_inj.mp hbytes
 exact String.ofList_injective hstring

theorem bytesOf_literal {pattern:String} (h:modelPatternHasWildcards pattern=false) :
  ∀ byte∈SseEvents.bytesOf pattern.toList,byte≠42 ∧ byte≠63:=by
 intro byte hmem
 obtain ⟨char,hchar,hbyte⟩:=List.mem_flatMap.mp hmem
 have hplain:=List.any_eq_false.mp h char hchar
 have hnot:∀ (symbol:Char) (code:UInt8),code.toNat<128 → symbol.toNat=code.toNat →
   isWildcard symbol=true → byte≠code:=by
  rintro symbol code hascii hcode hwild rfl
  have hsame:char=symbol :=
   Char.toNat_inj.mp ((SseEvents.ascii_of_mem hascii hbyte).trans hcode.symm)
  exact hplain (hsame ▸ hwild)
 exact ⟨hnot '*' 42 (by decide) rfl rfl,hnot '?' 63 (by decide) rfl rfl⟩

theorem globLoop_cons (symbol byte:UInt8) (pattern text:List UInt8) :
  globLoop (symbol::pattern) (byte::text) none = if symbol=63 ∨ symbol=byte then globLoop pattern text none
   else if symbol=42 then globLoop pattern (byte::text) (some (pattern,byte::text))
   else false:=by
 rw [globLoop]
 intro _ _ _ hsaved
 cases hsaved

theorem globLoop_nil (byte:UInt8) (text:List UInt8) : globLoop [] (byte::text) none=false:=by
 rw [globLoop]
 intro _ _ _ hsaved
 cases hsaved

theorem globLoop_self (pattern:List UInt8) : globLoop pattern pattern none=true:=by
 induction pattern with
 | nil=>
  rw [globLoop]
  rfl
 | cons byte pattern ih=>
  rw [globLoop_cons,if_pos (Or.inr rfl)]
  exact ih

theorem globLoop_literal {pattern:List UInt8} : ∀ {text:List UInt8},
  (∀ byte∈pattern,byte≠42 ∧ byte≠63) → globLoop pattern text none=true → pattern=text:=by
 induction pattern with
 | nil=>
  intro text _ h
  cases text with
  | nil=>rfl
  | cons byte text=>exact (nomatch (globLoop_nil byte text).symm.trans h)
 | cons symbol pattern ih=>
  intro text hliteral h
  obtain ⟨hstar,hany⟩:=hliteral symbol List.mem_cons_self
  cases text with
  | nil=>
   rw [globLoop,List.all_cons] at h
   exact absurd (of_decide_eq_true (Bool.and_eq_true_iff.mp h).1) hstar
  | cons byte text=>
   rw [globLoop_cons] at h
   by_cases hsame:symbol=byte
   · rw [if_pos (Or.inr hsame)] at h
     rw [hsame,ih (fun other hmem=>hliteral other (List.mem_cons_of_mem symbol hmem)) h]
   · rw [if_neg (not_or.mpr ⟨hany,hsame⟩),if_neg hstar] at h
     exact (nomatch h)

theorem sandPatternMatches_self (model:String) : sandPatternMatches model model=true :=
 Bool.or_eq_true_iff.mpr (Or.inl (globLoop_self _))

theorem sandPatternMatches_literal {pattern model:String}
  (hliteral:modelPatternHasWildcards pattern=false) (h:sandPatternMatches pattern model=true) :
  pattern=model ∨ withoutPreview model=some pattern:=by
 have hglob:∀ text,globMatches pattern text=true → pattern=text:=fun text hmatch=>
  String.toList_inj.mp (bytesOf_injective (globLoop_literal (bytesOf_literal hliteral) hmatch))
 rcases Bool.or_eq_true_iff.mp h with h | h
 · exact Or.inl (hglob model h)
 · cases hbase:withoutPreview model with
   | none=>
    rw [hbase] at h
    exact (nomatch h)
   | some base=>
    rw [hbase] at h
    exact Or.inr (congrArg some (hglob base h).symm)

/-- A list of candidates that begins with the model itself. -/
def Begins (first:String) (candidates:List String) : Prop :=
 ∃ more,candidates=first::more

section candidates
variable {first:String} {candidates:List String}

theorem Begins.pushUnique (h:Begins first candidates) (candidate:String) :
  Begins first (pushUnique candidates candidate):=by
 obtain ⟨more,rfl⟩:=h
 unfold RouteLookup.pushUnique
 split_ifs
 · exact ⟨more,rfl⟩
 · exact ⟨more++[candidate],rfl⟩

theorem Begins.resolveSteps (resolve:String → Option String) (steps:ℕ) :
  ∀ {candidates:List String} (candidate:String),Begins first candidates →
   Begins first (resolveSteps resolve steps candidate candidates):=by
 induction steps with
 | zero=>exact fun _ h=>h
 | succ steps ih=>
  intro candidates candidate h
  rw [RouteLookup.resolveSteps]
  cases resolve candidate with
  | none=>exact h
  | some resolved=>
   dsimp only
   split_ifs
   · exact h
   · exact ih resolved (h.pushUnique resolved)

theorem Begins.foldl (pushed:List String) : ∀ {candidates:List String},
  Begins first candidates → Begins first (pushed.foldl RouteLookup.pushUnique candidates):=by
 induction pushed with
 | nil=>exact fun h=>h
 | cons candidate pushed ih=>exact fun h=>ih (h.pushUnique candidate)

theorem resolvedModelCandidates_begins (resolve:String → Option String) {model:String}
  (h:normalizeSandModel model ≠ "") : Begins (normalizeSandModel model) (resolvedModelCandidates resolve model):=by
 unfold resolvedModelCandidates
 dsimp only
 rw [if_neg h]
 refine Begins.foldl _ ?_
 have hsteps:∀ base,Begins (normalizeSandModel model) (RouteLookup.resolveSteps resolve 2 base
   (RouteLookup.pushUnique [normalizeSandModel model] base)) := fun base=>
  Begins.resolveSteps resolve 2 base (Begins.pushUnique ⟨[],rfl⟩ base)
 split_ifs
 · exact ((hsteps _).pushUnique _).pushUnique _
 · exact hsteps _

theorem resolvedModelCandidates_normalized (resolve:String → Option String) {model:String}
  (h:normalizeSandModel (normalizeSandModel model)=normalizeSandModel model) :
  resolvedModelCandidates resolve (normalizeSandModel model) = resolvedModelCandidates resolve model:=by
 unfold resolvedModelCandidates
 rw [h]

theorem pushUnique_subset (candidate:String) : candidates ⊆ pushUnique candidates candidate:=by
 unfold pushUnique
 split_ifs
 · exact List.Subset.refl _
 · exact List.subset_append_left _ _

theorem mem_pushUnique {candidate:String} (h:candidate ≠ "") : candidate∈pushUnique candidates candidate:=by
 unfold pushUnique
 split_ifs with hknown
 · exact hknown.resolve_left h
 · exact List.mem_append_right _ List.mem_cons_self

theorem equivalentModelCandidates_mem (resolve:String → Option String) (model:String) :
  (∀ candidate∈resolvedModelCandidates resolve model,candidate∈equivalentModelCandidates resolve model) ∧
  ∀ candidate∈resolvedModelCandidates resolve model,∀ base,
   withoutPreview candidate=some base → base ≠ "" → base∈equivalentModelCandidates resolve model:=by
 have hall:∀ (originals all:List String),all ⊆ originals.foldl (fun all candidate=>
       let base:=(withoutPreview candidate).getD candidate
       pushUnique (pushUnique all base) (base ++ "-preview")) all ∧
   ∀ candidate∈originals,∀ base,withoutPreview candidate=some base → base ≠ "" →
    base∈originals.foldl (fun all candidate=>
     let base:=(withoutPreview candidate).getD candidate
     pushUnique (pushUnique all base) (base ++ "-preview")) all:=by
  intro originals
  induction originals with
  | nil=>exact fun all=>⟨List.Subset.refl _,nofun⟩
  | cons original originals ih=>
   intro all
   rw [List.foldl_cons]
   obtain ⟨hkept,hbases⟩:=ih (pushUnique
    (pushUnique all ((withoutPreview original).getD original))
     ((withoutPreview original).getD original ++ "-preview"))
   refine ⟨fun candidate hmem=>hkept (pushUnique_subset _ (pushUnique_subset _ hmem)),?_⟩
   intro candidate hmem base hbase hne
   rcases List.mem_cons.mp hmem with rfl | hmem
   · refine hkept (pushUnique_subset _ ?_)
     rw [hbase]
     exact mem_pushUnique hne
   · exact hbases candidate hmem base hbase hne
 obtain ⟨hkept,hbases⟩:=hall (resolvedModelCandidates resolve model) (resolvedModelCandidates resolve model)
 exact ⟨fun candidate hmem=>hkept hmem,hbases⟩

end candidates

section unscored
variable {candidates:List String} {rules:List CursorModelAccountRule}

theorem scored_none {rule:CursorModelAccountRule} (h:∀ candidate∈candidates,
  sandPatternMatches rule.model candidate=false) : scored candidates rule=none:=by
 unfold scored positionOf
 rw [List.findIdx?_eq_none_iff.mpr h]
 rfl

theorem scored_some {rule:CursorModelAccountRule} {candidate:String}
  (hmem:candidate∈candidates) (h:sandPatternMatches rule.model candidate=true) :
  ∃ score,scored candidates rule=some score:=by
 unfold scored positionOf
 cases hposition:candidates.findIdx? fun candidate=>sandPatternMatches rule.model candidate with
 | none=>
  exact (nomatch (List.findIdx?_eq_none_iff.mp hposition candidate hmem).symm.trans h)
 | some position=>exact ⟨_,rfl⟩

theorem bestRule_filter {p:CursorModelAccountRule → Bool} (h:∀ rule∈rules,p rule=false → scored candidates rule=none) :
  bestRule candidates (rules.filter p)=bestRule candidates rules:=by
 induction rules with
 | nil=>rfl
 | cons rule rules ih=>
  have hrest:=ih fun other hmem=>h other (List.mem_cons_of_mem rule hmem)
  cases hp:p rule with
  | true=>rw [List.filter_cons_of_pos hp,bestRule,bestRule,hrest]
  | false=>
   rw [List.filter_cons_of_neg (by rw [hp]; exact Bool.false_ne_true),hrest,bestRule,
    h rule List.mem_cons_self hp]

end unscored

structure Edits (resolve:String → Option String) (routes:List CursorModelAccountRule)
  (model account other:String) : Prop where
 assigned : accountForModel resolve (withModelAssignment resolve routes model (some account)) model =
  some (trimmed account)
 /-- Only wildcard rules are left for the model. -/
 cleared : accountForModel resolve (withModelAssignment resolve routes model none) model =
  accountForModel resolve (routes.filter fun rule=>modelPatternHasWildcards rule.model) model
 otherAssigned :
  accountForModel resolve (withModelAssignment resolve routes model (some account)) other =
   accountForModel resolve routes other
 otherCleared : accountForModel resolve (withModelAssignment resolve routes model none) other =
  accountForModel resolve routes other

/-- No literal rule that an edit of the model removes matches a candidate of the other one. -/
def Separate (resolve:String → Option String) (model other:String) : Prop :=
 ∀ literal∈equivalentModelCandidates resolve (normalizeSandModel model),literal ≠ "" →
  modelPatternHasWildcards literal=false → normalizeSandModel literal=literal →
   ∀ candidate∈resolvedModelCandidates resolve other,sandPatternMatches literal candidate=false

section edits
variable {resolve:String → Option String} {routes:List CursorModelAccountRule}
variable {model account:String}

theorem keptRules_literal (hconcrete:modelPatternHasWildcards (normalizeSandModel model)=false) :
  keptRules resolve routes (normalizeSandModel model)=routes.filter fun rule=>
   modelPatternHasWildcards rule.model ||
    rule.model ∉ equivalentModelCandidates resolve (normalizeSandModel model):=by
 unfold keptRules
 rw [hconcrete]
 rfl

theorem WellFormed.filter (h:WellFormed routes) (p:CursorModelAccountRule → Bool) : WellFormed (routes.filter p) :=
 ⟨h.distinct.sublist (List.filter_sublist.map _),
  fun rule hmem=>h.kept rule (List.mem_of_mem_filter hmem)⟩

theorem withModelAssignment_none (hmodel:normalizeSandModel model ≠ "") (hwell:WellFormed routes)
  (hstable:Stable routes) : withModelAssignment resolve routes model none =
   keptRules resolve routes (normalizeSandModel model):=by
 unfold withModelAssignment
 dsimp only
 rw [if_neg hmodel,Option.map_none,Option.filter_none]
 exact newPolicy_stable (WellFormed.filter hwell _) fun rule hmem=>
  hstable rule (List.mem_of_mem_filter hmem)

theorem mem_equivalentModelCandidates (hmodel:normalizeSandModel model ≠ "")
  (hnormal:normalizeSandModel (normalizeSandModel model)=normalizeSandModel model) :
  normalizeSandModel model∈equivalentModelCandidates resolve (normalizeSandModel model):=by
 refine (equivalentModelCandidates_mem resolve _).1 _ ?_
 obtain ⟨more,hmore⟩:=resolvedModelCandidates_begins resolve hmodel
 rw [resolvedModelCandidates_normalized resolve hnormal,hmore]
 exact List.mem_cons_self

theorem withModelAssignment_some (hmodel:normalizeSandModel model ≠ "")
  (hconcrete:modelPatternHasWildcards (normalizeSandModel model)=false)
  (hnormal:normalizeSandModel (normalizeSandModel model)=normalizeSandModel model)
  (haccount:trimmed account ≠ "") (hwell:WellFormed routes) (hstable:Stable routes) :
  withModelAssignment resolve routes model (some account) =
   ⟨normalizeSandModel model,trimmed account⟩ :: keptRules resolve routes (normalizeSandModel model):=by
 unfold withModelAssignment
 dsimp only
 rw [if_neg hmodel,Option.map_some,Option.filter_some,if_pos (decide_eq_true haccount)]
 have hself:=@mem_equivalentModelCandidates resolve model hmodel hnormal
 have hkept:=WellFormed.filter hwell fun rule=>
  modelPatternHasWildcards rule.model ||
   rule.model ∉ equivalentModelCandidates resolve (normalizeSandModel model)
 rw [← keptRules_literal hconcrete] at hkept
 refine newPolicy_stable ⟨List.nodup_cons.mpr ⟨?_,hkept.distinct⟩,?_⟩ ?_
 · intro hmem
   obtain ⟨rule,hrule,hsame⟩:=List.mem_map.mp hmem
   rw [keptRules_literal hconcrete] at hrule
   have hkeep:=List.of_mem_filter hrule
   rw [hsame,hconcrete,Bool.false_or] at hkeep
   exact of_decide_eq_true hkeep hself
 · intro rule hmem
   rcases List.mem_cons.mp hmem with rfl | hmem
   · exact ⟨hmodel,haccount,trimmed_trimmed account⟩
   · exact hkept.kept rule hmem
 · intro rule hmem
   rcases List.mem_cons.mp hmem with rfl | hmem
   · exact hnormal
   · exact hstable rule (List.mem_of_mem_filter hmem)

theorem accountForModel_congr {rules:List CursorModelAccountRule} {other:String}
  (h:bestRule (resolvedModelCandidates resolve other) rules =
   bestRule (resolvedModelCandidates resolve other) routes) :
  accountForModel resolve rules other=accountForModel resolve routes other:=by
 rw [accountForModel_bestRule,accountForModel_bestRule,h]

theorem kept_literal_unscored (hnormal:normalizeSandModel (normalizeSandModel model)=normalizeSandModel model)
  {rule:CursorModelAccountRule} (hne:rule.model ≠ "") (hliteral:modelPatternHasWildcards rule.model=false)
  (hkept:rule.model ∉ equivalentModelCandidates resolve (normalizeSandModel model)) :
  scored (resolvedModelCandidates resolve model) rule=none:=by
 obtain ⟨hsame,hbase⟩:=equivalentModelCandidates_mem resolve (normalizeSandModel model)
 rw [resolvedModelCandidates_normalized resolve hnormal] at hsame hbase
 refine scored_none fun candidate hmem=>Bool.eq_false_iff.mpr fun hmatches=>hkept ?_
 rcases sandPatternMatches_literal hliteral hmatches with rfl | hpreview
 · exact hsame _ hmem
 · exact hbase candidate hmem _ hpreview hne

theorem accountForModel_direct (hmodel:normalizeSandModel model ≠ "")
  (hconcrete:modelPatternHasWildcards (normalizeSandModel model)=false) (account:String)
  (rules:List CursorModelAccountRule) :
  accountForModel resolve (⟨normalizeSandModel model,account⟩::rules) model=some account:=by
 obtain ⟨more,hmore⟩:=resolvedModelCandidates_begins resolve hmodel
 have hposition:positionOf (resolvedModelCandidates resolve model) ⟨normalizeSandModel model,account⟩=some 0:=by
  unfold positionOf
  rw [hmore,List.findIdx?_cons,sandPatternMatches_self]
  rfl
 have hdirect:isDirect (resolvedModelCandidates resolve model) 0 ⟨normalizeSandModel model,account⟩=true:=by
  unfold isDirect
  rw [hmore,hconcrete]
  simp
 have hscored:scored (resolvedModelCandidates resolve model)
   ⟨normalizeSandModel model,account⟩=some (scoreOf
    (resolvedModelCandidates resolve model) 0 ⟨normalizeSandModel model,account⟩):=by
  unfold scored
  rw [hposition]
  rfl
 rw [accountForModel_bestRule,bestRule_cons _ _ hscored]
 cases hbest:bestRule (resolvedModelCandidates resolve model) rules with
 | none=>rfl
 | some found=>
  obtain ⟨position',-,hfound⟩:=Option.map_eq_some_iff.mp (bestRule_scored hbest)
  have hle:=@direct_not_beaten _ _ found.2 0 position' hdirect
  rw [hfound] at hle
  unfold better
  dsimp only
  rw [if_neg (not_lt.mpr hle)]
  rfl

theorem keptRules_self (hconcrete:modelPatternHasWildcards (normalizeSandModel model)=false)
  (hnormal:normalizeSandModel (normalizeSandModel model)=normalizeSandModel model) (hwell:WellFormed routes) :
  accountForModel resolve (keptRules resolve routes (normalizeSandModel model)) model =
   accountForModel resolve (routes.filter fun rule=>modelPatternHasWildcards rule.model)
    model:=by
 have hwildcards:(keptRules resolve routes (normalizeSandModel model)).filter
   (fun rule=>modelPatternHasWildcards rule.model) =
    routes.filter fun rule=>modelPatternHasWildcards rule.model:=by
  rw [keptRules_literal hconcrete,List.filter_filter]
  refine List.filter_congr fun rule _=>?_
  cases modelPatternHasWildcards rule.model <;> rfl
 rw [← hwildcards]
 refine accountForModel_congr (bestRule_filter fun rule hmem hliteral=>?_).symm
 rw [keptRules_literal hconcrete] at hmem
 have hkeep:=List.of_mem_filter hmem
 rw [hliteral,Bool.false_or] at hkeep
 exact kept_literal_unscored hnormal (hwell.kept rule (List.mem_of_mem_filter hmem)).model
  hliteral (of_decide_eq_true hkeep)

theorem keptRules_separate {other:String} (hconcrete:modelPatternHasWildcards (normalizeSandModel model)=false)
  (hwell:WellFormed routes) (hstable:Stable routes) (h:Separate resolve model other) :
  bestRule (resolvedModelCandidates resolve other)
   (keptRules resolve routes (normalizeSandModel model)) =
    bestRule (resolvedModelCandidates resolve other) routes:=by
 rw [keptRules_literal hconcrete]
 refine bestRule_filter fun rule hmem hremoved=>scored_none ?_
 obtain ⟨hliteral,hequivalent⟩:=Bool.or_eq_false_iff.mp hremoved
 exact h rule.model (not_not.mp (of_decide_eq_false hequivalent)) (hwell.kept rule hmem).model
  hliteral (hstable rule hmem)

theorem edits_of_separate {other:String} (hmodel:normalizeSandModel model ≠ "")
  (hconcrete:modelPatternHasWildcards (normalizeSandModel model)=false)
  (hnormal:normalizeSandModel (normalizeSandModel model)=normalizeSandModel model)
  (haccount:trimmed account ≠ "") (hwell:WellFormed routes) (hstable:Stable routes)
  (hseparate:Separate resolve model other) : Edits resolve routes model account other:=by
 have hkept:=keptRules_separate hconcrete hwell hstable hseparate
 have hsome:=@withModelAssignment_some resolve routes model account hmodel hconcrete hnormal haccount hwell hstable
 have hnone:=@withModelAssignment_none resolve routes model hmodel hwell hstable
 constructor
 · rw [hsome]
   exact accountForModel_direct hmodel hconcrete (trimmed account) _
 · rw [hnone]
   exact keptRules_self hconcrete hnormal hwell
 · rw [hsome]
   refine accountForModel_congr ?_
   have hself:=@mem_equivalentModelCandidates resolve model hmodel hnormal
   rw [bestRule,@scored_none _ ⟨normalizeSandModel model,trimmed account⟩ (hseparate _ hself hmodel hconcrete hnormal)]
   exact hkept
 · rw [hnone]
   exact accountForModel_congr hkept

end edits

/-- An edit leaves another model alone in every policy exactly if no rule that it may remove
matches a candidate of the other model. -/
theorem edits_leave_others_iff (resolve:String → Option String) (model other:String)
    (hconcrete:modelPatternHasWildcards (normalizeSandModel model)=false)
    (hnormal:normalizeSandModel (normalizeSandModel model)=normalizeSandModel model) :
    (∀ rules account,Stable (newPolicy rules) → trimmed account ≠ "" →
      Edits resolve (newPolicy rules) model account other) ↔
        normalizeSandModel model ≠ "" ∧ Separate resolve model other:=by
  have haccount:trimmed "b" = "b" ∧ ("b" : String) ≠ "" := by decide +kernel
  have haccount':trimmed "b" ≠ "" := haccount.1.symm ▸ haccount.2
  constructor
  · intro h
    have hmodel:normalizeSandModel model ≠ "" := by
      intro hempty
      have hassigned:=(h [] "b" (by intro _ hrule; cases hrule) haccount').assigned
      have hnone:resolvedModelCandidates resolve model=[]:=by
        unfold resolvedModelCandidates
        dsimp only
        rw [if_pos hempty]
      have hunscored:∀ rule,scored [] rule=none:=fun rule=>scored_none (by intro _ hmem; cases hmem)
      rw [accountForModel_bestRule,hnone,bestRule_isNone fun rule _=>hunscored rule]
        at hassigned
      cases hassigned
    refine ⟨hmodel,?_⟩
    intro literal hmem hne hliteral hstable candidate hcandidate
    refine Bool.eq_false_iff.mpr fun hmatches=>?_
    have hpolicy:newPolicy [⟨literal,"b"⟩]=[⟨literal,"b"⟩]:=by
      refine newPolicy_stable ⟨List.nodup_singleton _,fun rule hrule=>?_⟩ fun rule hrule=>?_
      · rw [List.mem_singleton.mp hrule]
        exact ⟨hne,haccount.2,haccount.1⟩
      · rw [List.mem_singleton.mp hrule]
        exact hstable
    have hstable':Stable (newPolicy [⟨literal,"b"⟩]):=by
      rw [hpolicy]
      intro rule hrule
      rw [List.mem_singleton.mp hrule]
      exact hstable
    have hcleared:=(h [⟨literal,"b"⟩] "b" hstable' haccount').otherCleared
    have hwell:=newPolicy_wellFormed [⟨literal,"b"⟩]
    rw [withModelAssignment_none hmodel hwell hstable',keptRules_literal hconcrete,
      accountForModel_bestRule,accountForModel_bestRule,hpolicy] at hcleared
    obtain ⟨score,hscore⟩:=@scored_some (resolvedModelCandidates resolve other)
      ⟨literal,"b"⟩ candidate hcandidate hmatches
    have hremoved:([⟨literal,"b"⟩] : List CursorModelAccountRule).filter (fun rule=>
        modelPatternHasWildcards rule.model ||
          rule.model ∉ equivalentModelCandidates resolve (normalizeSandModel model))=[]:=by
      refine List.filter_eq_nil_iff.mpr fun rule hrule=>?_
      rw [List.mem_singleton.mp hrule,hliteral,Bool.false_or]
      exact fun hkeep=>of_decide_eq_true hkeep hmem
    rw [hremoved,bestRule,bestRule,hscore] at hcleared
    cases hcleared
  · rintro ⟨hmodel,hseparate⟩ rules account hstable haccount
    exact edits_of_separate hmodel hconcrete hnormal haccount (newPolicy_wellFormed rules) hstable hseparate

theorem edits_leave_others_iff_plain : Edits (fun _=>none) (newPolicy [⟨"n","x"⟩]) "m" "b" "n" := by
  have hpolicy:newPolicy [⟨"n","x"⟩]=[⟨"n","x"⟩]:=by decide +kernel
  have hsame:normalizeSandModel "n" = "n" ∧ normalizeSandModel "m" = "m" := by decide +kernel
  have hplain:withoutPreview "n" = none:=by decide +kernel
  have hcandidates:resolvedModelCandidates (fun _=>none) "n" = ["n"] ∧
      equivalentModelCandidates (fun _=>none) "m" = ["m","m-preview"]:=by
    decide +kernel
  refine (edits_leave_others_iff (fun _=>none) "m" "n" (by decide +kernel)
    (by decide +kernel)).mpr ⟨by decide +kernel,?_⟩ [⟨"n","x"⟩] "b" ?_ (by decide +kernel)
  · intro literal hmem _ hliteral _ candidate hcandidate
    rw [hsame.2,hcandidates.2] at hmem
    rw [hcandidates.1] at hcandidate
    obtain rfl:=List.mem_singleton.mp hcandidate
    refine Bool.eq_false_iff.mpr fun hmatches=>?_
    rcases sandPatternMatches_literal hliteral hmatches with rfl | hpreview
    · exact absurd hmem (by decide)
    · rw [hplain] at hpreview
      exact (nomatch hpreview)
  · rw [hpolicy]
    intro rule hrule
    rw [List.mem_singleton.mp hrule]
    exact hsame.1

def bareGrok : List CursorModelAccountRule := [⟨"grok-4.6","b"⟩]

/-- The rule of the bare family serves every tier, and the edit of one tier removes it. -/
theorem family_rule_is_removed :
    ¬ ∀ (resolve:String → Option String) (rules:List CursorModelAccountRule)
      (model other account:String),modelPatternHasWildcards model=false →
        normalizeSandModel model ∉ equivalentModelCandidates resolve other →
          normalizeSandModel other ∉ equivalentModelCandidates resolve model →
            trimmed account ≠ "" → Edits resolve (newPolicy rules) model account other:=by
  intro h
  have hpolicy:newPolicy bareGrok=bareGrok:=by decide +kernel
  have hedited:withModelAssignment (fun _=>none) bareGrok "grok-4.6-xhigh-fast" none=[]:=by
    decide +kernel
  have hcleared:=(h (fun _=>none) bareGrok "grok-4.6-xhigh-fast" "grok-4.6-high-fast" "a"
    (by decide +kernel) (by decide +kernel) (by decide +kernel) (by decide +kernel)).otherCleared
  rw [hpolicy,hedited,accountForModel_bestRule,accountForModel_bestRule] at hcleared
  have hcandidate : "grok-4.6" ∈ resolvedModelCandidates (fun _=>none) "grok-4.6-high-fast" := by
    decide +kernel
  obtain ⟨score,hscore⟩:=@scored_some (resolvedModelCandidates (fun _=>none)
    "grok-4.6-high-fast") ⟨"grok-4.6","b"⟩ "grok-4.6" hcandidate (sandPatternMatches_self _)
  rw [bareGrok,bestRule,bestRule,bestRule,hscore] at hcleared
  cases hcleared

end CursorProxy.RouteEdits
