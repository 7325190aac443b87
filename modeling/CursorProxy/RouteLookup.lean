import CursorProxy.ModelRoutes

/-! A model is looked up under its aliases. Among the rules that match one of them the first with
the highest score decides. -/
namespace CursorProxy.RouteLookup
open ModelRoutes XmlElements

def pushUnique (candidates:List String) (candidate:String) : List String :=
 if candidate = "" ∨ candidate∈candidates then candidates else candidates++[candidate]

def fableTokens : List Text :=
 ["minimal","none","low","medium","high","xhigh","max","thinking","fast","preview"].map String.toList

def isFableSandFamily (model:String) : Bool :=
 let normalized:=normalizeSandModel model
 if normalized = "fable" ∨ normalized = "claude-fable-5" then true
 else match stripStart "claude-fable-5-".toList normalized.toList with
  | none=>false
  | some suffix=>(suffix.splitOn '-').all fun token=>fableTokens.contains token

def pushGrokDefaultVariants (candidates:List String) (publicFamily cursorFamily preview:Text) : List String :=
 pushUnique (pushUnique candidates (String.ofList (publicFamily ++ "-high-fast".toList++preview)))
  (String.ofList (cursorFamily ++ "-high-fast".toList++preview))

/-- Whether a Grok model is spelled as Cursor spells it, and what follows the family name. -/
def grokNamespace (base:Text) : Option (Bool×Text) :=
 match stripStart "cursor-grok-".toList base with
 | some rest=>some (true,rest)
 | none=>(stripStart "grok-".toList base).map fun rest=>(false,rest)

def isVersion (version:Text) : Bool :=
 !version.isEmpty&&version.all fun char=>char.isDigit||char == '.'

/-- A Grok model without an effort: the other spelling and the default tier. -/
def bareCandidates (normalized:String) (cursor:Bool) (rest preview:Text) : List String :=
 let family := "grok-".toList++rest
 let cursorFamily := "cursor-grok-".toList++rest
 let counterpart:=if cursor then family++preview else cursorFamily++preview
 pushGrokDefaultVariants (pushUnique (pushUnique (pushUnique [normalized]
  (String.ofList counterpart)) (String.ofList (family++preview)))
  (String.ofList (cursorFamily++preview))) family cursorFamily preview

/-- A Grok model with a tier: the same tier in the other spelling, then the bare family. -/
def tierCandidates (normalized:String) (cursor:Bool) (version suffix preview:Text) : List String :=
 let publicFamily := "grok-".toList++version
 let cursorFamily := "cursor-grok-".toList++version
 let variant:=fun family : Text=>if suffix.isEmpty then family else family ++ '-' :: suffix
 let counterpart:=if cursor then variant publicFamily else variant cursorFamily
 let candidates:=pushUnique (pushUnique (pushUnique [normalized]
  (String.ofList (counterpart++preview))) (String.ofList (publicFamily++preview)))
  (String.ofList (cursorFamily++preview))
 if suffix.isEmpty then pushGrokDefaultVariants candidates publicFamily cursorFamily preview
 else candidates

def accountRouteModelCandidates (model:String) : List String :=
 let normalized:=normalizeSandModel model
 if normalized = "" then []
 else
  let (base,preview):=match stripSuffix "-preview".toList normalized.toList with
   | some base=>(base,"-preview".toList)
   | none=>(normalized.toList,[])
  match grokNamespace base with
  | none=>[normalized]
  | some (cursor,rest)=>
   if '-' ∉ rest then bareCandidates normalized cursor rest preview
   else
    let version:=rest.takeWhile (· ≠ '-')
    if isVersion version then
     tierCandidates normalized cursor version (rest.drop (version.length+1)) preview
    else [normalized]

/-- At most so many steps of `resolve_cursor_model`, each of them a new candidate. -/
def resolveSteps (resolve:String → Option String) : ℕ → String → List String → List String
 | 0,_,candidates=>candidates
 | steps+1,candidate,candidates=>
  match resolve candidate with
  | none=>candidates
  | some resolved=>
   if resolved=candidate then candidates
   else resolveSteps resolve steps resolved (pushUnique candidates resolved)

def resolvedModelCandidates (resolve:String → Option String) (model:String) : List String :=
 let normalized:=normalizeSandModel model
 if normalized = "" then []
 else
  let base:=(withoutPreview normalized).getD normalized
  let candidates:=resolveSteps resolve 2 base (pushUnique [normalized] base)
  let candidates:=if candidates.any isFableSandFamily then
   pushUnique (pushUnique candidates "claude-fable-5") "fable" else candidates
  (candidates.flatMap accountRouteModelCandidates).foldl pushUnique candidates

/-- Whether the rule is literally the model that was asked for, whether it is literal, how early
its candidate is, and how long it is. -/
abbrev Score := ℕ ×ₗ ℕ ×ₗ ℕ ×ₗ ℕ

def positionOf (candidates:List String) (rule:CursorModelAccountRule) : Option ℕ :=
 candidates.findIdx? fun candidate=>sandPatternMatches rule.model candidate

def isDirect (candidates:List String) (position:ℕ) (rule:CursorModelAccountRule) : Bool :=
 position=0&&!modelPatternHasWildcards rule.model&&candidates.head?=some rule.model

def scoreOf (candidates:List String) (position:ℕ) (rule:CursorModelAccountRule) : Score :=
 toLex ((isDirect candidates position rule).toNat,toLex
  ((!modelPatternHasWildcards rule.model).toNat,toLex (candidates.length-position,rule.model.utf8ByteSize)))

def usizeMax : ℕ := 2 ^ 64-1

/-- The rules from an index on, and the best one before; an earlier rule wins a tie. -/
def scanRules (candidates:List String) : ℕ → List CursorModelAccountRule →
 Option ((Score ×ₗ ℕ)×CursorModelAccountRule) → Option ((Score ×ₗ ℕ)×CursorModelAccountRule)
 | _,[],best=>best
 | index,rule::rules,best=>
  match positionOf candidates rule with
  | none=>scanRules candidates (index+1) rules best
  | some position=>
   let score:=toLex (scoreOf candidates position rule,usizeMax-index)
   let best:=if best.all fun current=>current.1<score then some (score,rule) else best
   if isDirect candidates position rule then best
   else scanRules candidates (index+1) rules best

def accountForModel (resolve:String → Option String) (routes:List CursorModelAccountRule)
 (model:String) : Option String :=
 (scanRules (resolvedModelCandidates resolve model) 0 routes none).map fun best=>best.2.account

section best
variable {candidates:List String} {rule other:CursorModelAccountRule}

def scored (candidates:List String) (rule:CursorModelAccountRule) : Option Score :=
 (positionOf candidates rule).map fun position=>scoreOf candidates position rule

def bestRule (candidates:List String) : List CursorModelAccountRule → Option (Score×CursorModelAccountRule)
 | []=>none
 | rule::rules=>match scored candidates rule,bestRule candidates rules with
  | none,best=>best
  | some score,none=>some (score,rule)
  | some score,some best=>if score<best.1 then some best else some (score,rule)

theorem bestRule_none : ∀ {rules:List CursorModelAccountRule},
 bestRule candidates rules=none → ∀ rule∈rules,scored candidates rule=none:=by
 intro rules
 induction rules with
 | nil=>exact fun _=>nofun
 | cons first rules ih=>
  intro h rule hmem
  rw [bestRule] at h
  cases hscored:scored candidates first with
  | none=>
   rw [hscored] at h
   rcases List.mem_cons.mp hmem with rfl | hmem
   · exact hscored
   · exact ih h rule hmem
  | some score=>
   rw [hscored] at h
   cases hbest:bestRule candidates rules with
   | none=>
    rw [hbest] at h
    exact (nomatch h)
   | some best=>
    rw [hbest] at h
    dsimp only at h
    split_ifs at h

theorem bestRule_split : ∀ {rules:List CursorModelAccountRule} {top:CursorModelAccountRule}
 {score:Score},bestRule candidates rules=some (score,top) → ∃ before after,
  rules=before++top::after ∧ scored candidates top=some score ∧
  (∀ other∈before,∀ lower,scored candidates other=some lower → lower<score) ∧
  ∀ other∈after,∀ lower,scored candidates other=some lower → lower ≤ score:=by
 intro rules
 induction rules with
 | nil=>exact fun h=>nomatch h
 | cons first rules ih=>
  intro top score h
  rw [bestRule] at h
  cases hscored:scored candidates first with
  | none=>
   rw [hscored] at h
   obtain ⟨before,after,rfl,hscore,hbefore,hafter⟩:=ih h
   refine ⟨first::before,after,rfl,hscore,?_,hafter⟩
   intro other hmem lower hlower
   rcases List.mem_cons.mp hmem with rfl | hmem
   · exact (nomatch hscored.symm.trans hlower)
   · exact hbefore other hmem lower hlower
  | some found=>
   rw [hscored] at h
   cases hbest:bestRule candidates rules with
   | none=>
    rw [hbest] at h
    obtain ⟨rfl,rfl⟩:=Prod.mk.inj (Option.some.inj h)
    refine ⟨[],rules,rfl,hscored,nofun,fun other hmem lower hlower=>?_⟩
    exact (nomatch (bestRule_none hbest other hmem).symm.trans hlower)
   | some best=>
    rw [hbest] at h
    dsimp only at h
    split_ifs at h with hless
    · obtain rfl:=Option.some.inj h
      obtain ⟨before,after,rfl,hscore,hbefore,hafter⟩:=ih hbest
      refine ⟨first::before,after,rfl,hscore,?_,hafter⟩
      intro other hmem lower hlower
      rcases List.mem_cons.mp hmem with rfl | hmem
      · obtain rfl:=Option.some.inj (hscored.symm.trans hlower)
        exact hless
      · exact hbefore other hmem lower hlower
    · obtain ⟨rfl,rfl⟩:=Prod.mk.inj (Option.some.inj h)
      obtain ⟨high,second⟩:=best
      refine ⟨[],rules,rfl,hscored,nofun,fun other hmem lower hlower=>?_⟩
      have hhigh:high ≤ found:=not_lt.mp hless
      obtain ⟨before,after,rfl,hscore,hbefore,hafter⟩:=ih hbest
      rcases List.mem_append.mp hmem with hmem | hmem
      · exact ((hbefore other hmem lower hlower).trans_le hhigh).le
      rcases List.mem_cons.mp hmem with rfl | hmem
      · exact (Option.some.inj (hlower.symm.trans hscore)).le.trans hhigh
      · exact (hafter other hmem lower hlower).trans hhigh

theorem direct_not_beaten {position position':ℕ} (hdirect:isDirect candidates position rule=true) :
 scoreOf candidates position' other ≤ scoreOf candidates position rule:=by
 by_cases hother:isDirect candidates position' other=true
 · obtain ⟨⟨hfirst,-⟩,hmodel⟩:=Bool.and_eq_true_iff.mp hdirect |>.imp_left
    fun h=>Bool.and_eq_true_iff.mp h
   obtain ⟨⟨hfirst',-⟩,hmodel'⟩:=Bool.and_eq_true_iff.mp hother |>.imp_left
    fun h=>Bool.and_eq_true_iff.mp h
   have hsame:other.model=rule.model :=
    Option.some.inj ((of_decide_eq_true hmodel').symm.trans (of_decide_eq_true hmodel))
   obtain rfl:=of_decide_eq_true hfirst
   obtain rfl:=of_decide_eq_true hfirst'
   unfold scoreOf isDirect
   rw [hsame]
 · refine le_of_lt (Prod.Lex.lt_iff.mpr (Or.inl ?_))
   change (isDirect candidates position' other).toNat<(isDirect candidates position rule).toNat
   rw [hdirect,Bool.eq_false_iff.mpr hother]
   decide

theorem lt_encoded {current:Score ×ₗ ℕ} {score:Score} {encoded:ℕ} (h:encoded ≤ (ofLex current).2) :
 current<toLex (score,encoded) ↔ (ofLex current).1<score:=by
 rw [Prod.Lex.lt_iff]
 constructor
 · rintro (hless | ⟨-,hless⟩)
   · exact hless
   · exact absurd hless (Nat.not_lt.mpr h)
 · exact Or.inl

theorem bestRule_scored {rules:List CursorModelAccountRule} {best:Score×CursorModelAccountRule}
 (h:bestRule candidates rules=some best) : scored candidates best.2=some best.1:=by
 obtain ⟨before,after,-,hscored,-⟩:=bestRule_split h
 exact hscored

/-- What is left of the best rule before and the best one of the rules. -/
def better (best:Option (Score×CursorModelAccountRule))
 (found:Option (Score×CursorModelAccountRule)) : Option (Score×CursorModelAccountRule) :=
 match best,found with
 | none,found=>found
 | some current,none=>some current
 | some current,some found=>if current.1<found.1 then some found else some current

theorem better_none (best:Option (Score×CursorModelAccountRule)) : better best none=best:=by
 cases best <;> rfl

theorem bestRule_cons (rule:CursorModelAccountRule) (rules:List CursorModelAccountRule)
 {score:Score} (h:scored candidates rule=some score) :
 bestRule candidates (rule::rules)=better (some (score,rule)) (bestRule candidates rules):=by
 rw [bestRule,h]
 cases bestRule candidates rules <;> rfl

theorem better_assoc (first second third:Option (Score×CursorModelAccountRule)) :
 better (better first second) third=better first (better second third):=by
 cases first with
 | none=>rfl
 | some first=>
  cases second with
  | none=>rfl
  | some second=>
   cases third with
   | none=>
    rw [better_none,better_none]
   | some third=>
    unfold better
    dsimp only
    by_cases hfirst:first.1<second.1
    · by_cases hsecond:second.1<third.1
      · simp only [if_pos hfirst,if_pos hsecond,if_pos (hfirst.trans hsecond)]
      · simp only [if_pos hfirst,if_neg hsecond]
    · by_cases hsecond:second.1<third.1
      · simp only [if_neg hfirst,if_pos hsecond]
      · have hthird:¬ first.1<third.1:=fun hless=>
         hsecond ((not_lt.mp hfirst).trans_lt hless)
        simp only [if_neg hfirst,if_neg hsecond,if_neg hthird]

def forget (best:(Score ×ₗ ℕ)×CursorModelAccountRule) : Score×CursorModelAccountRule :=
 ((ofLex best.1).1,best.2)

theorem scanRules_bestRule (rules:List CursorModelAccountRule) : ∀ (index:ℕ)
 (best:Option ((Score ×ₗ ℕ)×CursorModelAccountRule)),(∀ current∈best,usizeMax-index ≤ (ofLex current.1).2) →
 (scanRules candidates index rules best).map forget = better (best.map forget) (bestRule candidates rules):=by
 induction rules with
 | nil=>
  intro index best _
  exact (better_none _).symm
 | cons rule rules ih=>
  intro index best hindex
  have hnext:usizeMax-(index+1) ≤ usizeMax-index:=by omega
  rw [scanRules]
  cases hposition:positionOf candidates rule with
  | none=>
   have hscored:scored candidates rule=none:=by
    unfold scored
    rw [hposition]
    rfl
   rw [bestRule,hscored]
   exact ih (index+1) best fun current hcurrent=>hnext.trans (hindex current hcurrent)
  | some position=>
   dsimp only
   have hscored:scored candidates rule=some (scoreOf candidates position rule):=by
    unfold scored
    rw [hposition]
    rfl
   generalize hscore : scoreOf candidates position rule=score at hscored
   obtain ⟨improved,himproved⟩ : ∃ improved,improved =
    if best.all fun current=>current.1<toLex (score,usizeMax-index) then
     some (toLex (score,usizeMax-index),rule) else best := ⟨_,rfl⟩
   have hbetter:improved.map forget=better (best.map forget) (some (score,rule)):=by
    rw [himproved]
    cases best with
    | none=>rfl
    | some current=>
     have hless:=@lt_encoded current.1 score _ (hindex current rfl)
     change Option.map forget (if decide (current.1<toLex (score,usizeMax-index))=true
      then _ else _)=if (ofLex current.1).1<score then _ else _
     by_cases h:(ofLex current.1).1<score
     · rw [if_pos (decide_eq_true (hless.mpr h)),if_pos h]
       rfl
     · rw [if_neg fun hlt=>h (hless.mp (of_decide_eq_true hlt)),if_neg h]
       rfl
   rw [bestRule_cons rule rules hscored,← better_assoc,← hbetter,← himproved]
   split_ifs with hdirect
   · -- A direct rule ends the scan, as nothing beats it.
     rw [hbetter,better_assoc]
     congr 1
     cases hbest:bestRule candidates rules with
     | none=>rfl
     | some found=>
      have hfound:=bestRule_scored hbest
      obtain ⟨position',-,hfound⟩:=Option.map_eq_some_iff.mp hfound
      have hle:=@direct_not_beaten candidates rule found.2 position position' hdirect
      rw [hfound,hscore] at hle
      exact (if_neg (not_lt.mpr hle)).symm
   · refine ih (index+1) improved fun current hcurrent=>?_
     rw [himproved] at hcurrent
     split_ifs at hcurrent
     · obtain rfl:=Option.some.inj hcurrent
       exact hnext
     · exact hnext.trans (hindex current hcurrent)

theorem accountForModel_bestRule (resolve:String → Option String) (routes:List CursorModelAccountRule) (model:String) :
 accountForModel resolve routes model =
  (bestRule (resolvedModelCandidates resolve model) routes).map fun best=>best.2.account:=by
 have hbest:=@scanRules_bestRule (resolvedModelCandidates resolve model) routes 0 none nofun
 change Option.map forget _=bestRule _ _ at hbest
 rw [← hbest,Option.map_map]
 rfl

end best

end CursorProxy.RouteLookup
