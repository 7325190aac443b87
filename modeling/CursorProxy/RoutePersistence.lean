import CursorProxy.ConfigTransactions
import CursorProxy.LiveRunKeys
import CursorProxy.RouteLookup

namespace CursorProxy.RoutePersistence
open ConfigTransactions JsonValues ModelRoutes RouteLookup
open XmlElements (Text trim trimStart isWhitespace)

def IsPolicy (routes:List CursorModelAccountRule) : Prop := ∃ rules,routes=newPolicy rules

structure Kept (rule:CursorModelAccountRule) : Prop where
 model : rule.model ≠ ""
 account : rule.account ≠ ""
 trimmed : trimmed rule.account=rule.account

theorem trimmed_trimmed (text:String) : trimmed (trimmed text)=trimmed text:=by
 unfold trimmed
 rw [String.toList_ofList,LiveRunKeys.trim_trim]

theorem setRule_models (rule:CursorModelAccountRule) (routes:List CursorModelAccountRule) :
  (setRule rule routes).map CursorModelAccountRule.model =
   if rule.model∈routes.map CursorModelAccountRule.model then
    routes.map CursorModelAccountRule.model
   else routes.map CursorModelAccountRule.model++[rule.model]:=by
 induction routes with
 | nil=>rfl
 | cons item items ih=>
  rw [setRule,List.map_cons]
  by_cases hsame:item.model=rule.model
  · rw [if_pos hsame,if_pos (List.mem_cons.mpr (Or.inl hsame.symm)),List.map_cons,hsame]
  · rw [if_neg hsame,List.map_cons,ih]
    have hiff:rule.model∈item.model::items.map CursorModelAccountRule.model ↔
      rule.model∈items.map CursorModelAccountRule.model :=
     ⟨fun hmem=>(List.mem_cons.mp hmem).resolve_left (Ne.symm hsame),
      List.mem_cons_of_mem item.model⟩
    simp only [hiff]
    split_ifs <;> rfl

variable {routes:List CursorModelAccountRule}

theorem setRule_mem {rule other:CursorModelAccountRule} (h:other∈setRule rule routes) : other=rule ∨ other∈routes:=by
 induction routes with
 | nil=>exact Or.inl (List.mem_singleton.mp h)
 | cons item items ih=>
  rw [setRule] at h
  split_ifs at h
  · rcases List.mem_cons.mp h with h | h
    · exact Or.inl h
    · exact Or.inr (List.mem_cons_of_mem item h)
  · rcases List.mem_cons.mp h with rfl | h
    · exact Or.inr List.mem_cons_self
    · exact (ih h).imp_right (List.mem_cons_of_mem item)

theorem setRule_fresh {rule:CursorModelAccountRule} (h:rule.model ∉ routes.map CursorModelAccountRule.model) :
  setRule rule routes=routes++[rule]:=by
 induction routes with
 | nil=>rfl
 | cons item items ih=>
  rw [List.map_cons,List.mem_cons,not_or] at h
  rw [setRule,if_neg (Ne.symm h.1),ih h.2]
  rfl

structure WellFormed (routes:List CursorModelAccountRule) : Prop where
 distinct : (routes.map CursorModelAccountRule.model).Nodup
 kept : ∀ rule∈routes,Kept rule

theorem WellFormed.addRule (h:WellFormed routes) (rule:CursorModelAccountRule) : WellFormed (addRule routes rule):=by
 unfold ModelRoutes.addRule
 dsimp only
 split_ifs with hempty
 · exact h
 rw [not_or] at hempty
 refine ⟨?_,fun other hother=>?_⟩
 · rw [setRule_models]
   split_ifs with hmem
   · exact h.distinct
   · exact List.nodup_append.mpr ⟨h.distinct,List.nodup_singleton _,fun model hmodel other hother=>
      fun hsame=>hmem (List.mem_singleton.mp hother ▸ hsame ▸ hmodel)⟩
 · rcases setRule_mem hother with rfl | hother
   · exact ⟨hempty.1,hempty.2,trimmed_trimmed rule.account⟩
   · exact h.kept other hother

theorem newPolicy_wellFormed (rules:List CursorModelAccountRule) : WellFormed (newPolicy rules):=by
 have hall:∀ routes,WellFormed routes → WellFormed (rules.foldl ModelRoutes.addRule routes):=by
  induction rules with
  | nil=>exact fun routes h=>h
  | cons rule rules ih=>
   intro routes h
   rw [List.foldl_cons]
   exact ih (ModelRoutes.addRule routes rule) (h.addRule rule)
 exact hall [] ⟨List.nodup_nil,nofun⟩

def Stable (routes:List CursorModelAccountRule) : Prop :=
 ∀ rule∈routes,normalizeSandModel rule.model=rule.model

theorem newPolicy_stable (h:WellFormed routes) (hstable:Stable routes) : newPolicy routes=routes:=by
 have hall:∀ before after,before++after=routes → after.foldl ModelRoutes.addRule before=before++after:=by
  intro before after
  induction after generalizing before with
  | nil=>
   intro _
   rw [List.foldl_nil,List.append_nil]
  | cons rule after ih=>
   intro hsplit
   have hmem:rule∈routes:=hsplit ▸ List.mem_append_right before List.mem_cons_self
   have hkept:=h.kept rule hmem
   have hdistinct:=h.distinct
   rw [← hsplit,List.map_append,List.map_cons] at hdistinct
   have hfresh:rule.model ∉ before.map CursorModelAccountRule.model:=fun hbefore=>
    (List.nodup_append.mp hdistinct).2.2 _ hbefore _ List.mem_cons_self rfl
   have hadd:ModelRoutes.addRule before rule=before++[rule]:=by
    unfold ModelRoutes.addRule
    dsimp only
    rw [hstable rule hmem,hkept.trimmed,if_neg (not_or.mpr ⟨hkept.model,hkept.account⟩)]
    exact setRule_fresh hfresh
   rw [List.foldl_cons,hadd,ih (before++[rule]) (by rw [List.append_assoc]; exact hsplit),
    List.append_assoc]
   rfl
 exact hall [] routes rfl

def sortedRules (routes:List CursorModelAccountRule) : List (String×String) :=
 routes.foldl (fun members rule=>insertMember rule.model rule.account members) []

def ruleOfMember (member:String×String) : CursorModelAccountRule := ⟨member.1,member.2⟩

variable {α:Type}

theorem insertMember_map {β:Type} (f:α → β) (key:String) (value:α) (members:List (String×α)) :
  insertMember key (f value) (members.map fun member=>(member.1,f member.2)) =
   (insertMember key value members).map fun member=>(member.1,f member.2):=by
 induction members with
 | nil=>rfl
 | cons member members ih=>
  rw [List.map_cons,insertMember,insertMember,ih]
  split_ifs <;> rfl

theorem routesValue_eq (routes:List CursorModelAccountRule) : routesValue routes =
  .object ((sortedRules routes).map fun member=>(member.1,.string member.2)):=by
 have hall:∀ members:List (String×String),
   routes.foldl (fun members rule=>insertMember rule.model (.string rule.account) members)
    (members.map fun member=>(member.1,JsonValue.string member.2)) =
   (routes.foldl (fun members rule=>insertMember rule.model rule.account members)
    members).map fun member=>(member.1,.string member.2):=by
  induction routes with
  | nil=>exact fun members=>rfl
  | cons rule routes ih=>
   intro members
   rw [List.foldl_cons,List.foldl_cons,insertMember_map JsonValue.string,ih]
 exact congrArg JsonValue.object (hall [])

theorem insertMember_mem {key:String} {value:α} {members:List (String×α)}
  {member:String×α} (h:member∈insertMember key value members) : member=(key,value) ∨ member∈members:=by
 induction members with
 | nil=>exact Or.inl (List.mem_singleton.mp h)
 | cons first members ih=>
  rw [insertMember] at h
  split_ifs at h
  · exact List.mem_cons.mp h
  · exact (List.mem_cons.mp h).imp_right (List.mem_cons_of_mem first)
  · rcases List.mem_cons.mp h with rfl | h
    · exact Or.inr List.mem_cons_self
    · exact (ih h).imp_right (List.mem_cons_of_mem first)

theorem insertMember_sorted {key:String} {value:α} {members:List (String×α)}
  (h:members.Pairwise fun first second=>first.1<second.1) :
  (insertMember key value members).Pairwise fun first second=>first.1<second.1:=by
 induction members with
 | nil=>exact List.pairwise_singleton _ _
 | cons first members ih=>
  obtain ⟨hfirst,hrest⟩:=List.pairwise_cons.mp h
  rw [insertMember]
  split_ifs with hless hsame
  · refine List.pairwise_cons.mpr ⟨fun other hother=>?_,h⟩
    rcases List.mem_cons.mp hother with rfl | hother
    · exact hless
    · exact hless.trans (hfirst other hother)
  · exact List.pairwise_cons.mpr ⟨fun other hother=>hsame ▸ hfirst other hother,hrest⟩
  · refine List.pairwise_cons.mpr ⟨fun other hother=>?_,ih hrest⟩
    rcases insertMember_mem hother with rfl | hother
    · exact lt_of_le_of_ne (not_lt.mp hless) (Ne.symm hsame)
    · exact hfirst other hother

theorem insertMember_perm {α:Type} {key:String} {value:α} {members:List (String×α)}
  (h:key ∉ members.map Prod.fst) : (insertMember key value members).Perm ((key,value)::members):=by
 induction members with
 | nil=>exact List.Perm.refl _
 | cons first members ih=>
  rw [List.map_cons,List.mem_cons,not_or] at h
  rw [insertMember]
  split_ifs with hless hsame
  · exact List.Perm.refl _
  · exact absurd hsame h.1
  · exact ((ih h.2).cons first).trans (List.Perm.swap _ _ _)

theorem sortedRules_facts (h:(routes.map CursorModelAccountRule.model).Nodup) :
  ((sortedRules routes).Pairwise fun first second=>first.1<second.1) ∧
   ((sortedRules routes).map ruleOfMember).Perm routes:=by
 have hall:∀ members:List (String×String),(members.Pairwise fun first second=>first.1<second.1) →
   (∀ rule∈routes,rule.model ∉ members.map Prod.fst) →
   ((routes.foldl (fun members rule=>insertMember rule.model rule.account members)
    members).Pairwise fun first second=>first.1<second.1) ∧
   ((routes.foldl (fun members rule=>insertMember rule.model rule.account members)
    members).map ruleOfMember).Perm (members.map ruleOfMember++routes):=by
  induction routes with
  | nil=>
   intro members hsorted _
   rw [List.append_nil]
   exact ⟨hsorted,List.Perm.refl _⟩
  | cons rule routes ih=>
   intro members hsorted hfresh
   obtain ⟨hrule,hroutes⟩:=List.nodup_cons.mp h
   have hperm:=@insertMember_perm _ rule.model rule.account members (hfresh rule List.mem_cons_self)
   obtain ⟨hsorted',hperm'⟩:=ih hroutes (insertMember rule.model rule.account members)
    (insertMember_sorted hsorted) (by
     intro other hother hmem
     rcases List.mem_cons.mp ((hperm.map Prod.fst).subset hmem) with hsame | hmem
     · have hsame:other.model=rule.model:=hsame
       exact hrule (hsame ▸ List.mem_map_of_mem hother)
     · exact hfresh other (List.mem_cons_of_mem rule hother) hmem)
   refine ⟨hsorted',hperm'.trans ?_⟩
   have hmoved:=(hperm.map ruleOfMember).append_right routes
   exact hmoved.trans List.perm_middle.symm
 exact hall [] List.Pairwise.nil fun _ _=>List.not_mem_nil

/-- The rest of the config document, without the rules, can be read. -/
def Readable (document:Document) : Bool :=
 (configFields.all fun field=>
  field.1 == "cursor" || fitsOption field.2 (rootMember document field.1)) &&
 cursorFields.all fun field=>
  field.1 == "modelAccounts" || fitsOption field.2 (cursorMember document field.1)

theorem all_field {fields:List (String×Fits)} {key:String} {fits:Fits}
  {value:String → Option JsonValue} (hmem:(key,fits)∈fields) (hunique:∀ field∈fields,field.1=key → field=(key,fits)) :
  (fields.all fun field=>fitsOption field.2 (value field.1)) =
   ((fields.all fun field=>field.1==key||fitsOption field.2 (value field.1)) &&
    fitsOption fits (value key)):=by
 rw [Bool.eq_iff_iff,Bool.and_eq_true,List.all_eq_true,List.all_eq_true]
 constructor
 · intro h
   exact ⟨fun field hfield=>Bool.or_eq_true_iff.mpr (Or.inr (h field hfield)),
    h (key,fits) hmem⟩
 · rintro ⟨hothers,hkey⟩ field hfield
   rcases Bool.or_eq_true_iff.mp (hothers field hfield) with hsame | hfits
   · obtain rfl:=hunique field hfield (beq_iff_eq.mp hsame)
     exact hkey
   · exact hfits

theorem configFields_cursor : ("cursor",fitsStruct cursorFields)∈configFields ∧
  ∀ field∈configFields,field.1 = "cursor" → field=("cursor",fitsStruct cursorFields):=by
 unfold configFields
 constructor
 · simp
 · simp

theorem cursorFields_modelAccounts :
  ("modelAccounts",fun value=>(modelAccounts value).isSome)∈cursorFields ∧
   ∀ field∈cursorFields,field.1 = "modelAccounts" →
    field=("modelAccounts",fun value=>(modelAccounts value).isSome):=by
 unfold cursorFields
 constructor
 · simp
 · simp

theorem allSome_map {β:Type} (f:α → β) (values:List α) :
  allSome (values.map fun value=>some (f value))=some (values.map f):=by
 induction values with
 | nil=>rfl
 | cons value values ih=>
  rw [List.map_cons,allSome,ih]
  rfl

theorem modelAccounts_routesValue (routes:List CursorModelAccountRule) :
  modelAccounts (routesValue routes)=some ((sortedRules routes).map ruleOfMember):=by
 rw [routesValue_eq,modelAccounts,List.map_map]
 exact allSome_map ruleOfMember (sortedRules routes)

variable {initial:Document} {routes:List CursorModelAccountRule} {root:JsonValue}

theorem configuredRules_written (h:withRoutes routes initial=.ok root) :
  configuredRules (.file (some root)) = if Readable initial then (sortedRules routes).map ruleOfMember else []:=by
 obtain ⟨hroot,hset,hcursor⟩:=setCursorMember_others h
 obtain ⟨members,cursor,-,-,rfl⟩:=setCursorMember_shape h
 generalize hcursor' : insertMember "modelAccounts" (routesValue routes) cursor=cursor' at *
 have hget:(JsonValue.object (insertMember "cursor" (.object cursor') members)).get "cursor" =
   some (.object cursor') := (get_insertMember _ _ _ _).trans (if_pos rfl)
 have hinner:∀ key,(JsonValue.object cursor').get key =
   cursorMember (.file (some (.object (insertMember "cursor" (.object cursor') members)))) key:=by
  intro key
  unfold cursorMember
  change _=member key ((JsonValue.object _).get "cursor")
  rw [hget]
  rfl
 have hrules:(JsonValue.object cursor').get "modelAccounts" = some (routesValue routes) :=
  (hinner _).trans hset
 have hcursorFits:fitsStruct cursorFields (.object cursor') = cursorFields.all fun field=>
       field.1 == "modelAccounts" || fitsOption field.2 (cursorMember initial field.1):=by
  have hsplit:=@all_field cursorFields "modelAccounts" _
   (fun key=>(JsonValue.object cursor').get key) cursorFields_modelAccounts.1
   cursorFields_modelAccounts.2
  have hfits:fitsOption (fun value=>(modelAccounts value).isSome)
    ((JsonValue.object cursor').get "modelAccounts")=true:=by
   rw [hrules,routesValue_eq]
   change (modelAccounts _).isSome=true
   rw [← routesValue_eq,modelAccounts_routesValue]
   rfl
  change (cursorFields.all fun field=>fitsOption field.2 ((JsonValue.object cursor').get field.1))=_
  rw [hsplit,hfits,Bool.and_true]
  refine List.all_congr rfl fun field=>?_
  by_cases hkey:field.1 = "modelAccounts"
  · rw [hkey]
    rfl
  · rw [hinner,hcursor field.1 hkey]
 have hfits:fitsStruct configFields (.object (insertMember "cursor" (.object cursor') members)) =
   Readable initial:=by
  have hsplit:=@all_field configFields "cursor" _ (fun key=>
   (JsonValue.object (insertMember "cursor" (.object cursor') members)).get key)
   configFields_cursor.1 configFields_cursor.2
  change (configFields.all fun field=>fitsOption field.2
   ((JsonValue.object (insertMember "cursor" (.object cursor') members)).get field.1))=_
  rw [hsplit,hget]
  unfold Readable
  congr 1
  · refine List.all_congr rfl fun field=>?_
    by_cases hkey:field.1 = "cursor"
    · rw [hkey]
      rfl
    · rw [← hroot field.1 hkey]
      rfl
 unfold configuredRules readFileConfig
 dsimp only
 rw [hfits]
 by_cases hreadable:Readable initial=true
 · rw [if_pos hreadable,if_pos hreadable,Option.bind_some]
   have hfield:fieldOf configFields "cursor"
     (.object (insertMember "cursor" (.object cursor') members))=some (.object cursor'):=by
    unfold fieldOf
    dsimp only
    rw [hget]
    rfl
   have hfield':fieldOf cursorFields "modelAccounts" (.object cursor') = some (routesValue routes):=by
    unfold fieldOf
    dsimp only
    rw [hrules,routesValue_eq]
    rfl
   rw [hfield,Option.bind_some,hfield',Option.bind_some,modelAccounts_routesValue]
   rfl
 · rw [if_neg hreadable,if_neg hreadable]
   rfl

def FirstTop (candidates:List String) (routes:List CursorModelAccountRule) (first:CursorModelAccountRule) : Prop :=
 ∃ before after score,routes=before++first::after ∧ scored candidates first=some score ∧
  (∀ other∈before,∀ lower,scored candidates other=some lower → lower<score) ∧
  ∀ other∈after,∀ lower,scored candidates other=some lower → lower ≤ score

def LeastTop (candidates:List String) (routes:List CursorModelAccountRule) (least:CursorModelAccountRule) : Prop :=
 least∈routes ∧ ∃ score,scored candidates least=some score ∧
  ∀ other∈routes,∀ lower,scored candidates other=some lower → lower<score ∨ lower=score ∧ least.model ≤ other.model

/-- Where several rules have the highest score, their order makes no difference. -/
def TopAgree (candidates:List String) (routes:List CursorModelAccountRule) : Prop :=
 ∀ first least,FirstTop candidates routes first → LeastTop candidates routes least →
  first.account=least.account

section top
variable {candidates:List String} {first second:CursorModelAccountRule}

theorem FirstTop.unique (h:FirstTop candidates routes first) (h':FirstTop candidates routes second) : first=second:=by
 obtain ⟨before,after,score,hroutes,hscore,hbefore,hafter⟩:=h
 obtain ⟨before',after',score',hroutes',hscore',hbefore',hafter'⟩:=h'
 rcases List.append_eq_append_iff.mp (hroutes.symm.trans hroutes') with
  ⟨middle,rfl,hmiddle⟩ | ⟨middle,rfl,hmiddle⟩
 · cases middle with
   | nil=>exact (List.cons.inj hmiddle).1
   | cons rule middle=>
    obtain ⟨rfl,rfl⟩:=List.cons.inj hmiddle
    have hless:=hbefore' first (List.mem_append_right before List.mem_cons_self) score hscore
    have hle:=hafter second (List.mem_append_right middle List.mem_cons_self) score' hscore'
    exact absurd hless (not_lt.mpr hle)
 · cases middle with
   | nil=>exact (List.cons.inj hmiddle).1.symm
   | cons rule middle=>
    obtain ⟨rfl,rfl⟩:=List.cons.inj hmiddle
    have hless:=hbefore second (List.mem_append_right before' List.mem_cons_self) score' hscore'
    have hle:=hafter' first (List.mem_append_right middle List.mem_cons_self) score hscore
    exact absurd hless (not_lt.mpr hle)

theorem LeastTop.unique (hdistinct:(routes.map CursorModelAccountRule.model).Nodup)
  (h:LeastTop candidates routes first) (h':LeastTop candidates routes second) : first=second:=by
 obtain ⟨hmem,score,hscore,hleast⟩:=h
 obtain ⟨hmem',score',hscore',hleast'⟩:=h'
 have hmodels:first.model=second.model:=by
  rcases hleast second hmem' score' hscore' with hless | ⟨rfl,hle⟩
  · rcases hleast' first hmem score hscore with hless' | ⟨rfl,-⟩
    · exact absurd hless (not_lt.mpr hless'.le)
    · exact absurd hless (lt_irrefl _)
  · rcases hleast' first hmem score' hscore with hless' | ⟨-,hle'⟩
    · exact absurd hless' (lt_irrefl _)
    · exact le_antisymm hle hle'
 exact List.inj_on_of_nodup_map hdistinct hmem hmem' hmodels

theorem bestRule_firstTop {score:Score} (h:bestRule candidates routes=some (score,first)) :
  FirstTop candidates routes first:=by
 obtain ⟨before,after,hroutes,hfacts⟩:=bestRule_split h
 exact ⟨before,after,score,hroutes,hfacts⟩

theorem bestRule_leastTop {rules:List CursorModelAccountRule} {score:Score}
  (hsorted:rules.Pairwise fun first second=>first.model<second.model)
  (hperm:rules.Perm routes) (h:bestRule candidates rules=some (score,first)) :
  LeastTop candidates routes first:=by
 obtain ⟨before,after,rfl,hscore,hbefore,hafter⟩:=bestRule_split h
 refine ⟨hperm.subset (List.mem_append_right before List.mem_cons_self),score,hscore,?_⟩
 intro other hmem lower hlower
 rcases List.mem_append.mp (hperm.symm.subset hmem) with hmem | hmem
 · exact Or.inl (hbefore other hmem lower hlower)
 rcases List.mem_cons.mp hmem with rfl | hmem
 · exact Or.inr ⟨Option.some.inj (hlower.symm.trans hscore),le_rfl⟩
 · rcases lt_or_eq_of_le (hafter other hmem lower hlower) with hless | hsame
   · exact Or.inl hless
   · have hbehind:=(List.pairwise_append.mp hsorted).2.1
     exact Or.inr ⟨hsame,((List.pairwise_cons.mp hbehind).1 other hmem).le⟩

theorem bestRule_isNone (h:∀ rule∈routes,scored candidates rule=none) : bestRule candidates routes=none:=by
 cases hbest:bestRule candidates routes with
 | none=>rfl
 | some best=>
  obtain ⟨before,after,rfl,hscore,-⟩:=bestRule_split hbest
  exact (nomatch (h best.2 (List.mem_append_right before List.mem_cons_self)).symm.trans hscore)

end top

structure Survives (resolve:String → Option String) (initial:Document) (root:JsonValue)
  (routes:List CursorModelAccountRule) (model:String) : Prop where
 same : accountForModel resolve (routingPolicy none (.file (some root))) model = accountForModel resolve routes model
 others : ∀ key,key ≠ "cursor" → rootMember (.file (some root)) key=rootMember initial key
 cursorOthers : ∀ key,key ≠ "modelAccounts" → cursorMember (.file (some root)) key=cursorMember initial key

theorem wellFormed_perm {rules:List CursorModelAccountRule} (h:WellFormed routes)
  (hperm:rules.Perm routes) : WellFormed rules :=
 ⟨(hperm.map CursorModelAccountRule.model).nodup_iff.mpr h.distinct,
  fun rule hmem=>h.kept rule (hperm.subset hmem)⟩

theorem stored_agree_iff (candidates:List String) (hwell:WellFormed routes) (hstable:Stable routes) :
  (bestRule candidates (newPolicy ((sortedRules routes).map ruleOfMember))).map (fun best=>best.2.account) =
   (bestRule candidates routes).map (fun best=>best.2.account) ↔
    TopAgree candidates routes:=by
 obtain ⟨hsorted,hperm⟩:=sortedRules_facts hwell.distinct
 have hsorted':((sortedRules routes).map ruleOfMember).Pairwise
   fun first second=>first.model<second.model := List.pairwise_map.mpr hsorted
 have hsame:newPolicy ((sortedRules routes).map ruleOfMember) = (sortedRules routes).map ruleOfMember :=
  newPolicy_stable (wellFormed_perm hwell hperm) fun rule hmem=>
   hstable rule (hperm.subset hmem)
 rw [hsame]
 cases hbest:bestRule candidates routes with
 | none=>
  have hnone:=bestRule_none hbest
  rw [bestRule_isNone fun rule hmem=>hnone rule (hperm.subset hmem)]
  refine iff_of_true rfl fun first least hfirst _=>?_
  obtain ⟨before,after,score,rfl,hscore,-⟩:=hfirst
  exact (nomatch (hnone first (List.mem_append_right before List.mem_cons_self)).symm.trans hscore)
 | some best=>
  obtain ⟨score,top⟩:=best
  cases hbest':bestRule candidates ((sortedRules routes).map ruleOfMember) with
  | none=>
   have hnone:=bestRule_none hbest'
   rw [bestRule_isNone fun rule hmem=>hnone rule (hperm.symm.subset hmem)] at hbest
   exact (nomatch hbest)
  | some best'=>
   obtain ⟨score',least⟩:=best'
   have hfirst:=bestRule_firstTop hbest
   have hleast:=bestRule_leastTop hsorted' hperm hbest'
   constructor
   · intro h first least' hfirst' hleast'
     obtain rfl:=hfirst.unique hfirst'
     obtain rfl:=hleast.unique hwell.distinct hleast'
     exact (Option.some.inj h).symm
   · intro h
     exact congrArg some (h top least hfirst hleast).symm

/-- A policy that is written and read gives a model the same account exactly if the order of its
best rules makes no difference, as long as the config can be read. -/
theorem routes_survive_iff (resolve:String → Option String) (initial:Document)
    (rules:List CursorModelAccountRule) (root:JsonValue) (model:String)
    (hwrite:withRoutes (newPolicy rules) initial=.ok root) (hstable:Stable (newPolicy rules)) :
    Survives resolve initial root (newPolicy rules) model ↔
      (Readable initial=true ∧ TopAgree (resolvedModelCandidates resolve model) (newPolicy rules)) ∨
      (Readable initial=false ∧ ∀ rule∈newPolicy rules,scored (resolvedModelCandidates resolve model) rule=none):=by
  have hwell:=newPolicy_wellFormed rules
  generalize newPolicy rules=routes at hwrite hstable hwell ⊢
  generalize hcandidates : resolvedModelCandidates resolve model=candidates
  obtain ⟨hroot,-,hcursor⟩:=setCursorMember_others hwrite
  have hsurvives:Survives resolve initial root routes model ↔
      accountForModel resolve (routingPolicy none (.file (some root))) model = accountForModel resolve routes model :=
    ⟨fun h=>h.same,fun h=>⟨h,hroot,hcursor⟩⟩
  have hloaded:routingPolicy none (.file (some root)) =
      newPolicy (if Readable initial then (sortedRules routes).map ruleOfMember else []) :=
    congrArg newPolicy (configuredRules_written hwrite)
  rw [hsurvives,hloaded,accountForModel_bestRule,accountForModel_bestRule,hcandidates]
  by_cases hreadable:Readable initial=true
  · have hiff:(Readable initial=true ∧ TopAgree candidates routes) ∨
        (Readable initial=false ∧ ∀ rule∈routes,scored candidates rule=none) ↔ TopAgree candidates routes:=by
      constructor
      · rintro (⟨-,h⟩ | ⟨hunreadable,-⟩)
        · exact h
        · exact (nomatch hreadable.symm.trans hunreadable)
      · exact fun h=>Or.inl ⟨hreadable,h⟩
    rw [if_pos hreadable,hiff]
    exact stored_agree_iff candidates hwell hstable
  · have hunreadable:Readable initial=false:=Bool.eq_false_iff.mpr hreadable
    rw [if_neg hreadable]
    constructor
    · intro h
      refine Or.inr ⟨hunreadable,bestRule_none ?_⟩
      exact Option.map_eq_none_iff.mp h.symm
    · rintro (⟨htrue,-⟩ | ⟨-,hnone⟩)
      · exact absurd htrue hreadable
      · rw [bestRule_isNone hnone]
        rfl

def oneRule : List CursorModelAccountRule := [⟨"m","x"⟩]

theorem routes_survive_iff_one : ∃ root,withRoutes (newPolicy oneRule) .missing=.ok root ∧
    Survives (fun _=>none) .missing root (newPolicy oneRule) "m" := by
  have hpolicy:newPolicy oneRule=[⟨"m","x"⟩]:=by decide +kernel
  have hstable:Stable (newPolicy oneRule):=by
    rw [hpolicy]
    intro rule hmem
    obtain rfl:=List.mem_singleton.mp hmem
    decide +kernel
  refine ⟨_,rfl,(routes_survive_iff (fun _=>none) .missing oneRule _ "m" rfl hstable).mpr
    (Or.inl ⟨by decide +kernel,?_⟩)⟩
  rw [hpolicy]
  rintro first least ⟨before,after,score,hsplit,-⟩ ⟨hleast,-⟩
  have hfirst:first∈[(⟨"m","x"⟩ : CursorModelAccountRule)] :=
    hsplit ▸ List.mem_append_right before List.mem_cons_self
  rw [List.mem_singleton.mp hfirst,List.mem_singleton.mp hleast]

def overlapping : List CursorModelAccountRule := [⟨"a*","x"⟩,⟨"*b","y"⟩]

theorem overlapping_scored : scored ["ab"] ⟨"a*","x"⟩=some (scoreOf ["ab"] 0 ⟨"a*","x"⟩) ∧
  scored ["ab"] ⟨"*b","y"⟩=some (scoreOf ["ab"] 0 ⟨"a*","x"⟩):=by
 have hbytes:SseEvents.bytesOf "a*".toList=[97,42] ∧ SseEvents.bytesOf "*b".toList=[42,98] ∧
   SseEvents.bytesOf "ab".toList=[97,98]:=by
  decide
 have hmatches:sandPatternMatches "a*" "ab" = true ∧ sandPatternMatches "*b" "ab" = true:=by
  unfold sandPatternMatches globMatches
  rw [hbytes.1,hbytes.2.1,hbytes.2.2]
  constructor <;> simp [globLoop]
 have hscore:scoreOf ["ab"] 0 ⟨"*b","y"⟩=scoreOf ["ab"] 0 ⟨"a*","x"⟩:=by decide
 unfold scored positionOf
 simp only [List.findIdx?_cons,hmatches,if_true,Option.map_some,hscore,and_self]

/-- What was written first wins before, and what comes first by its model wins after. -/
theorem stored_order_decides :
    ¬ ∀ (resolve:String → Option String) (initial:Document)
      (rules:List CursorModelAccountRule) (root:JsonValue) (model:String),
      withRoutes (newPolicy rules) initial=.ok root → Survives resolve initial root (newPolicy rules) model:=by
  intro h
  have hpolicy:newPolicy overlapping=overlapping:=by decide +kernel
  obtain ⟨root,hroot⟩ : ∃ root,withRoutes overlapping .missing=.ok root:=⟨_,rfl⟩
  have hsame:=(h (fun _=>none) .missing overlapping root "ab" (hpolicy.symm ▸ hroot)).same
  have hcandidates:resolvedModelCandidates (fun _=>none) "ab" = ["ab"]:=by decide +kernel
  have hsorted:routingPolicy none (.file (some root))=[⟨"*b","y"⟩,⟨"a*","x"⟩]:=by
    change newPolicy (configuredRules (.file (some root)))=_
    rw [configuredRules_written hroot]
    decide +kernel
  rw [hpolicy,hsorted,accountForModel_bestRule,accountForModel_bestRule,hcandidates,overlapping] at hsame
  simp only [bestRule,overlapping_scored.1,overlapping_scored.2,lt_irrefl,if_false] at hsame
  exact absurd hsame (by decide)

end CursorProxy.RoutePersistence
